import Syllabary.Toml.Parser

/-!
# Spacing, strings and keys

The smallest pieces of a document. Lines end with LF or CRLF, and a CRLF inside a string over
several lines is read as LF.
-/

namespace Syllabary.Toml

open Syllabary.Toml.Parser

/-! ## Spacing -/

/-- Space and tab. -/
def isBlank (c : Char) : Bool := c == ' ' || c == '\t'

/-- What may stand in comments and strings: the tab and all but control characters of ASCII. -/
def isPlain (c : Char) : Bool := c == '\t' || (0x20 ≤ c.toNat && c.toNat != 0x7F)

/-- Blanks, if there are any. -/
def blanks : Parser Unit := discard (takeWhile isBlank)

/-- The end of a line. -/
def newline : Parser Unit := char '\n' <|> text ['\r', '\n']

/-- A comment, up to the end of its line. -/
def comment : Parser Unit := do
  char '#'
  discard (takeWhile isPlain)

/-- The rest of a line that holds no more than a comment. -/
def lineEnd : Parser Unit := do
  blanks
  discard (optional comment)
  newline <|> atEnd

/-- Blanks, line ends and whole comments. -/
def spacing : Parser Unit :=
  discard (many (discard (takeWhile1 isBlank) <|> (optional comment *> newline)))

/-! ## Strings -/

/-- The value of a digit in base sixteen. -/
def digitValue? (c : Char) : Option Nat :=
  if '0' ≤ c ∧ c ≤ '9' then some (c.toNat - '0'.toNat)
  else if 'a' ≤ c ∧ c ≤ 'f' then some (c.toNat - 'a'.toNat + 10)
  else if 'A' ≤ c ∧ c ≤ 'F' then some (c.toNat - 'A'.toNat + 10)
  else none

/-- Reads a digit of a base up to sixteen. -/
def digit (base : Nat) : Parser Nat
  | [] => none
  | c :: t => (digitValue? c).bind fun d => if d < base then some (d, t) else none

/-- Reads exactly `count` digits of a base, which continue the number `n`. -/
def digitsAfter (base n : Nat) : Nat → Parser Nat
  | 0 => return n
  | count + 1 => do digitsAfter base (n * base + (← digit base)) count

/-- Reads a number of exactly `count` digits of a base. -/
def fixedDigits (base count : Nat) : Parser Nat := digitsAfter base 0 count

/-- A character given by its code in `count` digits of base sixteen. -/
def codePoint (count : Nat) : Parser Char := do
  let code ← fixedDigits 16 count
  guard code.isValidChar
  return Char.ofNat code

/-- The character that an escape stands for, the backslash being read. -/
def escape : Parser Char := do
  match ← satisfy fun _ => true with
  | 'b' => return '\x08'
  | 't' => return '\t'
  | 'n' => return '\n'
  | 'f' => return '\x0C'
  | 'r' => return '\r'
  | '"' => return '"'
  | '\\' => return '\\'
  | 'u' => codePoint 4
  | 'U' => codePoint 8
  | _ => failure

/-- What a basic string holds without an escape. -/
def isBasic (c : Char) : Bool := isPlain c && c != '"' && c != '\\'

/-- What a literal string holds. -/
def isLiteral (c : Char) : Bool := isPlain c && c != '\x27'

/-- A character given by an escape. -/
def escaped : Parser Text := do
  char '\\'
  let c ← escape
  return [c]

/-- A string in double quotes, where a backslash escapes. -/
def basicString : Parser Text := do
  char '"'
  let pieces ← many (takeWhile1 isBasic <|> escaped)
  char '"'
  return pieces.flatten

/-- A string in single quotes, taken as it is. -/
def literalString : Parser Text := do
  char '\x27'
  let content ← takeWhile isLiteral
  char '\x27'
  return content

/-- A line end inside a string. -/
def brokenLine : Parser Text := do
  newline
  return ['\n']

/-- A backslash at the end of a line, which hides all spacing up to the next character. -/
def hiddenBreak : Parser Text := do
  char '\\'
  blanks
  newline
  discard (many (discard (takeWhile1 isBlank) <|> newline))
  return []

/-- One or two quotes inside a string that three of them end. -/
def innerQuotes (quote : Char) : Parser Text := do
  let quotes ← takeWhile1 (· == quote)
  guard (quotes.length < 3)
  return quotes

/-- The quotes that end a string over several lines: three, and up to two before them that belong to
the string. -/
def closingQuotes (quote : Char) : Parser Text := do
  let quotes ← takeWhile1 (· == quote)
  guard (3 ≤ quotes.length && quotes.length ≤ 5)
  return quotes.drop 3

/-- A string between three quotes on either side. A line end right after the first ones does not
count. -/
def multilineString (quote : Char) (piece : Parser Text) : Parser Text := do
  text [quote, quote, quote]
  discard (optional newline)
  let pieces ← many (piece <|> brokenLine <|> innerQuotes quote)
  let last ← closingQuotes quote
  return pieces.flatten ++ last

/-- A string of any of the four kinds. -/
def string : Parser Text :=
  multilineString '"' (takeWhile1 isBasic <|> hiddenBreak <|> escaped) <|> basicString <|>
    multilineString '\x27' (takeWhile1 isLiteral) <|> literalString

/-! ## Keys -/

/-- What a key holds without quotes. -/
def isBare (c : Char) : Bool := c.isAlphanum || c == '_' || c == '-'

/-- One part of a key. -/
def keyPart : Parser Text := takeWhile1 isBare <|> basicString <|> literalString

/-- The place of a value: the tables that lead to it, and its name in the last of them. -/
structure Path where
  tables : List Text
  name : Text

/-- The path of nonempty parts. -/
def Path.ofParts (first : Text) (others : List Text) : Path :=
  ⟨(first :: others).dropLast, (first :: others).getLast (by simp)⟩

/-- The number of nested levels that a document stays below. -/
def depthLimit : Nat := 80

/-- A key, whose parts stand between dots. -/
def path : Parser Path := do
  let parts ← separatedBy (blanks *> keyPart <* blanks) (char '.')
  match parts with
  | [] => failure
  | first :: others =>
    guard (others.length + 1 < depthLimit)
    return .ofParts first others

end Syllabary.Toml
