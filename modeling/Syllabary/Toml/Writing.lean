import Syllabary.Toml.Lexical

/-!
# Writing documents

The form in which kana tables are kept: every entry is an array under a bare name, with one row of
texts on a line of its own. Remarks may stand above entries and above rows. They carry no values, so
what is read from a written document depends on the entries alone.
-/

namespace Syllabary.Toml

/-- A line without a value. -/
inductive Remark where
  | blank
  /-- A comment, in which nothing ends the line. -/
  | comment (t : Text) (plain : t.all isPlain)

/-- The comment with this text, less the characters that may not stand in one. -/
def Remark.note (s : String) : Remark := .comment (s.toList.filter isPlain) (by simp)

/-- A row of an array, with the remarks above it. -/
structure WrittenRow where
  remarks : List Remark
  texts : List Text

/-- An array under a name, with the remarks above it. -/
structure Entry where
  remarks : List Remark
  name : Text
  /-- The name needs no quotes. -/
  bare : name ≠ [] ∧ name.all isBare
  rows : List WrittenRow

/-- Four digits in base sixteen. -/
def fourDigits (n : Nat) : Text :=
  [n / 0x1000 % 16, n / 0x100 % 16, n / 0x10 % 16, n % 16].map Nat.digitChar

/-- Characters that a reader would not see in their place: the wide space, the mark that joins the
letter before it, and whatever may not stand in a string. -/
def isHidden (c : Char) : Bool := c == '\u3000' || c == '\u3099' || !isPlain c

/-- A character inside double quotes. Hidden characters are given by their codes. -/
def writeChar (c : Char) : Text :=
  if c = '"' ∨ c = '\\' then ['\\', c]
  else if isHidden c then '\\' :: 'u' :: fourDigits c.toNat
  else [c]

/-- A text in double quotes. -/
def quote (t : Text) : Text := '"' :: (t.flatMap writeChar ++ ['"'])

/-- The texts of a row, between brackets on one line. -/
def writeTexts : List Text → Text
  | [] => ['[', ']']
  | t :: others => '[' :: (quote t ++ (others.flatMap fun t => ',' :: ' ' :: quote t) ++ [']'])

/-- A number of spaces. -/
def indent (n : Nat) : Text := List.replicate n ' '

/-- A remark as a line. -/
def Remark.write (n : Nat) : Remark → Text
  | blank => ['\n']
  | comment t _ => indent n ++ '#' :: (t ++ ['\n'])

/-- A row and the remarks above it. -/
def WrittenRow.write (row : WrittenRow) : Text :=
  row.remarks.flatMap (Remark.write 4) ++ (indent 4 ++ writeTexts row.texts ++ [',', '\n'])

/-- An entry and the remarks above it. -/
def Entry.write (entry : Entry) : Text :=
  entry.remarks.flatMap (Remark.write 0) ++
    (entry.name ++ [' ', '=', ' ', '[', '\n'] ++ entry.rows.flatMap WrittenRow.write ++ [']', '\n'])

/-- A document of these entries. -/
def write (entries : List Entry) : Text := entries.flatMap Entry.write

end Syllabary.Toml
