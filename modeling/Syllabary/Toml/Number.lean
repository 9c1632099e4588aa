import Syllabary.Toml.Lexical

/-!
# Numbers

Integers have 64 bits. Decimal ones may have a sign and have no leading zero; those in base two,
eight and sixteen have neither. An underscore may stand between two digits.

Reals keep their decimal digits. A positive one that is too large for a double is refused; a
negative one is not.
-/

namespace Syllabary.Toml

open Syllabary.Toml.Parser

/-- A real number. -/
inductive Number where
  /-- The coefficient times a power of ten. -/
  | decimal (negative : Bool) (coefficient : Nat) (exponent : Int)
  | infinity (negative : Bool)
  | nan (negative : Bool)
deriving DecidableEq

/-- The number of these digits. -/
def ofDigits (base : Nat) (digits : List Nat) : Nat := digits.foldl (fun n d => n * base + d) 0

/-- Digits of a base, one at least, with underscores between. -/
def digits (base : Nat) : Parser (List Nat) := do
  let first ← digit base
  let others ← many (digit base <|> (char '_' *> digit base))
  return first :: others

/-- A sign, where minus is true. -/
def sign : Parser Bool := (char '-' *> pure true) <|> (char '+' *> pure false)

/-- A sign that may be missing. -/
def sign? : Parser Bool := sign <|> pure false

/-- The number under its sign. -/
def signed (negative : Bool) (n : Nat) : Int := if negative then -(n : Int) else n

/-- Digits without a leading zero. -/
def plainDigits : Parser Nat := do
  let ds ← digits 10
  guard (ds.length = 1 ∨ ds.head? ≠ some 0)
  return ofDigits 10 ds

/-- An integer of a base that is named in front of it. -/
def basedInteger (name : Char) (base : Nat) : Parser Nat := do
  text ['0', name]
  return ofDigits base (← digits base)

/-- Whether the number has 64 bits. -/
def fits64 (n : Int) : Bool := -9223372036854775808 ≤ n && n ≤ 9223372036854775807

/-- An integer. -/
def integer : Parser Int := do
  let n ← (Int.ofNat <$> (basedInteger 'x' 16 <|> basedInteger 'o' 8 <|> basedInteger 'b' 2)) <|>
    (do let negative ← sign?; return signed negative (← plainDigits))
  guard (fits64 n)
  return n

/-- The least number that is rounded to infinity as a double. -/
def doubleBound : Nat := Nat.pow 2 1024 - Nat.pow 2 970

/-- Whether a decimal is rounded to infinity as a double. The number of its digits decides where it
can, so that no large power is taken. -/
def overflows (coefficient : Nat) (exponent : Int) : Bool :=
  let size : Int := (Nat.toDigits 10 coefficient).length + exponent
  coefficient != 0 && 300 < size &&
    (310 < size ||
      match exponent with
      | .ofNat e => doubleBound ≤ coefficient * Nat.pow 10 e
      | .negSucc e => doubleBound * Nat.pow 10 (e + 1) ≤ coefficient)

/-- The exponent of a decimal. -/
def exponent : Parser Int := do
  char 'e' <|> char 'E'
  let negative ← sign?
  return signed negative (ofDigits 10 (← digits 10))

/-- The digits after the point of a decimal. -/
def fraction : Parser (List Nat) := do
  char '.'
  digits 10

/-- A decimal with a point, an exponent or both. -/
def decimal : Parser Number := do
  let negative ← sign?
  let whole ← plainDigits
  let after ← optional fraction
  let power ← if after.isSome then exponent <|> pure 0 else exponent
  let decimals := after.getD []
  let coefficient := whole * Nat.pow 10 decimals.length + ofDigits 10 decimals
  let power := power - decimals.length
  guard (negative || !overflows coefficient power)
  return .decimal negative coefficient power

/-- A real number. -/
def number : Parser Number :=
  decimal <|> do
    let negative ← sign?
    (text "inf".toList *> pure (.infinity negative)) <|>
      (text "nan".toList *> pure (.nan negative))

end Syllabary.Toml
