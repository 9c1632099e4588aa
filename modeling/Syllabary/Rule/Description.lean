import Syllabary.Rule.Basic

/-!
# Descriptions of actions

One line that shows an action to a reader: its kind and what it declares. An operation has no text
and is shown as two dots.
-/

namespace Syllabary

namespace Text

/-- A character inside double quotes. Quote, backslash and control characters are escaped. -/
def quotedChar (c : Char) : Text :=
  if c = '"' ∨ c = '\\' then ['\\', c]
  else if c = '\n' then ['\\', 'n']
  else if c = '\t' then ['\\', 't']
  else if c = '\r' then ['\\', 'r']
  else if c = '\x00' then ['\\', '0']
  else if c.toNat < 0x20 ∨ c.toNat = 0x7F then
    "\\u\x7b".toList ++ Nat.toDigits 16 c.toNat ++ ['\x7d']
  else [c]

/-- The text inside double quotes. -/
def quoted (t : Text) : Text := '"' :: (t.flatMap quotedChar ++ ['"'])

/-- The text of a value that may be missing. -/
def optional : Option Text → Text
  | none => "None".toList
  | some t => "Some(".toList ++ t ++ [')']

end Text

/-- The line that shows an action with this declaration. -/
def Declaration.describe : Declaration → Text
  | .literal output stride? =>
    "Literal \x7b output: ".toList ++ Text.quoted output ++ ", length: ".toList ++
      Text.optional (stride?.map fun stride => Nat.toDigits 10 stride.val) ++ " \x7d".toList
  | .computed output? =>
    "Computed \x7b output: ".toList ++ Text.optional (output?.map Text.quoted) ++ ", .. \x7d".toList

end Syllabary
