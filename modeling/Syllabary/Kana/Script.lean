import Syllabary.Text

/-!
# Scripts

The two scripts that a text is written in, with the letters that the rules need by name.
-/

namespace Syllabary.Kana

/-- A target script. -/
inductive Script where
  | hiragana
  | katakana
deriving DecidableEq

/-- A letter of the script together with the Latin letter that it is read as. -/
structure Vowel where
  latin : Char
  kana : Text
deriving DecidableEq

namespace Script

/-- One of two values, by script. -/
def pick {α : Type} (script : Script) (hiragana katakana : α) : α :=
  match script with
  | .hiragana => hiragana
  | .katakana => katakana

/-- The vowels. -/
def vowels (script : Script) : List Vowel :=
  [⟨'a', script.pick ['あ'] ['ア']⟩, ⟨'i', script.pick ['い'] ['イ']⟩,
    ⟨'u', script.pick ['う'] ['ウ']⟩, ⟨'e', script.pick ['え'] ['エ']⟩,
    ⟨'o', script.pick ['お'] ['オ']⟩]

/-- The syllabic nasal. -/
def nasal (script : Script) : Text := script.pick ['ん'] ['ン']

/-- The small letter that stands for the first of two equal consonants. -/
def geminateMarker (script : Script) : Text := script.pick ['っ'] ['ッ']

end Script

end Syllabary.Kana
