import Syllabary.Unicode.Normalization

/-!
# Sound marks

The voiced and the semi-voiced mark turn a kana letter into another one. Where Unicode has the
marked letter as one character, this is used; otherwise the combining mark stays. Behind halfwidth
letters the marks are spelled in two ways.
-/

namespace Syllabary.Kana

/-- The combining voiced mark. -/
def voicedMark : Char := '\u3099'

/-- The combining semi-voiced mark. -/
def semiVoicedMark : Char := '\u309A'

/-- The halfwidth voiced mark. -/
def halfwidthVoicedMark : Char := '\uFF9E'

/-- The halfwidth semi-voiced mark. -/
def halfwidthSemiVoicedMark : Char := '\uFF9F'

/-- The kana with the voiced mark, as one letter where there is one. -/
def voiced (kana : Text) : Text := Unicode.nfc (kana ++ [voicedMark])

/-- The kana with the semi-voiced mark, as one letter where there is one. -/
def semiVoiced (kana : Text) : Text := Unicode.nfc (kana ++ [semiVoicedMark])

/-- The spellings of a voiced halfwidth letter. -/
def halfwidthVoiced (kana : Text) : List Text :=
  [kana ++ [halfwidthVoicedMark], kana ++ [voicedMark]]

/-- The spellings of a semi-voiced halfwidth letter. -/
def halfwidthSemiVoiced (kana : Text) : List Text :=
  [kana ++ [halfwidthSemiVoicedMark], kana ++ [semiVoicedMark]]

end Syllabary.Kana
