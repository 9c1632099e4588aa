import Syllabary.Kana.Rules

/-!
# Marked letters

The rules of a halfwidth letter are derived from its row: one for the letter alone, and one for each
spelling of each mark that the letter takes.

## Main statements

* `HalfwidthRow.rules_eq`: the rules of a row are those for its marked letters.
-/

namespace Syllabary.Kana

/-- The marks that may stand behind a letter. -/
inductive SoundMark where
  | voiced
  | semiVoiced
deriving DecidableEq

/-- The spellings of a mark, or of nothing. -/
def markSpellings : Option SoundMark → List Text
  | none => [[]]
  | some .voiced => [[halfwidthVoicedMark], [voicedMark]]
  | some .semiVoiced => [[halfwidthSemiVoicedMark], [semiVoicedMark]]

/-- What may stand behind a letter. -/
def Voicing.marks : Voicing → List (Option SoundMark)
  | .plain => [none]
  | .voiced => [none, some .voiced]
  | .semiVoiced => [none, some .voiced, some .semiVoiced]

/-- The spellings of the letter with a mark. -/
def HalfwidthRow.spellings (row : HalfwidthRow) (mark? : Option SoundMark) : List Text :=
  (markSpellings mark?).map (row.katakana ++ ·)

/-- The letter with a mark in hiragana. -/
def HalfwidthRow.reading (row : HalfwidthRow) : Option SoundMark → Text
  | none => row.hiragana
  | some .voiced => voiced row.hiragana
  | some .semiVoiced => semiVoiced row.hiragana

/-- A halfwidth letter, alone or with a mark that it takes. -/
structure MarkedLetter where
  row : HalfwidthRow
  mark? : Option SoundMark
  admitted : mark? ∈ row.voicing.marks

namespace MarkedLetter

/-- The texts that spell the letter. -/
def spellings (letter : MarkedLetter) : List Text := letter.row.spellings letter.mark?

/-- The letter in hiragana. -/
def reading (letter : MarkedLetter) : Text := letter.row.reading letter.mark?

end MarkedLetter

variable {row : HalfwidthRow} {rule : Rule} {mark? : Option SoundMark} {s : Text}

/-- The rules of a row are those for its marked letters. -/
theorem HalfwidthRow.rules_eq (row : HalfwidthRow) :
    row.rules = row.voicing.marks.flatMap fun mark? =>
      (row.spellings mark?).map (.literal · (row.reading mark?)) := by
  obtain ⟨hiragana, katakana, voicing⟩ := row
  cases voicing with
  | plain => simp [rules, Voicing.marks, spellings, markSpellings, reading]
  | voiced =>
    simp [rules, Voicing.marks, spellings, markSpellings, reading, halfwidthVoiced]
  | semiVoiced =>
    simp [rules, Voicing.marks, spellings, markSpellings, reading, halfwidthVoiced,
      halfwidthSemiVoiced]

theorem HalfwidthRow.mem_rules_iff :
    rule ∈ row.rules ↔
      ∃ mark? ∈ row.voicing.marks, ∃ s ∈ row.spellings mark?,
        rule = .literal s (row.reading mark?) := by
  simp only [rules_eq, List.mem_flatMap, List.mem_map, eq_comm]

theorem HalfwidthRow.mem_spellings_iff :
    s ∈ row.spellings mark? ↔ ∃ tail ∈ markSpellings mark?, s = row.katakana ++ tail := by
  simp only [spellings, List.mem_map, eq_comm]

end Syllabary.Kana
