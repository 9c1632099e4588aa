import Syllabary.Proofs.Pairs
import Syllabary.Proofs.PhoneticSteps
import Syllabary.Proofs.Stretches

/-!
# Runs of a letter

A run is one small letter of ASCII over and over, with any of its characters in upper case. In a run
of a prolonged vowel every step takes one character. It sees the character before it as the last
input and the one after it in the text that follows, so that only the first and the last step can
differ from the others: the first one depends on what stands before the run, and the last one writes
the mark, unless the run is a single vowel that repeats none.

## Main statements

* `Index.stretch_prolonged_run`: the steps over a run of a prolonged vowel.
-/

namespace Syllabary

open Unicode
open scoped Text

/-- A nonempty text of nothing but one letter in either case. -/
structure IsRun (letter : Char) (x : Text) : Prop where
  ne_nil : x ≠ []
  casing : ∀ c ∈ x, c = letter ∨ c = letter.toUpper

variable {letter c d : Char} {w x : Text}

namespace IsRun

theorem isCasing (h : IsRun letter x) (hletter : letter.isLower = true) :
    ∀ c ∈ x, IsCasing letter c :=
  fun c hc => isCasing_of_isLower hletter (h.casing c hc)

/-- A run without its first character is a run, if anything is left. -/
theorem tail (h : IsRun letter (c :: d :: x)) : IsRun letter (d :: x) :=
  ⟨List.cons_ne_nil d x, fun e he => h.casing e (List.mem_cons_of_mem c he)⟩

end IsRun

namespace Index

variable {normalizer : Normalizer} {set : RuleSet} {rule : Rule}

/-- A letter is found in either case, if only the small one is a key. -/
theorem lookup?_casing (hget : (ofRules normalizer set).get? [letter] = some rule)
    (hupper : [letter.toUpper] ∉ (ofRules normalizer set).keys) (hletter : letter.isLower = true)
    (hc : c = letter ∨ c = letter.toUpper) :
    (ofRules normalizer set).lookup? [c] = some rule := by
  apply lookup?_of_lowercase hget (lowercase_casing (isCasing_of_isLower hletter hc))
  intro hmem
  rcases hc with rfl | rfl
  · rfl
  · exact absurd hmem hupper

/-! ## Prolonged vowels -/

/-- No text of more than one character is found at a place in the run. -/
def Undivided (index : Index) (x w : Text) : Prop :=
  ∀ before after, x = before ++ after → after ≠ [] →
    ∀ front, front <+: after ++ w → 2 ≤ front.length → index.lookup? front = none

theorem Undivided.tail {index : Index} (h : index.Undivided (c :: x) w) : index.Undivided x w := by
  intro before after heq
  exact h (c :: before) after (by rw [heq, List.cons_append])

variable {vowel : Char} {output mark : Text}

/-- The steps over a run of a prolonged vowel take one character each. They write the vowel for all
but the last one and the mark for the last one; a single vowel is written as the mark exactly if it
repeats the vowel before it. What stands behind the run goes on with another letter, and no key of
two or more characters begins in the run. -/
theorem stretch_prolonged_run (hletter : vowel.isLower = true)
    (hget : (ofRules normalizer set).get? [vowel] = some (.prolongedVowel vowel output mark))
    (hupper : [vowel.toUpper] ∉ (ofRules normalizer set).keys) (hx : IsRun vowel x)
    (hw : firstFolded? w ≠ some vowel) (hundivided : (ofRules normalizer set).Undivided x w)
    (context : Context) :
    ∃ first last, (ofRules normalizer set).Stretch ⟨context, x ++ w⟩ first ⟨last, w⟩ ∧
      first.map Step.taken = x.map (fun c => [c]) ∧
      last.lastInput = [x.getLast hx.ne_nil] ∧
      first.map Step.output =
        if x.length = 1 ∧ lastFolded? context.lastInput ≠ some vowel then [output]
        else List.replicate (x.length - 1) output ++ [mark] := by
  have hvowel : foldChar vowel = vowel := (isCasing_of_isLower hletter (Or.inl rfl)).fold
  -- every vowel of the run is the last input for the next one, so the context is not fixed
  induction x generalizing context with
  | nil => exact absurd rfl hx.ne_nil
  | cons c x ih =>
    have hfound := lookup?_casing hget hupper hletter (hx.casing c List.mem_cons_self)
    have hstep := step_prolonged hfound
      (hundivided [] (c :: x) rfl (List.cons_ne_nil c x)) context
    rw [hvowel] at hstep
    cases x with
    | nil =>
      -- the vowel ends the run, so what stands before it decides
      refine ⟨_, _, .accept (List.cons_ne_nil c w) hstep (.refl _), rfl, rfl, ?_⟩
      by_cases hlast : lastFolded? context.lastInput = some vowel
      · simp [Step.accept, hlast, hw]
      · simp [Step.accept, hlast]
    | cons d x =>
      have hd : foldChar d = vowel :=
        (hx.isCasing hletter d (List.mem_cons_of_mem c List.mem_cons_self)).fold
      have hc : foldChar c = vowel := (hx.isCasing hletter c List.mem_cons_self).fold
      rw [if_neg (by simp [firstFolded?, hd])] at hstep
      obtain ⟨first, last, hstretch, htaken, hlast, houtput⟩ := ih hx.tail hundivided.tail
        (Step.accept (c :: (d :: x ++ w)) [c] output 1 none).context
      refine ⟨_, last, .accept (List.cons_ne_nil c _) hstep hstretch, ?_, ?_, ?_⟩
      · rw [List.map_cons, htaken]
        rfl
      · rw [hlast, List.getLast_cons_cons]
      · -- the next step sees this vowel before it
        have hrepeats : lastFolded? [c] = some vowel := by
          rw [← hc]
          rfl
        rw [List.map_cons, houtput, if_neg fun h => h.2 hrepeats, if_neg fun h => by simp at h]
        rfl

/-- A run of three vowels behind a syllable with the same vowel. -/
theorem stretch_prolonged_run_kaaa :
    let index := ofRules .unicode [.literal ['k', 'a'] ['カ'], .prolongedVowel 'a' ['ア'] ['ー']]
    let x := ['a', 'A', 'a']
    index.get? ['a'] = some (.prolongedVowel 'a' ['ア'] ['ー']) ∧ ['A'] ∉ index.keys ∧
      IsRun 'a' x ∧ firstFolded? ['k', 'a'] ≠ some 'a' ∧ index.Undivided x ['k', 'a'] ∧
      ∃ first last, index.Stretch ⟨⟨['k', 'a'], ['カ'], false⟩, x ++ ['k', 'a']⟩ first
          ⟨last, ['k', 'a']⟩ ∧
        first.map Step.output = [['ア'], ['ア'], ['ー']] := by
  intro index x
  have hget : index.get? ['a'] = some (.prolongedVowel 'a' ['ア'] ['ー']) := by
    rw [get?_ofRules]
    exact RuleSet.owner?_eq_some_iff.mpr
      ⟨[.literal ['k', 'a'] ['カ']], [], rfl, by decide +kernel, List.forall_mem_nil _⟩
  have hupper : ['A'] ∉ index.keys := by decide +kernel
  have hx : IsRun 'a' x := ⟨by decide, by decide⟩
  have hw : firstFolded? ['k', 'a'] ≠ some 'a' := by decide +kernel
  have hnone : ∀ after ∈ x.tails, ∀ front ∈ (after ++ ['k', 'a']).inits, after ≠ [] →
      2 ≤ front.length → (index.lookup? front).isNone := by
    decide +kernel
  have hundivided : index.Undivided x ['k', 'a'] := by
    intro before after heq hne front hprefix hlength
    apply Option.isNone_iff_eq_none.mp
    exact hnone after ((List.mem_tails after x).mpr ⟨before, heq.symm⟩) front
      ((List.mem_inits front _).mpr hprefix) hne hlength
  obtain ⟨first, last, hstretch, -, -, houtput⟩ :=
    stretch_prolonged_run (by decide) hget hupper hx hw hundivided ⟨['k', 'a'], ['カ'], false⟩
  exact ⟨hget, hupper, hx, hw, hundivided, first, last, hstretch, houtput⟩

end Index

end Syllabary
