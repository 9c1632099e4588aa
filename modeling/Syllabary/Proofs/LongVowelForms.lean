import Syllabary.Proofs.DecomposedSteps
import Syllabary.Scan.Cursor

/-!
# Long vowels in both normal forms

The steps on a Latin text and on its decomposed form correspond, as long as no step has a rule that
looks at a long vowel behind what it takes. From the first such step on, the two texts are written
differently: the outputs start with different letters.

## Main statements

* `outputs_ne_of_dependsOnForm`: a step that depends on the form parts the outputs.
* `convert_nfd_iff`: the conversions agree exactly if there is no such step.
-/

namespace Syllabary

namespace Kana

open Unicode
open scoped Text

variable {script : Script} {context : Context} {t : Text}

/-! ## Steps that depend on the form -/

/-- Two nasals are read as one before a long vowel, and by themselves before its bare vowel. -/
theorem outputs_ne_of_nasal (hlatin : ∀ c ∈ t, IsLatin c) {onset : Text}
    (honset : onset ∈ syllableOnsets)
    (htaken : ((Converter.default.index script).step context t).taken.map foldChar = ['n', 'n'])
    (hafter : startsWithFolded (nfd (((Converter.default.index script).step context t).rest t))
      onset = true) (other : Context) :
    (Converter.default.index script).outputs other (nfd t) ≠
      (Converter.default.index script).outputs context t := by
  have hsplit := Index.append_rest_step (Converter.default.index script) context t
  generalize ((Converter.default.index script).step context t).rest t = back at hsplit hafter
  obtain ⟨first, s, htake, hfirst, hs⟩ := List.map_eq_cons_iff.mp htaken
  obtain ⟨second, rfl, hsecond⟩ := List.map_eq_singleton_iff.mp hs
  rw [htake, List.cons_append, List.singleton_append] at hsplit
  subst hsplit
  obtain ⟨hlatinFirst, hlatin⟩ := List.forall_mem_cons.mp hlatin
  obtain ⟨hlatinSecond, hback⟩ := List.forall_mem_cons.mp hlatin
  have hfirst : IsNasal first :=
    ⟨lt_of_foldChar_lt hlatinFirst (by rw [hfirst]; decide), hfirst⟩
  have hsecond : IsNasal second :=
    ⟨lt_of_foldChar_lt hlatinSecond (by rw [hsecond]; decide), hsecond⟩
  -- with an onset in composed text only one nasal would have been taken
  have hnone : ¬ ∃ onset ∈ syllableOnsets, startsWithFolded back onset = true := by
    intro hfollowing
    rw [step_nasal_of_onset hfirst hsecond hfollowing, Step.accept] at htake
    simp at htake
  have hcomposed := step_nasal_of_no_onset hfirst hsecond hnone script context
  have hdecomposed := step_nasal_of_onset hfirst hsecond ⟨onset, honset, hafter⟩ script other
  obtain ⟨d, hd, hhead⟩ := firstFolded?_of_startsWithFolded honset hafter
  obtain ⟨c, s, rfl⟩ : ∃ c s, back = c :: s := by
    refine List.exists_cons_of_ne_nil fun hnil => ?_
    rw [hnil, nfd_eq_nil_iff.mpr rfl] at hhead
    simp [firstFolded?] at hhead
  rw [firstFolded?_nfd_cons (hback c List.mem_cons_self)] at hhead
  rw [nfd_cons_of_lt hfirst.1, nfd_cons_of_lt hsecond.1,
    Index.outputs_of_step_eq (by simp) hdecomposed, Index.outputs_of_step_eq (by simp) hcomposed]
  rw [Ne, List.append_cancel_left_eq, List.drop_one, List.tail_cons, List.drop_succ_cons,
    List.drop_one, List.tail_cons]
  exact outputs_ne_of_mem_naSeries (List.cons_ne_nil _ _) (hback c List.mem_cons_self) hd hhead
    (head?_output_step_mem_naSeries hsecond (ne_of_mem_nfd hback) ⟨onset, honset, hafter⟩ _) s

/-- A quote stands for itself before a long vowel, and before its bare vowel it may be silent. -/
theorem outputs_ne_of_quote (hlatin : ∀ c ∈ t, IsLatin c)
    (hcontext : ∀ c ∈ context.lastInput, IsLatin c) {vowel : Vowel} (hmem : vowel ∈ script.vowels)
    (htaken : ((Converter.default.index script).step context t).taken = ['\x27'])
    (hbefore : lastFolded? context.lastInput = some vowel.latin)
    (hafter : firstFolded? (nfd (((Converter.default.index script).step context t).rest t)) =
      some vowel.latin) :
    (Converter.default.index script).outputs context.decomposed (nfd t) ≠
      (Converter.default.index script).outputs context t := by
  have hsplit := Index.append_rest_step (Converter.default.index script) context t
  generalize ((Converter.default.index script).step context t).rest t = back at hsplit hafter
  rw [htaken, List.singleton_append] at hsplit
  subst hsplit
  obtain ⟨-, hback⟩ := List.forall_mem_cons.mp hlatin
  have hlt := lt_of_mem_vowels _ (foldChar_latin_of_mem_vowels script vowel hmem).2
  obtain ⟨d, s, hd, hdlt, hfold⟩ := exists_of_firstFolded?_nfd hback hafter
  have hlast : lastFolded? context.decomposed.lastInput = some vowel.latin :=
    (lastFolded?_nfd hcontext hlt).mpr hbefore
  have hcomposed := output_of_taken_quote htaken
  have hdecomposed := step_quote_of_vowel hmem hdlt hfold hlast s
  rw [nfd_cons_of_lt (by decide), hd]
  refine Index.outputs_ne_of_head?_ne (by simp) (by simp) ?_ ?_
  · rw [hcomposed]
    simp
  · rw [hcomposed, hdecomposed]
    exact (head?_kana_of_mem_vowels script vowel hmem).1

/-- A vowel that is read again is written as the mark before a long vowel, and as a letter before
its bare vowel. -/
theorem outputs_ne_of_run (hlatin : ∀ c ∈ t, IsLatin c) {vowel : Vowel}
    (hmem : vowel ∈ Script.katakana.vowels)
    (htaken : ((Converter.default.index .katakana).step context t).taken.map foldChar =
      [vowel.latin])
    (hbefore : lastFolded? context.lastInput = some vowel.latin)
    (hafter : firstFolded? (nfd (((Converter.default.index .katakana).step context t).rest t)) =
      some vowel.latin)
    (hcomposed : firstFolded? (((Converter.default.index .katakana).step context t).rest t) ≠
      some vowel.latin) (other : Context) :
    (Converter.default.index .katakana).outputs other (nfd t) ≠
      (Converter.default.index .katakana).outputs context t := by
  have hsplit := Index.append_rest_step (Converter.default.index .katakana) context t
  generalize ((Converter.default.index .katakana).step context t).rest t = back
    at hsplit hafter hcomposed
  obtain ⟨c, htake, hc⟩ := List.map_eq_singleton_iff.mp htaken
  rw [htake, List.singleton_append] at hsplit
  subst hsplit
  obtain ⟨hlatinHead, hback⟩ := List.forall_mem_cons.mp hlatin
  have hlt := lt_of_mem_vowels _ (foldChar_latin_of_mem_vowels .katakana vowel hmem).2
  have hclt := lt_of_foldChar_lt hlatinHead (by rw [hc]; exact hlt)
  obtain ⟨d, s, hd, hdlt, hfold⟩ := exists_of_firstFolded?_nfd hback hafter
  -- no mark stands behind the vowel in either form, so it is read by itself in both
  have hmark : ∀ long ∈ longVowels, back.head? ≠ some long.mark := fun long hlong hhead =>
    not_isLatin_mark long hlong (hback _ (List.mem_of_head? hhead))
  have hmark' : ∀ long ∈ longVowels, (nfd back).head? ≠ some long.mark := by
    intro long hlong hhead
    rw [hd, List.head?_cons, Option.some.injEq] at hhead
    exact not_isLatin_mark long hlong (hhead ▸ Or.inl hdlt)
  have hstep := step_vowel hmem hclt hc hmark context
  have hstep' := step_vowel hmem hclt hc hmark' other
  rw [if_pos ⟨hbefore, hcomposed⟩] at hstep
  rw [if_neg fun h => h.2 hafter] at hstep'
  rw [nfd_cons_of_lt hclt]
  refine Index.outputs_ne_of_head?_ne (by simp) (by simp) ?_ ?_
  · rw [hstep]
    exact Option.some_ne_none 'ー'
  · rw [hstep, hstep']
    exact (head?_kana_of_mem_vowels .katakana vowel hmem).2

/-- Where a step depends on the form, the two texts are written differently. -/
theorem outputs_ne_of_dependsOnForm (hlatin : ∀ c ∈ t, IsLatin c)
    (hcontext : ∀ c ∈ context.lastInput, IsLatin c)
    (hform : DependsOnForm script context.lastInput
      ((Converter.default.index script).step context t).taken
      (((Converter.default.index script).step context t).rest t)) :
    (Converter.default.index script).outputs context.decomposed (nfd t) ≠
      (Converter.default.index script).outputs context t := by
  cases hform with
  | nasal honset htaken hafter => exact outputs_ne_of_nasal hlatin honset htaken hafter _
  | quote hmem htaken hbefore hafter =>
    exact outputs_ne_of_quote hlatin hcontext hmem htaken hbefore hafter
  | run hscript hmem htaken hbefore hafter hcomposed =>
    subst hscript
    exact outputs_ne_of_run hlatin hmem htaken hbefore hafter hcomposed _

/-! ## Conversions in both forms -/

/-- What is left of the decomposed text corresponds to what is left of the text. -/
theorem rest_decomposed (hlatin : ∀ c ∈ t, IsLatin c) :
    ((Converter.default.index script).step context t).decomposed.rest (nfd t) =
      nfd (((Converter.default.index script).step context t).rest t) := by
  have hsplit := Index.append_rest_step (Converter.default.index script) context t
  rw [← hsplit, List.forall_mem_append] at hlatin
  apply Step.rest_eq_of_append
  rw [Step.decomposed, ← nfd_append hlatin.1 hlatin.2, hsplit]

/-- The scan of a Latin text stays at Latin cursors. -/
theorem latin_advance (script : Script) (context : Context) (hlatin : ∀ c ∈ t, IsLatin c)
    (hne : t ≠ []) :
    (∀ c ∈ ((Converter.default.index script).step context t).rest t, IsLatin c) ∧
      ∀ c ∈ ((Converter.default.index script).step context t).context.lastInput, IsLatin c := by
  have hsplit := Index.append_rest_step (Converter.default.index script) context t
  refine ⟨fun c hc => hlatin c (hsplit ▸ List.mem_append_right _ hc), ?_⟩
  obtain ⟨c, s, rfl⟩ := List.exists_cons_of_ne_nil hne
  rcases exists_applies_or_passThrough (hlatin c List.mem_cons_self) script context s with
    ⟨front, rule, happlies⟩ | ⟨-, hpass⟩
  · rw [happlies.lastInput_eq]
    exact fun d hd => hlatin d (happlies.decides.isFront.subset hd)
  · rw [hpass]
    exact List.forall_mem_singleton.mpr (hlatin c List.mem_cons_self)

/-- From a cursor on, the two texts are written alike exactly if no step depends on the form. -/
theorem outputs_nfd_iff (script : Script) (cursor : Cursor) (hlatin : ∀ c ∈ cursor.rest, IsLatin c)
    (hcontext : ∀ c ∈ cursor.context.lastInput, IsLatin c) :
    (Converter.default.index script).outputs cursor.context.decomposed (nfd cursor.rest) =
        (Converter.default.index script).outputs cursor.context cursor.rest ↔
      ∀ stop ∈ (Converter.default.index script).cursors cursor,
        ¬ DependsOnForm script stop.context.lastInput
          (stop.next (Converter.default.index script)).taken
          (stop.advance (Converter.default.index script)).rest := by
  -- along the scan of the text; up to the first step that depends on the form, the scan of the
  -- decomposed text stops at the decomposed cursors
  fun_induction Index.cursors (Converter.default.index script) cursor with
  | case1 cursor hrest => simp [hrest, nfd_eq_nil_iff.mpr]
  | case2 cursor hrest ih =>
    rw [List.forall_mem_cons]
    by_cases hform : DependsOnForm script cursor.context.lastInput
        (cursor.next (Converter.default.index script)).taken
        (cursor.advance (Converter.default.index script)).rest
    · exact iff_of_false (outputs_ne_of_dependsOnForm hlatin hcontext hform) fun h => h.1 hform
    · obtain ⟨hlatin', hcontext'⟩ :=
        latin_advance script cursor.context hlatin hrest
      rw [Index.outputs_of_ne_nil hrest, Index.outputs_of_ne_nil (mt nfd_eq_nil_iff.mp hrest),
        step_nfd hrest hlatin hcontext hform, rest_decomposed hlatin, ← ih hlatin' hcontext',
        Step.decomposed, List.append_cancel_left_eq]
      exact (and_iff_right hform).symm

theorem decomposed_fresh : Context.fresh.decomposed = .fresh := by
  rw [Context.decomposed, Context.fresh]
  dsimp only
  rw [nfd_eq_nil_iff.mpr rfl]

/-- A Latin text and its decomposed form are converted alike exactly if no step of the scan is taken
next to a long vowel that its rule looks at: behind two nasals, behind a quote that repeats the
vowel, or in katakana behind a vowel that is read again. -/
theorem convert_nfd_iff (script : Script) (t : Text) (hlatin : ∀ c ∈ t, IsLatin c) :
    let index := Converter.default.index script
    index.convert (nfd t) = index.convert t ↔
      ∀ cursor ∈ index.cursors ⟨.fresh, t⟩,
        ¬ DependsOnForm script cursor.context.lastInput (cursor.next index).taken
          (cursor.advance index).rest := by
  intro index
  have hiff := outputs_nfd_iff script ⟨.fresh, t⟩ hlatin (List.forall_mem_nil _)
  rw [decomposed_fresh] at hiff
  rw [convert_default, convert_default]
  exact hiff

/-- A long vowel by itself is converted alike in both forms. -/
theorem convert_nfd_macron :
    (∀ c ∈ ['ā'], IsLatin c) ∧
      (Converter.default.index .katakana).convert (nfd ['ā']) =
        (Converter.default.index .katakana).convert ['ā'] := by
  have hlong : ⟨'ā', 'a', '\u0304'⟩ ∈ longVowels := by decide
  have hlatin : ∀ c ∈ ['ā'], IsLatin c := by decide
  obtain ⟨key, output, hlooked⟩ := lookup?_letter hlong .katakana
  obtain ⟨rule, happlies⟩ := exists_applies_of_literal (hlatin _ (by simp)) hlooked .fresh
  obtain ⟨written, n, hpos, hle, hstep⟩ := happlies.exists_accept
  obtain rfl : n = 1 := Nat.le_antisymm hle hpos
  have hrest : (Cursor.advance ⟨.fresh, ['ā']⟩ (Converter.default.index .katakana)).rest = [] := by
    rw [Cursor.advance, Cursor.next, hstep, Index.rest_accept, List.drop_one, List.tail_cons]
  refine ⟨hlatin, (convert_nfd_iff .katakana ['ā'] hlatin).mpr fun cursor hcursor hform => ?_⟩
  rw [Index.cursors, dif_neg (List.cons_ne_nil _ _), Index.cursors, dif_pos hrest,
    List.mem_singleton] at hcursor
  subst hcursor
  cases hform with
  | nasal honset htaken =>
    rw [Cursor.next, hstep, Step.accept] at htaken
    simp at htaken
  | quote hmem htaken hbefore hafter =>
    rw [hrest, nfd_eq_nil_iff.mpr rfl] at hafter
    simp [firstFolded?] at hafter
  | run hscript hmem htaken hbefore hafter =>
    rw [hrest, nfd_eq_nil_iff.mpr rfl] at hafter
    simp [firstFolded?] at hafter

/-- Two nasals before a long vowel are converted differently in the two forms. -/
theorem convert_nfd_doubled_nasal :
    (∀ c ∈ ['n', 'n', 'ā'], IsLatin c) ∧
      (Converter.default.index .hiragana).convert (nfd ['n', 'n', 'ā']) ≠
        (Converter.default.index .hiragana).convert ['n', 'n', 'ā'] := by
  have hlatin : ∀ c ∈ ['n', 'n', 'ā'], IsLatin c := by decide
  have honset : ['a'] ∈ syllableOnsets := by decide
  have hnone : ¬ ∃ onset ∈ syllableOnsets, startsWithFolded ['ā'] onset = true := by decide +kernel
  have hstep := step_nasal_of_no_onset isNasal_n isNasal_n hnone .hiragana .fresh
  refine ⟨hlatin, ?_⟩
  rw [convert_default, convert_default]
  refine outputs_ne_of_nasal hlatin honset ?_ ?_ .fresh
  · rw [hstep, Step.accept]
    simp [isNasal_n.2]
  · rw [hstep, Index.rest_accept]
    decide +kernel

end Kana

end Syllabary
