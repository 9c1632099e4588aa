import Syllabary.Proofs.RomajiForms

/-!
# Doubled nasals before syllables

Before a syllable that begins with a nasal, one more nasal should be read by itself. It is, if the
syllable is spelled without a mark or with a mark of its own. If a long vowel stands there as one
letter, the letters that follow the two nasals are no onset, since onsets are listed with bare
vowels. Then both nasals are read as one, and the syllable has lost its own.

## Main statements

* `convert_doubled_nasal`: what is written for two nasals before a syllable.
* `convert_of_composed`: a long vowel in one letter costs the syllable its nasal.
-/

namespace Syllabary.Kana

open Unicode
open scoped Text

variable {script : Script} {rule : Rule} {context : Context} {front w t : Text}

/-! ## Spellings of a syllable -/

/-- What is found for two or more characters from a nasal on is a syllable, the doubled nasal or the
nasal before a quote. -/
theorem Found.nasalSyllable (h : Found script front rule) {s : Text}
    (hs : lowercase front = 'n' :: s) (hne : s ≠ [] ∧ s ≠ ['n'] ∧ s ≠ ['\x27']) :
    NasalSyllable front := by
  rcases h.nasal_cases hs with ⟨hnil, -⟩ | hquoted | ⟨hdoubled, -⟩ | ⟨hsyllable, -⟩
  · exact absurd hnil hne.1
  · exact absurd hquoted hne.2.2
  · exact absurd hdoubled hne.2.1
  · exact hsyllable

theorem onsetHeads_ascii : ∀ d ∈ 'n' :: onsetHeads, d.toNat < 0x80 ∧ d ≠ 'k' := by decide

theorem lt_of_foldChar_mem {c : Char} (h : foldChar c ∈ 'n' :: onsetHeads) (hc : c ≠ 'İ') :
    c.toNat < 0xC0 := by
  obtain ⟨hlt, hk⟩ := onsetHeads_ascii _ h
  exact lt_of_foldChar rfl hlt hk hc

/-- A nasal syllable with a bare vowel is decomposed, and an onset stands behind the nasal. -/
theorem bare_spelling {q onset marks : Text} (honset : onset ∈ syllableOnsets)
    (hmarks : ∀ mark ∈ marks, ∃ long ∈ longVowels, mark = long.mark)
    (hfront : lowercase ('n' :: q) = 'n' :: (onset ++ marks)) (rest : Text) :
    nfd ('n' :: q) = 'n' :: q ∧ startsWithFolded (q ++ rest) onset = true := by
  have hmem : ∀ d ∈ 'n' :: (onset ++ marks),
      d ∈ 'n' :: onsetHeads ∨ ∃ long ∈ longVowels, d = long.mark := by
    intro d hd
    rcases List.mem_cons.mp hd with rfl | hd
    · exact Or.inl List.mem_cons_self
    · rcases List.mem_append.mp hd with hd | hd
      · have hhead := mem_onsetHeads_of_mem_syllableOnsets onset honset d hd
        exact Or.inl (List.mem_cons_of_mem _ hhead)
      · exact Or.inr (hmarks d hd)
  have hplain : ∀ d ∈ 'n' :: (onset ++ marks),
      d.toNat < 0x300 ∨ ∃ long ∈ longVowels, d = long.mark := fun d hd =>
    (hmem d hd).imp_left fun hd => by
      have := (onsetHeads_ascii d hd).1
      omega
  have hmap := map_foldChar_of_lowercase hfront hplain
  have hne := ne_of_lowercase (hfront ▸ hplain)
  constructor
  · refine nfd_eq_self fun c hc => ?_
    rcases hmem (foldChar c) (hmap ▸ List.mem_map_of_mem hc) with hd | ⟨long, hlong, hmark⟩
    · exact Or.inl (lt_of_foldChar_mem hd (hne c hc).2)
    · exact Or.inr ⟨long, hlong, LongVowel.eq_mark_of_foldChar hlong hmark⟩
  · rw [startsWithFolded_iff, map_foldChar_of_mem_syllableOnsets onset honset, List.map_append,
      (List.cons.inj hmap).2, List.append_assoc]
    exact List.prefix_append _ _

theorem not_prefix_dropLast : ∀ onset ∈ syllableOnsets, ∀ other ∈ syllableOnsets,
    ¬ other <+: onset.dropLast := by
  decide

theorem head?_dropLast : ∀ onset ∈ syllableOnsets,
    onset.dropLast = [] ∨ onset.dropLast.head? = some 'y' := by
  decide

section

variable {q stem : Text} {long : LongVowel} (hlong : long ∈ longVowels)
  (honset : stem ++ [long.vowel] ∈ syllableOnsets)

include hlong

include honset in
/-- In lower case a syllable with a long vowel in one letter has that letter at the end. -/
theorem map_foldChar_of_composed (hfront : lowercase ('n' :: q) = 'n' :: (stem ++ [long.letter])) :
    q.map foldChar = stem ++ [long.letter] := by
  have hmap := map_foldChar_of_lowercase hfront fun d hd => by
    rcases List.mem_cons.mp hd with rfl | hd
    · exact Or.inl (by decide)
    · rcases List.mem_append.mp hd with hd | hd
      · have := lt_of_mem_syllableOnsets honset d (List.mem_append_left _ hd)
        exact Or.inl (by omega)
      · rw [List.mem_singleton.mp hd]
        exact Or.inl (LongVowel.bounds long hlong).2.1
  exact (List.cons.inj hmap).2

/-- A syllable with a long vowel in one letter is not decomposed. -/
theorem nfd_ne_of_composed (hmap : q.map foldChar = stem ++ [long.letter]) :
    nfd ('n' :: q) ≠ 'n' :: q := by
  obtain ⟨c, hc, hfold⟩ := List.mem_map.mp (hmap ▸ List.mem_append_right stem List.mem_cons_self)
  obtain ⟨other, hother, rfl⟩ := LongVowel.exists_letter_of_foldChar hlong hfold
  exact nfd_ne_self hother (List.mem_cons_of_mem _ hc)

include honset

/-- Behind the nasal of a syllable with a long vowel in one letter no onset stands. -/
theorem no_onset_of_composed (hmap : q.map foldChar = stem ++ [long.letter]) (rest : Text) :
    ¬ ∃ onset ∈ syllableOnsets, startsWithFolded (q ++ rest) onset = true := by
  rintro ⟨onset, honset', hstarts⟩
  rw [startsWithFolded_iff, map_foldChar_of_mem_syllableOnsets onset honset', List.map_append,
    hmap] at hstarts
  have hnot : long.letter ∉ onset := fun hmem => by
    have := lt_of_mem_syllableOnsets honset' _ hmem
    have := (LongVowel.bounds long hlong).1
    omega
  -- an onset ends before the letter, and there it would be shorter than any onset
  rcases List.prefix_or_prefix_of_prefix hstarts (List.prefix_append _ _) with hshort | hlonger
  · rcases List.prefix_concat_iff.mp hshort with rfl | hstem
    · exact hnot (List.mem_append_right stem List.mem_cons_self)
    · have hdropLast := not_prefix_dropLast _ honset onset honset'
      rw [List.dropLast_concat] at hdropLast
      exact hdropLast hstem
  · exact hnot (hlonger.subset (List.mem_append_right stem List.mem_cons_self))

/-- What stands there is the long vowel or a semivowel. -/
theorem exists_head_of_composed (hmap : q.map foldChar = stem ++ [long.letter]) (rest : Text) :
    ∃ c s, q ++ rest = c :: s ∧ IsLatin c ∧ foldChar c ∉ ['\x27', 'a', 'i', 'u', 'e', 'o'] ∧
      ∃ d ∈ onsetHeads, firstFolded? (decomposeChar c) = some d := by
  obtain ⟨c, q, rfl⟩ : ∃ c s, q = c :: s := by
    refine List.exists_cons_of_ne_nil fun hnil => ?_
    simp [hnil] at hmap
  refine ⟨c, q ++ rest, rfl, ?_⟩
  have hstem := head?_dropLast _ honset
  rw [List.dropLast_concat] at hstem
  rcases hstem with rfl | hhead
  · have hfold : foldChar c = long.letter := (List.cons.inj hmap).1
    obtain ⟨other, hother, rfl⟩ := LongVowel.exists_letter_of_foldChar hlong hfold
    refine ⟨Or.inr ⟨other, hother, rfl⟩, fun hmem => ?_, foldChar other.vowel,
      mem_onsetHeads_of_mem_vowels _ (LongVowel.inData other hother).foldVowel, ?_⟩
    · have hlt : ∀ d ∈ ['\x27', 'a', 'i', 'u', 'e', 'o'], d.toNat < 0xC0 := by decide
      have := hlt _ hmem
      have := (LongVowel.bounds long hlong).1
      rw [hfold] at *
      omega
    · rw [LongVowel.decomposeChar_letter other hother]
      rfl
  · obtain ⟨s, rfl⟩ := List.head?_eq_some_iff.mp hhead
    have hfold : foldChar c = 'y' := (List.cons.inj hmap).1
    have hlt : c.toNat < 0xC0 := by
      refine lt_of_foldChar_mem (by rw [hfold]; decide) fun hdotted => ?_
      rw [hdotted] at hfold
      exact absurd hfold (by decide +kernel)
    refine ⟨Or.inl hlt, by rw [hfold]; decide, 'y', by decide, ?_⟩
    rw [decomposeChar_of_bounds (Or.inl hlt), ← hfold]
    rfl

end

/-! ## Conversions -/

/-- Where the step does not look back, nothing of the context is left in what follows. -/
theorem outputs_congr_of_head {c : Char} (hc : IsLatin c)
    (hhead : foldChar c ∉ ['\x27', 'a', 'i', 'u', 'e', 'o']) (context other : Context) (t : Text) :
    (Converter.default.index script).outputs context (c :: t) =
      (Converter.default.index script).outputs other (c :: t) := by
  have hne := List.cons_ne_nil c t
  rw [Index.outputs_of_ne_nil hne, Index.outputs_of_ne_nil hne,
    step_congr_of_head hc hhead context other]

/-- Before an onset the first of two nasals stands for itself. -/
theorem convert_of_onset (h : ∃ onset ∈ syllableOnsets, startsWithFolded w onset = true) :
    (Converter.default.index script).convert ('n' :: 'n' :: w) =
      script.nasal ++ (Converter.default.index script).convert ('n' :: w) := by
  have hstep := step_nasal_of_onset isNasal_n isNasal_n h script .fresh
  rw [convert_default, convert_default, Index.outputs_of_step_eq (by simp) hstep, List.drop_one,
    List.tail_cons, outputs_congr_of_head (Or.inl isNasal_n.1) (by rw [isNasal_n.2]; decide)]

/-- Where a long vowel as one letter hides the onset, the two nasals are read as one. -/
theorem convert_of_no_onset {c : Char} {s : Text} (hc : IsLatin c)
    (hhead : foldChar c ∉ ['\x27', 'a', 'i', 'u', 'e', 'o'])
    (h : ¬ ∃ onset ∈ syllableOnsets, startsWithFolded (c :: s) onset = true) (script : Script) :
    (Converter.default.index script).convert ('n' :: 'n' :: c :: s) =
      script.nasal ++ (Converter.default.index script).convert (c :: s) := by
  have hstep := step_nasal_of_no_onset isNasal_n isNasal_n h script .fresh
  rw [convert_default, convert_default, Index.outputs_of_step_eq (by simp) hstep,
    List.drop_succ_cons, List.drop_one, List.tail_cons, outputs_congr_of_head hc hhead]

/-- The step at a nasal that takes a syllable: how the syllable is spelled, and what is written. -/
theorem nasalSyllable_of_lastInput {step : Step}
    (hstep : (Converter.default.index script).step context ('n' :: w) = step)
    (hlength : 2 ≤ step.context.lastInput.length)
    (hdoubled : lowercase step.context.lastInput ≠ ['n', 'n'])
    (hquoted : lowercase step.context.lastInput ≠ ['n', '\x27']) :
    ∃ q rest, w = q ++ rest ∧ step.context.lastInput = 'n' :: q ∧ NasalSyllable ('n' :: q) ∧
      step.output.head? ∈ naSeries.map some := by
  subst hstep
  rcases exists_applies_or_passThrough (Or.inl isNasal_n.1) script context w with
    ⟨front, rule, happlies⟩ | ⟨-, hpass⟩
  · rw [happlies.lastInput_eq] at hlength hdoubled hquoted ⊢
    obtain ⟨rest, hrest⟩ := happlies.decides.isFront
    cases front with
    | nil => simp at hlength
    | cons c q =>
      obtain ⟨rfl, rfl⟩ := List.cons.inj hrest
      obtain ⟨back, hback, hle⟩ := exists_lowercase_append (s := ['n']) (by simp) q
      have hlower : lowercase ('n' :: q) = 'n' :: back := by simpa [isNasal_n.2] using hback
      have hne : back ≠ [] ∧ back ≠ ['n'] ∧ back ≠ ['\x27'] := by
        refine ⟨?_, ?_, ?_⟩ <;> rintro rfl
        · simp at hle hlength
          simp [hle] at hlength
        · exact hdoubled hlower
        · exact hquoted hlower
      exact ⟨q, rest, rfl, rfl, happlies.found.nasalSyllable hlower hne,
        happlies.head?_output_of_onset hlower hne⟩
  · rw [hpass] at hlength
    simp [Step.passThrough] at hlength

/-- A syllable with a long vowel in one letter is taken as a whole. -/
theorem step_composed (stem : Text) (long : LongVowel) (hlong : long ∈ longVowels)
    (honset : stem ++ [long.vowel] ∈ syllableOnsets) (script : Script) (context : Context) :
    lowercase ('n' :: (stem ++ [long.letter])) = 'n' :: (stem ++ [long.letter]) ∧
      ((Converter.default.index script).step context
        ('n' :: (stem ++ [long.letter]))).context.lastInput = 'n' :: (stem ++ [long.letter]) ∧
      ((Converter.default.index script).step context
        ('n' :: (stem ++ [long.letter]))).output.head? ∈ naSeries.map some := by
  have hstem : ∀ c ∈ stem, c ∈ onsetHeads := fun c hc =>
    mem_onsetHeads_of_mem_syllableOnsets _ honset c (List.mem_append_left _ hc)
  have hlatinStem : ∀ c ∈ 'n' :: stem, IsLatin c :=
    List.forall_mem_cons.mpr
      ⟨Or.inl isNasal_n.1, fun c hc => Or.inl (plain_of_mem_onsetHeads (hstem c hc)).1⟩
  have hmap : ('n' :: stem).map foldChar = 'n' :: stem := by
    rw [List.map_cons, isNasal_n.2,
      List.map_congr_left fun c hc => (plain_of_mem_onsetHeads (hstem c hc)).2, List.map_id']
  have hhead : long.vowel ∈ onsetHeads := mem_onsetHeads_of_mem_syllableOnsets _ honset _
    (List.mem_append_right _ List.mem_cons_self)
  have hvowel := (plain_of_mem_onsetHeads hhead).2
  have hfold := (LongVowel.inData long hlong).foldLetter hvowel
  have hlower : lowercase ('n' :: (stem ++ [long.letter])) = 'n' :: (stem ++ [long.letter]) := by
    rw [← List.cons_append, lowercase_of_latin, List.map_append, hmap, List.map_singleton, hfold]
    exact List.forall_mem_append.mpr
      ⟨hlatinStem, List.forall_mem_singleton.mpr (Or.inr ⟨long, hlong, rfl⟩)⟩
  have hentry := exists_mem_romajiEntries script _
    (List.mem_append_right _ (List.mem_map_of_mem honset))
  rw [← List.cons_append, ← hmap, ← hvowel] at hentry
  obtain ⟨key, output, hlooked⟩ := lookup?_letter_of_entry hlong hlatinStem hentry
  obtain ⟨rule, happlies⟩ := exists_applies_of_literal (Or.inl isNasal_n.1) hlooked context
  refine ⟨hlower, happlies.lastInput_eq, happlies.head?_output_of_onset hlower ?_⟩
  have hlast {d : Char} (hd : d.toNat < 0xC0) : stem ++ [long.letter] ≠ [d] := fun heq => by
    have hmem : long.letter ∈ stem ++ [long.letter] := List.mem_append_right _ List.mem_cons_self
    rw [heq, List.mem_singleton] at hmem
    have := (LongVowel.bounds long hlong).1
    rw [hmem] at this
    omega
  exact ⟨by simp, hlast (by decide), hlast (by decide)⟩

/-- Before a syllable with a long vowel in one letter two nasals are read as one, and the syllable
is not written. -/
theorem convert_of_composed {q rest stem : Text} {long : LongVowel} (hlong : long ∈ longVowels)
    (honset : stem ++ [long.vowel] ∈ syllableOnsets)
    (hfront : lowercase ('n' :: q) = 'n' :: (stem ++ [long.letter]))
    (hsyllable : ((Converter.default.index script).step .fresh ('n' :: (q ++ rest))).output.head? ∈
      naSeries.map some) :
    (Converter.default.index script).convert ('n' :: 'n' :: (q ++ rest)) =
        script.nasal ++ (Converter.default.index script).convert (q ++ rest) ∧
      (Converter.default.index script).convert ('n' :: 'n' :: (q ++ rest)) ≠
        script.nasal ++ (Converter.default.index script).convert ('n' :: (q ++ rest)) := by
  have hmap := map_foldChar_of_composed hlong honset hfront
  have hnone := no_onset_of_composed hlong honset hmap rest
  obtain ⟨c, s, heq, hc, hhead, d, hd, hfirst⟩ := exists_head_of_composed hlong honset hmap rest
  rw [heq] at hnone hsyllable ⊢
  have hconvert := convert_of_no_onset hc hhead hnone script
  refine ⟨hconvert, fun hsame => ?_⟩
  rw [hconvert] at hsame
  -- behind the syllabic nasal only one of the two texts starts with a letter of the series
  have hsame := List.append_cancel_left hsame
  rw [convert_default, convert_default] at hsame
  exact outputs_ne_of_mem_naSeries (List.cons_ne_nil _ _) hc hd hfirst hsyllable s hsame.symm

/-- Where a syllable of two characters or more stands at a nasal, one more nasal in front of it is
written as the syllabic nasal, and the syllable as before, if the text of the syllable is
decomposed. If a long vowel stands in it as one letter, both nasals are read as one: the syllable
has lost its nasal, which is never what is written for it. -/
theorem convert_doubled_nasal (script : Script) (w : Text) :
    let index := Converter.default.index script
    let syllable := (index.step .fresh ('n' :: w)).context.lastInput
    2 ≤ syllable.length → lowercase syllable ≠ ['n', 'n'] → lowercase syllable ≠ ['n', '\x27'] →
      (nfd syllable = syllable →
        index.convert ('n' :: 'n' :: w) = script.nasal ++ index.convert ('n' :: w)) ∧
      (nfd syllable ≠ syllable →
        index.convert ('n' :: 'n' :: w) = script.nasal ++ index.convert w ∧
          index.convert ('n' :: 'n' :: w) ≠ script.nasal ++ index.convert ('n' :: w)) := by
  intro index syllable hlength hdoubled hquoted
  -- the spelling of the syllable decides: an onset shows behind the first nasal or is hidden
  obtain ⟨q, rest, rfl, hq, hsyllable, houtput⟩ :=
    nasalSyllable_of_lastInput rfl hlength hdoubled hquoted
  have hsyllable' : syllable = 'n' :: q := hq
  rw [hsyllable']
  cases hsyllable with
  | bare honset hmarks hfront =>
    obtain ⟨hnfd, hstarts⟩ := bare_spelling honset hmarks hfront rest
    exact ⟨fun _ => convert_of_onset ⟨_, honset, hstarts⟩, fun hne => absurd hnfd hne⟩
  | composed hlong honset hfront =>
    have hnfd := nfd_ne_of_composed hlong (map_foldChar_of_composed hlong honset hfront)
    exact ⟨fun hdecomposed => absurd hdecomposed hnfd,
      fun _ => convert_of_composed hlong honset hfront houtput⟩

/-- The circumflex of `nyô` is part of its vowel, so that of two nasals before the semivowel one is
lost. -/
theorem convert_doubled_nasal_nyo :
    let index := Converter.default.index .katakana
    let syllable := (index.step .fresh ['n', 'y', 'ô']).context.lastInput
    2 ≤ syllable.length ∧ lowercase syllable ≠ ['n', 'n'] ∧ lowercase syllable ≠ ['n', '\x27'] ∧
      nfd syllable ≠ syllable ∧
      index.convert ['n', 'n', 'y', 'ô'] = Script.nasal .katakana ++ index.convert ['y', 'ô'] ∧
      index.convert ['n', 'n', 'y', 'ô'] ≠
        Script.nasal .katakana ++ index.convert ['n', 'y', 'ô'] := by
  have hlong : ⟨'ô', 'o', '\u0302'⟩ ∈ longVowels := by decide
  have honset : ['y'] ++ ['o'] ∈ syllableOnsets := by decide
  obtain ⟨hlower, hsyllable, -⟩ :=
    step_composed ['y'] _ hlong honset .katakana .fresh
  simp only [List.cons_append, List.nil_append] at hlower hsyllable
  have hnfd := nfd_ne_of_composed hlong (map_foldChar_of_composed hlong honset hlower)
  have hconvert := convert_doubled_nasal .katakana ['y', 'ô']
  dsimp only at hconvert ⊢
  rw [hsyllable, hlower] at hconvert ⊢
  exact ⟨by decide, by decide, by decide, hnfd,
    (hconvert (by decide) (by decide) (by decide)).2 hnfd⟩

/-- The long vowel of `nā` is one letter, so that only its vowel is left behind a second nasal. -/
theorem convert_doubled_nasal_na_macron :
    let index := Converter.default.index .hiragana
    let syllable := (index.step .fresh ['n', 'ā']).context.lastInput
    (2 ≤ syllable.length ∧ lowercase syllable ≠ ['n', 'n'] ∧ lowercase syllable ≠ ['n', '\x27'] ∧
      nfd syllable ≠ syllable) ∧
      index.convert ['n', 'n', 'ā'] = Script.nasal .hiragana ++ index.convert ['ā'] ∧
      index.convert ['n', 'n', 'ā'] ≠ Script.nasal .hiragana ++ index.convert ['n', 'ā'] := by
  have hlong : ⟨'ā', 'a', '\u0304'⟩ ∈ longVowels := by decide
  have honset : [] ++ ['a'] ∈ syllableOnsets := by decide
  obtain ⟨hlower, hsyllable, houtput⟩ :=
    step_composed [] _ hlong honset .hiragana .fresh
  simp only [List.nil_append] at hlower hsyllable houtput
  have hnfd := nfd_ne_of_composed hlong (map_foldChar_of_composed hlong honset hlower)
  dsimp only
  rw [hsyllable, hlower]
  exact ⟨⟨by decide, by decide, by decide, hnfd⟩, convert_of_composed hlong honset hlower houtput⟩

end Syllabary.Kana
