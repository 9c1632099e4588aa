import Syllabary.Proofs.DefaultRomaji
import Syllabary.Proofs.Pairs

/-!
# Syllables with a nasal in front

Among the rules for romaji, the first character of the key in decomposed form tells what may be
written (`OpensWith`). Syllables that begin with a nasal write letters of one series, and no key
that begins with a vowel or a semivowel does. A doubled nasal is read as the syllabic nasal, with
both letters unless an onset follows.

## Main statements

* `Found.nasal_cases`: what is found for a text that begins with a nasal.
* `step_nasal_of_onset`, `step_nasal_of_no_onset`: how a doubled nasal is read.
* `outputs_ne_of_mem_naSeries`: a syllable with a nasal is never written like one without.
* `step_congr_of_head`: which steps do not look back.
-/

namespace Syllabary.Kana

open Unicode
open scoped Text

variable {script : Script} {rule : Rule} {context other : Context} {c d : Char} {t front : Text}

/-! ## First characters -/

theorem Found.nfd_key (h : Found script t rule) : nfd rule.key = nfd (lowercase t) := by
  rcases h.spelled with heq | heq
  · rw [heq]
  · rw [heq, nfd_nfd]

theorem head?_nfd_of_lt (hd : d.toNat < 0xC0) : (nfd (d :: t)).head? = some d := by
  rw [nfd_cons_of_lt hd, List.head?_cons]

theorem head?_of_short {key output : Text}
    (hentry : (key, output) ∈ Table.default.romajiEntries script) (hd : d.toNat < 0xC0)
    (h : (nfd key).head? = some d) : key.head? = some d := by
  rcases (romajiEntry_of_mem hentry).latin with hwon | ⟨hne, hkey⟩
  · rw [show key = ['₩'] from hwon] at h
    have := le_of_mem_nfd_won d (List.mem_of_head? h)
    omega
  · obtain ⟨e, s, rfl⟩ := List.exists_cons_of_ne_nil hne
    rwa [nfd_cons_of_lt (hkey e List.mem_cons_self).1] at h

theorem head?_of_long {stem output : Text} {long : LongVowel} (hlong : long ∈ longVowels)
    (hentry : (stem ++ [long.vowel], output) ∈ Table.default.romajiEntries script)
    (h : (nfd (stem ++ [long.letter])).head? = some d) : (stem ++ [long.vowel]).head? = some d := by
  cases stem with
  | nil => rwa [List.nil_append, LongVowel.nfd_cons hlong] at h
  | cons e s =>
    rcases (romajiEntry_of_mem hentry).latin with hwon | ⟨-, hkey⟩
    · simp at hwon
    · rwa [List.cons_append, nfd_cons_of_lt (hkey e List.mem_cons_self).1] at h

/-- The rules for romaji by the character that their keys begin with in decomposed form. -/
inductive OpensWith (script : Script) (d : Char) : Rule → Prop
  | short {key output : Text} (hentry : (key, output) ∈ Table.default.romajiEntries script)
      (hhead : key.head? = some d) : OpensWith script d (.literal key output)
  | long {stem output : Text} {long : LongVowel} (hlong : long ∈ longVowels)
      (hentry : (stem ++ [long.vowel], output) ∈ Table.default.romajiEntries script)
      (hhead : (stem ++ [long.vowel]).head? = some d) :
      OpensWith script d (.literal (stem ++ [long.letter]) (output ++ prolongedSoundMark))
  | geminate (hconsonant : d ∈ geminateConsonants) :
      OpensWith script d (.geminate d script.geminateMarker)
  | quoted {vowel : Vowel} (hd : d = '\x27') (hvowel : vowel ∈ script.vowels) :
      OpensWith script d (.quotedVowel vowel.latin vowel.kana)
  | nasal (hd : d = 'n') : OpensWith script d (doubledNasal script)
  | prolonged {vowel : Vowel} (hscript : script = .katakana) (hvowel : vowel ∈ script.vowels)
      (hd : d = vowel.latin) :
      OpensWith script d (.prolongedVowel vowel.latin vowel.kana prolongedSoundMark)

theorem RomajiRule.opensWith (h : RomajiRule .default script rule) (hd : d.toNat < 0xC0)
    (hhead : (nfd rule.key).head? = some d) : OpensWith script d rule := by
  cases h with
  | short hentry => exact .short hentry (head?_of_short hentry hd hhead)
  | long hlong hentry => exact .long hlong hentry (head?_of_long hlong hentry hhead)
  | geminate hc =>
    have hplain := plain_of_mem_consonants hc
    rw [key_geminate, head?_nfd_of_lt hplain.1, Option.some.injEq] at hhead
    subst hhead
    exact .geminate hc
  | quoted hmem =>
    rw [key_quotedVowel, head?_nfd_of_lt (by decide), Option.some.injEq] at hhead
    exact .quoted hhead.symm hmem
  | nasal =>
    rw [key_doubledNasal, head?_nfd_of_lt (by decide), Option.some.injEq] at hhead
    exact .nasal hhead.symm
  | @prolonged vowel hscript hmem =>
    obtain ⟨hfold, hvowel⟩ := foldChar_latin_of_mem_vowels script vowel hmem
    rw [key_prolongedVowel, hfold, head?_nfd_of_lt (lt_of_mem_vowels _ hvowel),
      Option.some.injEq] at hhead
    exact .prolonged hscript hmem hhead.symm

/-- The rules whose keys begin with a nasal. -/
inductive NasalRule (script : Script) : Rule → Prop
  | alone : NasalRule script (.literal ['n'] script.nasal)
  | quoted (output : Text) : NasalRule script (.literal ['n', '\x27'] output)
  | doubled : NasalRule script (doubledNasal script)
  | syllable {onset output : Text} (honset : onset ∈ syllableOnsets)
      (houtput : output.head? ∈ naSeries.map some) :
      NasalRule script (.literal ('n' :: onset) output)
  | long {stem output : Text} {long : LongVowel} (hlong : long ∈ longVowels)
      (honset : stem ++ [long.vowel] ∈ syllableOnsets)
      (houtput : output.head? ∈ naSeries.map some) :
      NasalRule script (.literal ('n' :: (stem ++ [long.letter])) output)

theorem not_mem_vowels : ∀ long ∈ longVowels, long.vowel ≠ 'n' ∧ long.vowel ≠ '\x27' := by decide

theorem OpensWith.nasalRule (h : OpensWith script d rule) (hd : d = 'n') :
    NasalRule script rule := by
  cases h with
  | @short key output hentry hkey =>
    rw [hd] at hkey
    obtain ⟨s, rfl⟩ := List.head?_eq_some_iff.mp hkey
    rcases (romajiEntry_of_mem hentry).nasal hkey with heq | heq | ⟨honset, houtput⟩
    · obtain ⟨hkey, rfl⟩ := Prod.mk.inj heq
      rw [hkey]
      exact .alone
    · rw [show 'n' :: s = ['n', '\x27'] from heq]
      exact .quoted output
    · exact .syllable honset houtput
  | @long stem output long hlong hentry hkey =>
    rw [hd] at hkey
    obtain ⟨hnasal, hquote⟩ := not_mem_vowels long hlong
    cases stem with
    | nil => simp [hnasal] at hkey
    | cons e s =>
      obtain rfl : e = 'n' := by simpa using hkey
      rcases (romajiEntry_of_mem hentry).nasal hkey with heq | heq | ⟨honset, houtput⟩
      · simp at heq
      · simp [List.append_eq_cons_iff, hquote] at heq
      · refine .long hlong honset ?_
        obtain ⟨first, hfirst, hhead⟩ := List.mem_map.mp houtput
        obtain ⟨rest, rfl⟩ := List.head?_eq_some_iff.mp hhead.symm
        exact houtput
  | geminate hc => exact absurd (hd ▸ hc) (by decide)
  | quoted hquote => exact absurd (hd.symm.trans hquote) (by decide)
  | nasal => exact .doubled
  | prolonged hscript hmem hlatin =>
    have hvowel := (foldChar_latin_of_mem_vowels script _ hmem).2
    exact absurd (hd ▸ hlatin ▸ hvowel) (by decide)

theorem RomajiRule.nasalRule (h : RomajiRule .default script rule)
    (hhead : (nfd rule.key).head? = some 'n') : NasalRule script rule :=
  (h.opensWith (by decide) hhead).nasalRule rfl

/-! ## First letters of the outputs -/

theorem not_isLatin_of_mem_naSeries : ∀ d ∈ naSeries, ¬ IsLatin d := by decide

theorem head?_geminateMarker (script : Script) :
    script.geminateMarker.head? ∉ none :: naSeries.map some := by
  cases script <;> decide

theorem head?_kana_vowel (script : Script) : ∀ vowel ∈ script.vowels,
    vowel.kana.head? ∉ none :: (naSeries ++ prolongedSoundMark).map some := by
  cases script <;> decide

/-- The key of the rule that applies starts, in decomposed form, as the text does. -/
theorem Applies.head?_nfd_key (h : Applies script context (c :: t) front rule) (hc : IsLatin c) :
    (nfd rule.key).head? = firstFolded? (decomposeChar c) := by
  rcases List.prefix_cons_iff.mp h.decides.isFront with rfl | ⟨s, rfl, -⟩
  · exact absurd rfl h.decides.ne_nil
  · rw [h.found.nfd_key, head?_nfd_lowercase hc]

theorem head?_append_mark {output mark : Text}
    (h : output.head? ∉ none :: (naSeries ++ mark).map some) (back : Text) :
    (output ++ back).head? ∉ none :: naSeries.map some := by
  cases output with
  | nil => simp at h
  | cons d output =>
    simp only [List.head?_cons, List.map_append, List.mem_cons, List.mem_append, not_or] at h
    simpa using h.2.1

/-- Where the text begins with a vowel or a semivowel, the step writes letters of other series. -/
theorem head?_output_step_not_mem_naSeries (hc : IsLatin c) (hd : d ∈ onsetHeads)
    (hhead : firstFolded? (decomposeChar c) = some d) (script : Script) (context : Context)
    (t : Text) :
    ((Converter.default.index script).step context (c :: t)).output.head? ∉
      none :: naSeries.map some := by
  have hlt := (plain_of_mem_onsetHeads hd).1
  rcases exists_applies_or_passThrough hc script context t with
    ⟨front, rule, happlies⟩ | ⟨-, hpass⟩
  · have hkey := (happlies.head?_nfd_key hc).trans hhead
    have hperformed := happlies.performed
    cases happlies.found.kind.opensWith hlt hkey with
    | short hentry hopens =>
      have houtput := (romajiEntry_of_mem hentry).otherSeries
        (hopens ▸ List.mem_map_of_mem hd)
      have hhead := head?_append_mark houtput []
      rw [List.append_nil] at hhead
      rw [← Option.some.inj hperformed]
      exact hhead
    | long hlong hentry hopens =>
      have houtput := (romajiEntry_of_mem hentry).otherSeries
        (hopens ▸ List.mem_map_of_mem hd)
      rw [← Option.some.inj hperformed]
      exact head?_append_mark houtput prolongedSoundMark
    | geminate =>
      rw [← Option.some.inj hperformed]
      exact head?_geminateMarker script
    | quoted hquote => exact absurd (hquote ▸ hd) (by decide)
    | nasal hnasal => exact absurd (hnasal ▸ hd) (by decide)
    | @prolonged vowel hscript hmem =>
      have houtput := head?_append_mark (head?_kana_vowel script vowel hmem) []
      rw [List.append_nil] at houtput
      rw [perform?_prolongedVowel] at hperformed
      rw [← Option.some.inj hperformed, Step.accept]
      dsimp only
      split
      · decide
      · exact houtput
  · rw [hpass]
    intro hmem
    obtain ⟨d, hd, heq⟩ : ∃ d ∈ naSeries, d = c := by simpa [Step.passThrough] using hmem
    exact not_isLatin_of_mem_naSeries d hd (heq ▸ hc)

/-! ## Keys that begin with a nasal -/

theorem lt_of_mem_syllableOnsets {onset : Text} (honset : onset ∈ syllableOnsets) :
    ∀ c ∈ onset, c.toNat < 0xC0 := fun c hc =>
  (plain_of_mem_onsetHeads (mem_onsetHeads_of_mem_syllableOnsets onset honset c hc)).1

theorem nfd_onset {onset : Text} (honset : onset ∈ syllableOnsets) : nfd onset = onset :=
  nfd_eq_self fun c hc => Or.inl (lt_of_mem_syllableOnsets honset c hc)

/-- Decomposing an onset with a long vowel puts the mark behind the onset. -/
theorem nfd_long_onset {stem : Text} {long : LongVowel} (hlong : long ∈ longVowels)
    (honset : stem ++ [long.vowel] ∈ syllableOnsets) :
    nfd (stem ++ [long.letter]) = stem ++ [long.vowel] ++ [long.mark] := by
  refine nfd_concat_letter (fun c hc => ?_) hlong
  exact lt_of_mem_syllableOnsets honset c (List.mem_append_left _ hc)

/-- A syllable with a nasal in front, as it stands in a text in any letter case. -/
inductive NasalSyllable : Text → Prop
  /-- With a bare vowel, or with a mark of its own behind the vowel. -/
  | bare {front onset marks : Text} (honset : onset ∈ syllableOnsets)
      (hmarks : ∀ mark ∈ marks, ∃ long ∈ longVowels, mark = long.mark)
      (hfront : lowercase front = 'n' :: (onset ++ marks)) : NasalSyllable front
  /-- With a long vowel in one letter. -/
  | composed {front stem : Text} {long : LongVowel} (hlong : long ∈ longVowels)
      (honset : stem ++ [long.vowel] ∈ syllableOnsets)
      (hfront : lowercase front = 'n' :: (stem ++ [long.letter])) : NasalSyllable front

/-- What is found for a text that begins with a nasal in any letter case: the nasal by itself,
before a quote or doubled, or a syllable that writes a letter of the series. -/
theorem Found.nasal_cases (h : Found script front rule) {s : Text}
    (hfront : lowercase front = 'n' :: s) :
    (s = [] ∧ rule = .literal ['n'] script.nasal) ∨ s = ['\x27'] ∨
      (s = ['n'] ∧ rule = doubledNasal script) ∨
      NasalSyllable front ∧ (nfd s).head? ∈ onsetHeads.map some ∧
        ∃ key output, rule = .literal key output ∧ output.head? ∈ naSeries.map some := by
  have hn : 'n'.toNat < 0xC0 := by decide
  have hnfd : 'n' :: nfd s = nfd rule.key := by rw [h.nfd_key, hfront, nfd_cons_of_lt hn]
  have hspelled := h.spelled
  rw [hfront] at hspelled
  cases h.kind.nasalRule (by rw [← hnfd]; rfl) with
  | alone =>
    have hkey : nfd ['n'] = ['n'] := nfd_eq_self (by decide)
    rw [key_literal, hkey, or_self] at hspelled
    exact Or.inl ⟨(List.cons.inj hspelled).2, rfl⟩
  | quoted output =>
    have hkey : nfd ['n', '\x27'] = ['n', '\x27'] := nfd_eq_self (by decide)
    rw [key_literal, hkey, or_self] at hspelled
    exact Or.inr (Or.inl (List.cons.inj hspelled).2)
  | doubled =>
    have hkey : nfd ['n', 'n'] = ['n', 'n'] := nfd_eq_self (by decide)
    rw [key_doubledNasal, hkey, or_self] at hspelled
    exact Or.inr (Or.inr (Or.inl ⟨(List.cons.inj hspelled).2, rfl⟩))
  | @syllable onset output honset houtput =>
    rw [key_literal, nfd_cons_of_lt hn, nfd_onset honset] at hnfd hspelled
    rw [or_self] at hspelled
    refine Or.inr (Or.inr (Or.inr ⟨?_, ?_, _, output, rfl, houtput⟩))
    · exact .bare honset (List.forall_mem_nil _) (by rw [hfront, hspelled, List.append_nil])
    · rw [(List.cons.inj hnfd).2]
      exact head?_of_mem_syllableOnsets _ honset
  | @long stem output long hlong honset houtput =>
    rw [key_literal, nfd_cons_of_lt hn, nfd_long_onset hlong honset] at hnfd hspelled
    refine Or.inr (Or.inr (Or.inr ⟨?_, ?_, _, output, rfl, houtput⟩))
    · rcases hspelled with hspelled | hspelled
      · exact .composed hlong honset (hfront.trans hspelled)
      · exact .bare honset (List.forall_mem_singleton.mpr ⟨long, hlong, rfl⟩)
          (hfront.trans hspelled)
    · obtain ⟨head, hhead, heq⟩ := List.mem_map.mp (head?_of_mem_syllableOnsets _ honset)
      rw [(List.cons.inj hnfd).2, List.head?_append, ← heq, Option.some_or]
      exact List.mem_map_of_mem hhead

/-! ## Steps at a nasal -/

/-- A nasal in either letter case. -/
def IsNasal (c : Char) : Prop := c.toNat < 0xC0 ∧ foldChar c = 'n'

theorem isNasal_n : IsNasal 'n' := plain_of_mem 'n' (List.mem_cons_of_mem _ List.mem_cons_self)

variable {first second : Char}

theorem exists_lookup?_of_entry {key : Text} (ht : lowercase t = key)
    (hkey : ∃ entry ∈ Table.default.romajiEntries script, entry.1 = key) :
    ∃ found, (Converter.default.index script).lookup? t = some found := by
  obtain ⟨⟨_, output⟩, hentry, rfl⟩ := hkey
  exact exists_lookup?_of_claims (.short hentry) (Or.inl ht)

/-- A nasal by itself is found. -/
theorem lookup?_nasal (hfirst : IsNasal first) :
    (Converter.default.index script).lookup? [first] = some (.literal ['n'] script.nasal) := by
  have hlower : lowercase [first] = ['n'] := by
    rw [lowercase_of_latin (List.forall_mem_singleton.mpr (Or.inl hfirst.1)), List.map_singleton,
      hfirst.2]
  obtain ⟨rule, hrule⟩ := exists_lookup?_of_entry hlower
    (exists_mem_romajiEntries script ['n'] (by simp))
  rcases (found_of_lookup? (Or.inl hfirst.1) hrule).nasal_cases hlower with
    ⟨-, rfl⟩ | hs | ⟨hs, -⟩ | ⟨-, hs, -⟩
  · exact hrule
  · simp at hs
  · simp at hs
  · exact absurd hs (by decide)

/-- Behind two nasals only the two themselves are found. -/
theorem findsPair_doubledNasal (script : Script) :
    (Converter.default.index script).FindsPair 'n' (doubledNasal script) := by
  apply Index.findsPair_of_lookup?
  · intro first second hfirst hsecond
    have hnasal : RomajiRule .default script (doubledNasal script) := .nasal
    exact exists_lookup?_of_claims hnasal (Or.inl (lowercase_pair hfirst hsecond))
  · intro first second t found hfirst hsecond hlooked
    obtain ⟨back, hback, hlength⟩ := exists_lowercase_pair hfirst hsecond t
    rcases (found_of_lookup? (Or.inl hfirst.lt) hlooked).nasal_cases hback with
      ⟨hs, -⟩ | hs | ⟨hs, hrule⟩ | ⟨-, hs, -⟩
    · simp at hs
    · simp at hs
    · obtain rfl : back = [] := by simpa using hs
      exact ⟨hrule, List.length_eq_zero_iff.mp (Nat.le_zero.mp hlength)⟩
    · rw [head?_nfd_of_lt (by decide)] at hs
      exact absurd hs (by decide)

theorem IsNasal.isCasing (h : IsNasal c) : IsCasing 'n' c := ⟨h.1, h.2⟩

/-- Before an onset the first of two nasals is read by itself. -/
theorem step_nasal_of_onset (hfirst : IsNasal first) (hsecond : IsNasal second)
    (hfollowing : ∃ onset ∈ syllableOnsets, startsWithFolded t onset = true) (script : Script)
    (context : Context) :
    (Converter.default.index script).step context (first :: second :: t) =
      .accept (first :: second :: t) [first] script.nasal 1 none := by
  apply step_eq_of_decides [first]
  apply (findsPair_doubledNasal script).decides_of_refused hfirst.isCasing hsecond.isCasing
  · rw [perform?_doubledNasal (List.cons_ne_nil first [second]), if_pos]
    exact hfollowing
  · exact lookup?_nasal hfirst
  · rfl

/-- Where no onset follows, two nasals are read as one. -/
theorem step_nasal_of_no_onset (hfirst : IsNasal first) (hsecond : IsNasal second)
    (hfollowing : ¬ ∃ onset ∈ syllableOnsets, startsWithFolded t onset = true) (script : Script)
    (context : Context) :
    (Converter.default.index script).step context (first :: second :: t) =
      .accept (first :: second :: t) [first, second] script.nasal 2 none := by
  apply step_eq_of_decides [first, second]
  apply (findsPair_doubledNasal script).decides hfirst.isCasing hsecond.isCasing
  rw [perform?_doubledNasal (List.cons_ne_nil first [second]), if_neg]
  · rfl
  · exact hfollowing

/-- A syllable rule is longer than the nasal and writes a letter of the series. -/
theorem Applies.head?_output_of_onset (happlies : Applies script context (first :: t) front rule)
    {s : Text} (hfront : lowercase front = 'n' :: s) (hs : s ≠ [] ∧ s ≠ ['n'] ∧ s ≠ ['\x27']) :
    ((Converter.default.index script).step context (first :: t)).output.head? ∈
      naSeries.map some := by
  rcases happlies.found.nasal_cases hfront with
    ⟨hnil, -⟩ | hquote | ⟨hdoubled, -⟩ | ⟨-, -, key, output, rfl, houtput⟩
  · exact absurd hnil hs.1
  · exact absurd hquote hs.2.2
  · exact absurd hdoubled hs.2.1
  · rw [← Option.some.inj happlies.performed]
    exact houtput

theorem ne_of_mem_onsetHeads (hd : d ∈ onsetHeads) (s : Text) :
    d :: s ≠ [] ∧ d :: s ≠ ['n'] ∧ d :: s ≠ ['\x27'] := by
  refine ⟨by simp, ?_, ?_⟩
  · rintro ⟨⟩
    exact absurd hd (by decide)
  · rintro ⟨⟩
    exact absurd hd (by decide)

theorem firstFolded?_of_startsWithFolded {onset : Text} (honset : onset ∈ syllableOnsets)
    (h : startsWithFolded t onset = true) : ∃ d ∈ onsetHeads, firstFolded? t = some d := by
  obtain ⟨d, hd, hhead⟩ := List.mem_map.mp (head?_of_mem_syllableOnsets onset honset)
  obtain ⟨tail, rfl⟩ := List.head?_eq_some_iff.mp hhead.symm
  rw [startsWithFolded_iff, map_foldChar_of_mem_syllableOnsets _ honset] at h
  obtain ⟨rest, hrest⟩ := h
  refine ⟨d, hd, ?_⟩
  rw [firstFolded?, ← List.head?_map, ← hrest]
  rfl

/-- A nasal and an onset are accepted together. -/
theorem attempt_onset_ne_none (hfirst : IsNasal first) (ht : ∀ c ∈ t, c ≠ 'Σ' ∧ c ≠ 'İ')
    {onset : Text} (honset : onset ∈ syllableOnsets) (hstarts : startsWithFolded t onset = true)
    (script : Script) (context : Context) :
    (Converter.default.index script).attempt context (first :: t)
      (first :: t.take onset.length) ≠ none := by
  rw [startsWithFolded_iff, map_foldChar_of_mem_syllableOnsets onset honset,
    List.prefix_iff_eq_take, ← List.map_take] at hstarts
  obtain ⟨head, honsetHead, hhead⟩ := List.mem_map.mp (head?_of_mem_syllableOnsets onset honset)
  obtain ⟨tail, rfl⟩ := List.head?_eq_some_iff.mp hhead.symm
  have hlower : lowercase (first :: t.take (head :: tail).length) = 'n' :: head :: tail := by
    rw [lowercase_eq_map, List.map_cons, ← hstarts, hfirst.2]
    exact List.forall_mem_cons.mpr ⟨ne_of_lt hfirst.1, fun c hc => ht c (List.mem_of_mem_take hc)⟩
  obtain ⟨rule, hrule⟩ := exists_lookup?_of_entry hlower
    (exists_mem_romajiEntries script _ (List.mem_append_right _ (List.mem_map_of_mem honset)))
  obtain ⟨hne, hnasal, hquote⟩ := ne_of_mem_onsetHeads honsetHead tail
  rcases (found_of_lookup? (Or.inl hfirst.1) hrule).nasal_cases hlower with
    ⟨heq, -⟩ | heq | ⟨heq, -⟩ | ⟨-, -, key, output, rfl, -⟩
  · exact absurd heq hne
  · exact absurd heq hquote
  · exact absurd heq hnasal
  · rw [Index.attempt, hrule]
    exact Option.some_ne_none _

/-- A nasal and an onset are read as one syllable, which writes a letter of the series. -/
theorem head?_output_step_mem_naSeries (hfirst : IsNasal first) (ht : ∀ c ∈ t, c ≠ 'Σ' ∧ c ≠ 'İ')
    (hfollowing : ∃ onset ∈ syllableOnsets, startsWithFolded t onset = true) (context : Context) :
    ((Converter.default.index script).step context (first :: t)).output.head? ∈
      naSeries.map some := by
  obtain ⟨onset, honset, hstarts⟩ := hfollowing
  obtain ⟨d, hd, hhead⟩ := firstFolded?_of_startsWithFolded honset hstarts
  have haccepted := attempt_onset_ne_none hfirst ht honset hstarts script context
  have hinitial : first :: t.take onset.length <+: first :: t :=
    List.cons_prefix_cons.mpr ⟨rfl, List.take_prefix _ _⟩
  rcases exists_applies_or_passThrough (Or.inl hfirst.1) script context t with
    ⟨front, rule, happlies⟩ | ⟨hrefused, -⟩
  · -- the step takes no less than the onset, so its front part goes on with the same letter
    have hlonger : (first :: t.take onset.length).length ≤ front.length := by
      by_contra hshort
      exact haccepted (happlies.decides.longest _ hinitial (by omega))
    obtain ⟨e, t, rfl⟩ : ∃ e s, t = e :: s := by
      refine List.exists_cons_of_ne_nil fun hnil => ?_
      simp [hnil, firstFolded?] at hhead
    have hfold : foldChar e = d := Option.some.inj hhead
    have hlength : 1 < front.length := by
      have hne : onset ≠ [] := fun hnil => by
        rw [hnil] at honset
        exact absurd honset (by decide)
      have := List.length_pos_iff.mpr hne
      simp only [List.length_cons, List.length_take] at hlonger
      omega
    obtain ⟨s, rfl⟩ := Index.exists_cons_cons_of_prefix happlies.decides.isFront hlength
    refine happlies.head?_output_of_onset (s := d :: s.map foldChar) ?_ (ne_of_mem_onsetHeads hd _)
    rw [lowercase_eq_map, List.map_cons, List.map_cons, hfirst.2, hfold]
    refine List.forall_mem_cons.mpr ⟨ne_of_lt hfirst.1, fun c hc => ht c ?_⟩
    exact (List.cons_prefix_cons.mp happlies.decides.isFront).2.subset hc
  · exact absurd (hrefused _ (by simp) hinitial) haccepted

/-- A syllable with a nasal is not written as anything that begins with a vowel or a semivowel. -/
theorem outputs_ne_of_mem_naSeries (ht : t ≠ []) (hc : IsLatin c) (hd : d ∈ onsetHeads)
    (hhead : firstFolded? (decomposeChar c) = some d)
    (hsyllable : ((Converter.default.index script).step other t).output.head? ∈ naSeries.map some)
    (s : Text) :
    (Converter.default.index script).outputs other t ≠
      (Converter.default.index script).outputs context (c :: s) := by
  -- the first letters tell the two texts apart
  have hvowel := head?_output_step_not_mem_naSeries hc hd hhead script context s
  rw [List.mem_cons, not_or] at hvowel
  refine Index.outputs_ne_of_head?_ne (List.cons_ne_nil c s) ht hvowel.1 ?_
  rw [List.mem_cons, List.mem_singleton, not_or]
  refine ⟨fun hnone => ?_, fun heq => hvowel.2 (heq ▸ hsyllable)⟩
  rw [hnone] at hsyllable
  simp at hsyllable

/-! ## Steps that do not look back -/

/-- Only at a quote and at a bare vowel does a step look at the trigger before it. -/
theorem step_congr_of_head (hc : IsLatin c)
    (hhead : foldChar c ∉ ['\x27', 'a', 'i', 'u', 'e', 'o']) (context other : Context) (t : Text) :
    (Converter.default.index script).step context (c :: t) =
      (Converter.default.index script).step other (c :: t) := by
  rw [index_default]
  refine Index.step_congr (fun front hne hfront => ?_) (by simp)
  rw [← index_default]
  obtain ⟨s, rfl⟩ := Index.exists_cons_of_prefix hfront hne
  refine Option.bind_congr fun rule hrule => ?_
  have hfound := found_of_lookup? hc hrule
  have hlower := head?_lowercase c s
  -- the two kinds that look back have plain keys, which begin as the text does
  have hkey (hplain : nfd rule.key = rule.key) : rule.key.head? = some (foldChar c) := by
    have hspelled := hfound.spelled
    rw [hplain, or_self] at hspelled
    rwa [hspelled] at hlower
  cases hfound.kind with
  | short => rfl
  | long => rfl
  | geminate => rfl
  | nasal => rw [perform?_doubledNasal hne, perform?_doubledNasal hne]
  | quoted hmem =>
    obtain ⟨hfold, hvowel⟩ := foldChar_latin_of_mem_vowels script _ hmem
    have hlt := lt_of_mem_vowels _ hvowel
    rw [key_quotedVowel, hfold] at hkey
    have hquote := hkey (nfd_eq_self (by simp [hlt]))
    rw [List.head?_cons, Option.some.injEq] at hquote
    exact absurd List.mem_cons_self (hquote ▸ hhead)
  | prolonged hscript hmem =>
    obtain ⟨hfold, hvowel⟩ := foldChar_latin_of_mem_vowels script _ hmem
    have hlt := lt_of_mem_vowels _ hvowel
    rw [key_prolongedVowel, hfold] at hkey
    have hhead' := hkey (nfd_eq_self (by simp [hlt]))
    rw [List.head?_cons, Option.some.injEq] at hhead'
    exact absurd (List.mem_cons_of_mem _ hvowel) (hhead' ▸ hhead)

end Syllabary.Kana
