import Syllabary.Proofs.NasalSyllables

/-!
# Romaji in both normal forms

Every key is indexed in composed and in decomposed form, so that a Latin text and its decomposed
form are looked up with the same result. A decomposed text may also be cut between a vowel and its
mark. What is found there is found with the long vowel as a whole too, but for a quoted vowel.

## Main statements

* `lookup?_nfd`: decomposing a Latin text does not change what it is looked up with.
* `lookup?_letter_of_vowel`: what is found with a bare vowel is found with the long vowel.
-/

namespace Syllabary.Kana

open Unicode
open scoped Text

variable {script : Script} {rule : Rule} {t : Text}

/-! ## Lookups -/

theorem get?_nfd (ht : ∀ c ∈ t, IsLatin c) :
    (Converter.default.index script).get? (nfd t) = (Converter.default.index script).get? t := by
  have hforms : (Index.ofRules .unicode (Converter.ruleSet .default [] script)).get? (nfc t) =
      (Index.ofRules .unicode (Converter.ruleSet .default [] script)).get? (nfd t) :=
    Index.get?_composed Normalizer.isCanonical_unicode t
  rw [nfc_of_latin ht, ← index_default] at hforms
  exact hforms.symm

/-- A Latin text and its decomposed form are looked up with the same result. -/
theorem lookup?_nfd (ht : ∀ c ∈ t, IsLatin c) :
    (Converter.default.index script).lookup? (nfd t) =
      (Converter.default.index script).lookup? t := by
  rw [Index.lookup?_eq_or, Index.lookup?_eq_or, lowercase_nfd ht, lowercase_of_latin ht,
    get?_nfd ht, get?_nfd (isLatin_map_foldChar ht)]

/-- The rule that is found for a Latin text has it as its key, in lower case. -/
theorem key_of_lookup? (ht : ∀ c ∈ t, IsLatin c) (hne : t ≠ [])
    (h : (Converter.default.index script).lookup? t = some rule) :
    RomajiRule .default script rule ∧ rule.key = t.map foldChar := by
  obtain ⟨c, s, rfl⟩ := List.exists_cons_of_ne_nil hne
  have hfound := found_of_lookup? (ht c List.mem_cons_self) h
  refine ⟨hfound.kind, ?_⟩
  have hspelled := hfound.spelled
  rw [lowercase_of_latin ht] at hspelled
  rcases hspelled with heq | heq
  · exact heq.symm
  · rw [← nfc_of_latin (isLatin_map_foldChar ht), heq, nfc_nfd, hfound.romaji.nfc_eq]

/-! ## Keys that end in a long vowel -/

/-- A rule whose key ends in a long vowel is literal. -/
theorem RomajiRule.exists_literal_of_letter (h : RomajiRule .default script rule) {stem : Text}
    {long : LongVowel} (hlong : long ∈ longVowels) (hkey : rule.key = stem ++ [long.letter]) :
    ∃ key output, rule = .literal key output := by
  obtain ⟨hletter, -, -, -⟩ := LongVowel.bounds long hlong
  -- all the other keys end in a character below U+00C0
  have hlast {d : Char} (hd : d.toNat < 0xC0) (hend : rule.key.getLast? = some d) : False := by
    rw [hkey, List.getLast?_concat, Option.some.injEq] at hend
    rw [hend] at hletter
    omega
  have hvowel {vowel : Vowel} (hmem : vowel ∈ script.vowels) :
      (foldChar vowel.latin).toNat < 0xC0 := by
    obtain ⟨hfold, hmem⟩ := foldChar_latin_of_mem_vowels script vowel hmem
    rw [hfold]
    exact lt_of_mem_vowels _ hmem
  cases h with
  | short => exact ⟨_, _, rfl⟩
  | long => exact ⟨_, _, rfl⟩
  | geminate hc =>
    have hplain := plain_of_mem_consonants hc
    exact (hlast hplain.1 (by simp)).elim
  | quoted hmem => exact (hlast (hvowel hmem) (by simp)).elim
  | nasal => exact (hlast (d := 'n') (by decide) (by simp)).elim
  | prolonged hscript hmem => exact (hlast (hvowel hmem) (by simp)).elim

theorem exists_vowel_of_latin (script : Script) : ∀ c ∈ ['a', 'i', 'u', 'e', 'o'],
    ∃ vowel ∈ script.vowels, vowel.latin = c := by
  cases script <;> decide

/-- Every vowel of a long vowel has an entry. -/
theorem exists_entry_of_mem_longVowels (script : Script) {long : LongVowel}
    (hlong : long ∈ longVowels) :
    ∃ entry ∈ Table.default.romajiEntries script, entry.1 = [foldChar long.vowel] := by
  obtain ⟨vowel, hmem, hlatin⟩ :=
    exists_vowel_of_latin script _ (LongVowel.inData long hlong).foldVowel
  rw [← hlatin]
  exact exists_mem_romajiEntries script _
    (List.mem_append_left _ (List.mem_append_right _ (List.mem_map_of_mem hmem)))

/-- Where the table has an entry for a text that ends in a vowel, the text with the long vowel is
found with a literal rule. -/
theorem lookup?_letter_of_entry {long : LongVowel} (hlong : long ∈ longVowels)
    (ht : ∀ c ∈ t, IsLatin c)
    (hentry : ∃ entry ∈ Table.default.romajiEntries script,
      entry.1 = t.map foldChar ++ [foldChar long.vowel]) :
    ∃ key output, (Converter.default.index script).lookup? (t ++ [long.letter]) =
      some (.literal key output) := by
  obtain ⟨⟨_, output⟩, hmem, rfl⟩ := hentry
  have hlatin : ∀ c ∈ t ++ [long.letter], IsLatin c :=
    List.forall_mem_append.mpr ⟨ht, List.forall_mem_singleton.mpr (Or.inr ⟨long, hlong, rfl⟩)⟩
  have hmap : (t ++ [long.letter]).map foldChar = t.map foldChar ++ [long.fold.letter] := by
    rw [List.map_append, List.map_singleton, LongVowel.letter_fold]
  have hlower : lowercase (t ++ [long.letter]) = t.map foldChar ++ [long.fold.letter] :=
    (lowercase_of_latin hlatin).trans hmap
  have hfold := LongVowel.fold_mem long hlong
  rw [← LongVowel.vowel_fold] at hmem
  -- the entry has a variant with the long vowel, so some rule claims the text
  have hvariant : RomajiRule .default script (.literal (t.map foldChar ++ [long.fold.letter])
      (output ++ prolongedSoundMark)) := .long hfold hmem
  obtain ⟨rule, hrule⟩ := exists_lookup?_of_claims hvariant (Or.inl hlower)
  obtain ⟨hkind, hkey⟩ := key_of_lookup? hlatin (by simp) hrule
  obtain ⟨key, output, rfl⟩ := hkind.exists_literal_of_letter hfold (hkey.trans hmap)
  exact ⟨key, output, hrule⟩

/-- A long vowel is found by itself. -/
theorem lookup?_letter {long : LongVowel} (hlong : long ∈ longVowels) (script : Script) :
    ∃ key output, (Converter.default.index script).lookup? [long.letter] =
      some (.literal key output) := by
  have hentry := exists_entry_of_mem_longVowels script hlong
  rw [← List.nil_append [foldChar long.vowel], ← List.map_nil] at hentry
  exact lookup?_letter_of_entry hlong (List.forall_mem_nil _) hentry

/-- A text that is found with a bare vowel at its end is a quoted vowel, or is found with the long
vowel as well. -/
theorem lookup?_letter_of_vowel {long : LongVowel} (hlong : long ∈ longVowels)
    (ht : ∀ c ∈ t, IsLatin c)
    (h : (Converter.default.index script).lookup? (t ++ [long.vowel]) = some rule) :
    (t = ['\x27'] ∧ ∃ vowel ∈ script.vowels, vowel.latin = foldChar long.vowel ∧
        rule = .quotedVowel vowel.latin vowel.kana) ∨
      ∃ key output, (Converter.default.index script).lookup? (t ++ [long.letter]) =
        some (.literal key output) := by
  have hfold := LongVowel.fold_mem long hlong
  obtain ⟨-, -, hvowel, -⟩ := LongVowel.bounds long hlong
  have hlatin : ∀ c ∈ t ++ [long.vowel], IsLatin c :=
    List.forall_mem_append.mpr ⟨ht, List.forall_mem_singleton.mpr (Or.inl (by omega))⟩
  obtain ⟨hkind, hkey⟩ := key_of_lookup? hlatin (by simp) h
  rw [List.map_append, List.map_singleton] at hkey
  have hlast : rule.key.getLast? = some long.fold.vowel := by
    rw [hkey, List.getLast?_concat, LongVowel.vowel_fold]
  cases hkind with
  | short hentry => exact Or.inr (lookup?_letter_of_entry hlong ht ⟨_, hentry, hkey⟩)
  | @long stem output other hother hentry =>
    obtain ⟨hletter, -, -, -⟩ := LongVowel.bounds other hother
    obtain ⟨-, -, hvowel, -⟩ := LongVowel.bounds _ hfold
    rw [key_literal, List.getLast?_concat, Option.some.injEq] at hlast
    rw [hlast] at hletter
    omega
  | geminate hc =>
    rw [key_geminate, List.getLast?_cons_cons, List.getLast?_singleton, Option.some.injEq] at hlast
    rw [hlast] at hc
    exact absurd hc (vowel_not_mem_geminateConsonants _ hfold)
  | @quoted vowel hmem =>
    obtain ⟨hlower, -⟩ := foldChar_latin_of_mem_vowels script vowel hmem
    rw [key_quotedVowel, hlower] at hkey
    rw [key_quotedVowel, hlower, List.getLast?_cons_cons, List.getLast?_singleton,
      Option.some.injEq, LongVowel.vowel_fold] at hlast
    have hquote := congrArg List.dropLast hkey
    rw [List.dropLast_concat, List.dropLast_cons_cons, List.dropLast_singleton] at hquote
    obtain ⟨c, rfl, hc⟩ := List.map_eq_singleton_iff.mp hquote.symm
    exact Or.inl ⟨by rw [eq_of_foldChar hc (by decide)], vowel, hmem, hlast, rfl⟩
  | nasal =>
    rw [key_doubledNasal, List.getLast?_cons_cons, List.getLast?_singleton,
      Option.some.injEq] at hlast
    exact absurd hlast.symm (not_mem_vowels _ hfold).1
  | @prolonged vowel hscript hmem =>
    have hnil := congrArg List.dropLast hkey
    rw [key_prolongedVowel, List.dropLast_concat, List.dropLast_singleton] at hnil
    refine Or.inr (lookup?_letter_of_entry hlong ht ?_)
    rw [← hnil, List.nil_append]
    exact exists_entry_of_mem_longVowels script hlong

end Syllabary.Kana
