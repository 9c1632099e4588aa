import Syllabary.Proofs.DefaultKeys

/-!
# Kana letter by letter

A key for kana of more than one character has a sound mark in it. So a text of kana without sound
marks is converted letter by letter, whatever stands around a letter, and the letters that stand
side by side in the table come back from the other script.

## Main statements

* `convert_of_letters`: the conversion of kana without sound marks.
* `convert_kana_round_trip`: the letters of a script come back from the other one.
-/

namespace Syllabary.Kana

open Unicode
open scoped Text

variable {script : Script} {context : Context} {rule : Rule} {c : Char} {t : Text}

/-! ## Letters -/

/-- A character without letter case that is no sound mark. -/
def IsLetter (c : Char) : Prop := IsUncased c ∧ c ∉ soundMarks

instance (c : Char) : Decidable (IsLetter c) := inferInstanceAs (Decidable (_ ∧ _))

/-- What a script writes for a letter of the other one. It keeps its own letters and all else. -/
def letterIn (script : Script) (c : Char) : Text :=
  (((fromKana .default script).find? fun rule => rule.key == [c]).bind Rule.output?).getD [c]

/-- Rules for one letter write the same. -/
theorem output?_eq_letterIn (hmem : rule ∈ fromKana .default script) (hkey : rule.key = [c]) :
    rule.output? = some (letterIn script c) := by
  have houtputs : ∀ rule ∈ fromKana .default script, ∀ c ∈ rule.key, rule.key = [c] →
      rule.output? = some (letterIn script c) := by
    cases script <;> decide +kernel
  exact houtputs rule hmem c (by simp [hkey]) hkey

theorem letterIn_eq_self (h : ∀ rule ∈ fromKana .default script, rule.key ≠ [c]) :
    letterIn script c = [c] := by
  have hnone : (fromKana .default script).find? (fun rule => rule.key == [c]) = none := by
    simpa using h
  rw [letterIn, hnone, Option.bind_none, Option.getD_none]

/-- What is found for letters is one letter. -/
theorem eq_of_lookup?_letters (ht : ∀ d ∈ c :: t, IsLetter d)
    (h : (Converter.default.index script).lookup? (c :: t) = some rule) :
    t = [] ∧ rule = .literal [c] (letterIn script c) := by
  have hlower : lowercase (c :: t) = c :: t := lowercase_of_uncased fun d hd => (ht d hd).1
  rcases lookup?_cases h with ⟨hkana, hform⟩ | ⟨-, -, hbelow⟩
  · rw [hlower] at hform
    rcases hform.marked with ⟨hlength, hkey⟩ | ⟨⟨d, hd, hmark⟩, -⟩
    · obtain rfl : t = [] := by simpa using hlength
      obtain ⟨key, output, rfl⟩ := exists_literal_of_mem_fromKana hkana
      rw [key_literal] at hkey
      subst hkey
      have houtput := output?_eq_letterIn hkana rfl
      exact ⟨rfl, by rw [Option.some.inj houtput]⟩
    · exact absurd hmark (ht d hd).2
  · rw [hlower] at hbelow
    have hlt := hbelow c List.mem_cons_self
    have hle := (ht c List.mem_cons_self).1.le
    omega

/-! ## Conversions -/

/-- A letter in front of letters is converted by itself. -/
theorem step_letter (ht : ∀ d ∈ c :: t, IsLetter d) (script : Script) (context : Context) :
    (Converter.default.index script).step context (c :: t) =
      .accept (c :: t) [c] (letterIn script c) 1 none := by
  rcases takes_or_passes_default script context (List.cons_ne_nil c t) with
    ⟨front, rule, htakes⟩ | ⟨d, hpasses⟩
  · obtain ⟨s, rfl⟩ := Index.exists_cons_of_prefix htakes.decides.isFront htakes.decides.ne_nil
    have hs : ∀ d ∈ c :: s, IsLetter d := fun d hd => ht d (htakes.decides.isFront.subset hd)
    obtain ⟨rfl, rfl⟩ := eq_of_lookup?_letters hs htakes.looked
    exact (Option.some.inj htakes.performed).symm
  · obtain rfl : c = d := Option.some.inj hpasses.first
    -- no rule has the letter for its key, since it would be found
    have hnone := lookup?_eq_none_of_passes hpasses (List.cons_ne_nil c []) ⟨t, rfl⟩
    have hlower : lowercase [c] = [c] :=
      lowercase_of_uncased (List.forall_mem_singleton.mpr (ht c List.mem_cons_self).1)
    have hself : letterIn script c = [c] := by
      refine letterIn_eq_self fun rule hrule hkey => ?_
      obtain ⟨found, hfound⟩ := exists_lookup?_of_mem (mem_ruleSet_of_mem_fromKana hrule)
        (Or.inl (hlower.trans hkey.symm))
      rw [hnone] at hfound
      contradiction
    rw [hself]
    exact hpasses.next_eq

/-- Kana without sound marks is converted letter by letter. -/
theorem convert_of_letters (ht : ∀ c ∈ t, IsLetter c) (script : Script) :
    (Converter.default.index script).convert t = t.flatMap (letterIn script) := by
  rw [convert_default]
  generalize Context.fresh = context
  induction t generalizing context with
  | nil => simp
  | cons c t ih =>
    rw [Index.outputs_of_step_eq (by simp) (step_letter ht script context),
      List.drop_one, List.tail_cons, ih (fun d hd => ht d (List.mem_cons_of_mem c hd)),
      List.flatMap_cons]

/-! ## Both ways -/

/-- The other script. -/
def Script.other (script : Script) : Script := script.pick .katakana .hiragana

/-- The single letters of a script, and its iteration marks. -/
def letters (script : Script) : List Text :=
  (Table.default.kana ++ Table.default.smallKana).map (fun row => row.inScript script) ++
    script.pick [['ゝ'], ['ゞ']] [['ヽ'], ['ヾ']]

/-- The letters come back one by one. -/
theorem letterIn_other (hc : [c] ∈ letters script) :
    IsLetter c ∧ (∀ d ∈ letterIn script.other c, IsLetter d) ∧
      (letterIn script.other c).flatMap (letterIn script) = [c] := by
  have hletters : ∀ letter ∈ letters script, ∀ c ∈ letter,
      IsLetter c ∧ (∀ d ∈ letterIn script.other c, IsLetter d) ∧
        (letterIn script.other c).flatMap (letterIn script) = [c] := by
    cases script <;> decide +kernel
  exact hletters [c] hc c List.mem_cons_self

theorem convert_convert_other (script : Script) (ht : ∀ c ∈ t, [c] ∈ letters script) :
    (Converter.default.index script).convert
      ((Converter.default.index script.other).convert t) = t := by
  have hback : ∀ c ∈ t, (letterIn script.other c).flatMap (letterIn script) = [c] := fun c hc =>
    (letterIn_other (ht c hc)).2.2
  rw [convert_of_letters fun c hc => (letterIn_other (ht c hc)).1, convert_of_letters,
    List.flatMap_assoc, List.flatMap_congr hback, List.flatMap_singleton']
  intro d hd
  obtain ⟨c, hc, hd⟩ := List.mem_flatMap.mp hd
  exact (letterIn_other (ht c hc)).2.1 d hd

/-- Texts of the single letters of a script come back from the other script, in both directions. -/
theorem convert_kana_round_trip :
    (∀ t : Text, (∀ c ∈ t, [c] ∈ letters .hiragana) →
      Converter.default.toHiragana (Converter.default.toKatakana t) = t) ∧
    ∀ t : Text, (∀ c ∈ t, [c] ∈ letters .katakana) →
      Converter.default.toKatakana (Converter.default.toHiragana t) = t :=
  ⟨fun _ ht => convert_convert_other .hiragana ht,
    fun _ ht => convert_convert_other .katakana ht⟩

/-- Small letters, voiced letters and iteration marks come back. -/
theorem convert_kana_round_trip_ka :
    Converter.default.toHiragana (Converter.default.toKatakana ['ゕ', 'が', 'ゝ']) =
      ['ゕ', 'が', 'ゝ'] ∧
    Converter.default.toKatakana (Converter.default.toHiragana ['ヵ', 'ガ', 'ヾ']) =
      ['ヵ', 'ガ', 'ヾ'] :=
  ⟨convert_kana_round_trip.1 _ (by decide), convert_kana_round_trip.2 _ (by decide)⟩

end Syllabary.Kana
