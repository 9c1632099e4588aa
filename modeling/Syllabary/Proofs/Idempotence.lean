import Syllabary.Proofs.Agreement
import Syllabary.Proofs.DefaultKeys

/-!
# Converting once is enough

A converter of the default table writes characters that begin no key. What it lets through stands
between other neighbours afterwards, but no key joins it with them: the keys for kana would have
taken it already, and in those for romaji no written character occurs. So nothing is found in what
a conversion has written, and a second one lets all of it through.

## Main statements

* `Settled.convert_eq`: a text in which nothing is found stays.
* `settled_outputs`: nothing is found in the outputs of a scan.
* `convert_convert`: conversions to either script are idempotent.
-/

namespace Syllabary.Kana

open Unicode
open scoped Text

variable {script : Script} {rule : Rule} {rules : RuleView} {context : Context} {c : Char}
  {input output trigger t : Text} {step : Step}

/-! ## Written characters -/

/-- The characters that a converter to the script reads as letters of the other one: the hiragana,
or the katakana of both widths. -/
def IsSource (script : Script) (c : Char) : Prop :=
  script.pick
    (0x30A1 ≤ c.toNat ∧ c.toNat ≤ 0x30FA ∨ 0x30FD ≤ c.toNat ∧ c.toNat ≤ 0x30FF ∨
      0xFF66 ≤ c.toNat ∧ c.toNat ≤ 0xFF9D)
    (0x3041 ≤ c.toNat ∧ c.toNat ≤ 0x3096 ∨ 0x309D ≤ c.toNat ∧ c.toNat ≤ 0x309F)

instance (script : Script) (c : Char) : Decidable (IsSource script c) := by
  cases script <;> exact inferInstanceAs (Decidable (_ ∨ _))

/-- A character that no key for romaji contains and no key for kana begins with. -/
def IsWritten (script : Script) (c : Char) : Prop := IsUncased c ∧ ¬ IsSource script c

instance (script : Script) (c : Char) : Decidable (IsWritten script c) :=
  inferInstanceAs (Decidable (_ ∧ _))

theorem isSource_of_mem_key (hmem : rule ∈ fromKana .default script) (hc : rule.key = [c]) :
    IsSource script c := by
  have hkeys : ∀ rule ∈ fromKana .default script, ∀ c ∈ rule.key, rule.key = [c] →
      IsSource script c := by
    cases script <;> decide +kernel
  exact hkeys rule hmem c (hc ▸ List.mem_cons_self) hc

/-- Nothing is found at a written character. -/
theorem lookup?_eq_none_of_written (hc : IsWritten script c) (t : Text) :
    (Converter.default.index script).lookup? (c :: t) = none := by
  obtain ⟨huncased, hsource⟩ := hc
  obtain ⟨s, hs⟩ := List.head?_eq_some_iff.mp (head?_lowercase c t)
  rw [huncased.foldChar_eq] at hs
  rw [Option.eq_none_iff_forall_ne_some]
  intro rule hrule
  rcases lookup?_cases hrule with ⟨hkana, hform⟩ | ⟨-, -, hbelow⟩
  · rw [hs] at hform
    rcases hform.marked with ⟨hlength, hkey⟩ | ⟨-, hhead⟩
    · obtain rfl : s = [] := by simpa using hlength
      exact hsource (isSource_of_mem_key hkana hkey.symm)
    · obtain ⟨other, hother, hkey⟩ := hhead
      exact hsource (isSource_of_mem_key hother hkey)
  · rw [hs] at hbelow
    have hlt := hbelow c List.mem_cons_self
    have hle := huncased.le
    omega

/-- Lowercasing keeps the folded characters, but for capital sigmas. -/
theorem foldChar_mem_lowercase (hc : c ∈ t) (hsigma : c ≠ 'Σ') : foldChar c ∈ lowercase t := by
  obtain ⟨before, after, hsubset⟩ := exists_lowercaseBetween_subset hc []
  refine hsubset (foldChar c) ?_
  rw [lowercaseBetween, if_neg hsigma]
  exact List.mem_of_head? (head?_lowercaseChar c)

/-! ## Outputs -/

/-- What a rule may write. -/
def IsWriting (script : Script) (output : Text) : Prop :=
  output ≠ [] ∧ ∀ c ∈ output, IsWritten script c

instance (script : Script) (output : Text) : Decidable (IsWriting script output) :=
  inferInstanceAs (Decidable (_ ∧ _))

theorem IsWriting.append {other : Text} (h : IsWriting script output)
    (hother : IsWriting script other) : IsWriting script (output ++ other) :=
  ⟨by simp [h.1], List.forall_mem_append.mpr ⟨h.2, hother.2⟩⟩

theorem isWriting_of_mem_fromKana (hmem : rule ∈ fromKana .default script) :
    ∀ output ∈ rule.output?, IsWriting script output := by
  have houtputs : ∀ rule ∈ fromKana .default script, ∀ output ∈ rule.output?,
      IsWriting script output := by
    cases script <;> decide +kernel
  exact houtputs rule hmem

theorem isWriting_of_mem_romajiEntries (script : Script) :
    ∀ entry ∈ Table.default.romajiEntries script, IsWriting script entry.2 := by
  cases script <;> decide +kernel

/-- The outputs that the rules name without the table. -/
theorem isWriting_of_mem (script : Script) :
    ∀ output ∈ prolongedSoundMark :: script.nasal :: script.geminateMarker ::
      script.vowels.map Vowel.kana, IsWriting script output := by
  cases script <;> decide +kernel

theorem RomajiRule.isWriting (h : RomajiRule .default script rule) (htrigger : trigger ≠ [])
    (hperformed : rule.perform? rules context input trigger = some step) :
    IsWriting script step.output := by
  have hmark : IsWriting script prolongedSoundMark := isWriting_of_mem script _ (by simp)
  have hvowel {vowel : Vowel} (hmem : vowel ∈ script.vowels) : IsWriting script vowel.kana :=
    isWriting_of_mem script _ (by simp [List.mem_map_of_mem hmem])
  cases h with
  | short hentry =>
    rw [← Option.some.inj hperformed]
    exact isWriting_of_mem_romajiEntries script _ hentry
  | long _ hentry =>
    rw [← Option.some.inj hperformed]
    exact (isWriting_of_mem_romajiEntries script _ hentry).append hmark
  | geminate =>
    rw [← Option.some.inj hperformed]
    exact isWriting_of_mem script _ (by simp [Step.accept])
  | quoted hmem =>
    rw [perform?_quotedVowel htrigger, Option.ite_none_right_eq_some, Option.some.injEq]
      at hperformed
    rw [← hperformed.2]
    exact hvowel hmem
  | nasal =>
    rw [perform?_doubledNasal htrigger, Option.ite_none_left_eq_some, Option.some.injEq]
      at hperformed
    rw [← hperformed.2]
    exact isWriting_of_mem script _ (by simp [Step.accept])
  | prolonged _ hmem =>
    rw [perform?_prolongedVowel, Option.some.injEq] at hperformed
    rw [← hperformed, Step.accept]
    dsimp only
    split
    · exact hmark
    · exact hvowel hmem

/-- Whatever rule takes a step writes something, and nothing but written characters. -/
theorem isWriting_of_takes {cursor : Cursor} {front : Text}
    (h : (Converter.default.index script).Takes cursor front rule) :
    IsWriting script (cursor.next (Converter.default.index script)).output := by
  rcases lookup?_cases h.looked with ⟨hkana, -⟩ | ⟨hromaji, -⟩
  · obtain ⟨key, output, rfl⟩ := exists_literal_of_mem_fromKana hkana
    rw [← Option.some.inj h.performed]
    exact isWriting_of_mem_fromKana hkana output rfl
  · exact hromaji.isWriting h.decides.ne_nil h.performed

/-- The outputs at a character that passes through. -/
theorem outputs_of_passes (h : (Converter.default.index script).Passes ⟨context, input⟩ c) :
    ∃ t, input = c :: t ∧ ((Converter.default.index script).step context input).rest input = t ∧
      (Converter.default.index script).outputs context input =
        c :: (Converter.default.index script).outputs
          ((Converter.default.index script).step context input).context t := by
  obtain ⟨t, rfl⟩ := List.head?_eq_some_iff.mp h.first
  have hstep : (Converter.default.index script).step context (c :: t) =
      .accept (c :: t) [c] [c] 1 none := h.next_eq
  refine ⟨t, rfl, ?_, ?_⟩
  · rw [hstep, Index.rest_accept, List.drop_one, List.tail_cons]
  · rw [Index.outputs_of_step_eq (by simp) hstep, List.drop_one, List.tail_cons,
      List.singleton_append]

/-! ## Settled texts -/

/-- A text in which nothing is found, at whatever place one looks. -/
inductive Settled (script : Script) : Text → Prop
  | nil : Settled script []
  | cons {c : Char} {t : Text}
      (hnone : ∀ s, s <+: t → (Converter.default.index script).lookup? (c :: s) = none)
      (ht : Settled script t) : Settled script (c :: t)

theorem Settled.lookup?_eq_none (h : Settled script t) {s : Text} (hs : s ≠ [])
    (hpart : s <:+: t) : (Converter.default.index script).lookup? s = none := by
  induction h with
  | nil => exact absurd (List.infix_nil.mp hpart) hs
  | @cons c t hnone ht ih =>
    rcases List.infix_cons_iff.mp hpart with hfront | hlater
    · obtain ⟨s, rfl⟩ := Index.exists_cons_of_prefix hfront hs
      exact hnone s (List.cons_prefix_cons.mp hfront).2
    · exact ih hlater

/-- A settled text stays. -/
theorem Settled.convert_eq (h : Settled script t) :
    (Converter.default.index script).convert t = t := by
  rw [index_default]
  apply Index.convert_eq_self
  rw [← index_default]
  exact fun s hs hpart => h.lookup?_eq_none hs hpart

/-- Written characters in front of a settled text are settled. -/
theorem Settled.append (ht : Settled script t) (houtput : ∀ c ∈ output, IsWritten script c) :
    Settled script (output ++ t) := by
  induction output with
  | nil => exact ht
  | cons c output ih =>
    obtain ⟨hc, houtput⟩ := List.forall_mem_cons.mp houtput
    exact .cons (fun s _ => lookup?_eq_none_of_written hc s) (ih houtput)

/-- Where the outputs begin with characters that no rule writes, these stand in the input. -/
theorem prefix_of_outputs (hfront : t <+: (Converter.default.index script).outputs context input)
    (ht : ∀ c ∈ t, ¬ IsWritten script c) : t <+: input := by
  induction t generalizing context input with
  | nil => exact List.nil_prefix
  | cons d t ih =>
    obtain ⟨hd, ht⟩ := List.forall_mem_cons.mp ht
    have hinput : input ≠ [] := by
      rintro rfl
      simp at hfront
    rcases takes_or_passes_default script context hinput with ⟨front, rule, htakes⟩ | ⟨c, hpasses⟩
    · obtain ⟨hne, hwritten⟩ := isWriting_of_takes htakes
      obtain ⟨e, output, houtput⟩ := List.exists_cons_of_ne_nil hne
      have hstep : ((Converter.default.index script).step context input).output = e :: output :=
        houtput
      rw [Index.outputs_of_ne_nil hinput, hstep, List.cons_append, List.cons_prefix_cons] at hfront
      refine absurd (hwritten d ?_) hd
      rw [houtput, hfront.1]
      exact List.mem_cons_self
    · obtain ⟨s, rfl, -, houtputs⟩ := outputs_of_passes hpasses
      rw [houtputs, List.cons_prefix_cons] at hfront
      exact List.cons_prefix_cons.mpr ⟨hfront.1, ih hfront.2 ht⟩

/-- Behind a character that passes through, nothing is found with what is written after it. -/
theorem lookup?_outputs_of_passes
    (h : (Converter.default.index script).Passes ⟨context, c :: t⟩ c) {next : Context} {s : Text}
    (hs : s <+: (Converter.default.index script).outputs next t) :
    (Converter.default.index script).lookup? (c :: s) = none := by
  rw [Option.eq_none_iff_forall_ne_some]
  intro rule hrule
  rcases lookup?_cases hrule with ⟨hkana, hform⟩ | ⟨-, -, hbelow⟩
  · -- a key for kana would have taken the character alone
    obtain ⟨found, hfound⟩ := exists_lookup?_of_kana hkana hform
    rw [lookup?_eq_none_of_passes h (by simp) ⟨t, rfl⟩] at hfound
    contradiction
  · -- in a key for romaji nothing is written, so that it would stand in the input
    have hunwritten : ∀ d ∈ s, ¬ IsWritten script d := by
      rintro d hd ⟨huncased, -⟩
      have hmem := foldChar_mem_lowercase (List.mem_cons_of_mem c hd) huncased.ne.1
      rw [huncased.foldChar_eq] at hmem
      have hlt := hbelow d hmem
      have hle := huncased.le
      omega
    have hfront : c :: s <+: c :: t :=
      List.cons_prefix_cons.mpr ⟨rfl, prefix_of_outputs hs hunwritten⟩
    rw [lookup?_eq_none_of_passes h (by simp) hfront] at hrule
    contradiction

/-- Nothing is found in the outputs of a scan. -/
theorem settled_outputs (script : Script) (context : Context) (input : Text) :
    Settled script ((Converter.default.index script).outputs context input) := by
  fun_induction Index.steps (Converter.default.index script) context input with
  | case1 context => simpa using Settled.nil
  | case2 context input hinput step ih =>
    rcases takes_or_passes_default script context hinput with ⟨front, rule, htakes⟩ | ⟨c, hpasses⟩
    · rw [Index.outputs_of_ne_nil hinput]
      exact ih.append (isWriting_of_takes htakes).2
    · obtain ⟨t, rfl, hrest, houtputs⟩ := outputs_of_passes hpasses
      have hsettled : Settled script ((Converter.default.index script).outputs step.context t) := by
        rwa [hrest] at ih
      rw [houtputs]
      exact .cons (fun s hs => lookup?_outputs_of_passes hpasses hs) hsettled

/-- What a converter has written, it leaves as it is. -/
theorem convert_convert (script : Script) (t : Text) :
    (Converter.default.index script).convert ((Converter.default.index script).convert t) =
      (Converter.default.index script).convert t := by
  rw [convert_default script t]
  exact (settled_outputs script .fresh t).convert_eq

/-- Conversions to either script are idempotent. -/
theorem convert_idempotent (t : Text) :
    Converter.default.toHiragana (Converter.default.toHiragana t) = Converter.default.toHiragana t ∧
    Converter.default.toKatakana (Converter.default.toKatakana t) =
      Converter.default.toKatakana t :=
  ⟨convert_convert .hiragana t, convert_convert .katakana t⟩

end Syllabary.Kana
