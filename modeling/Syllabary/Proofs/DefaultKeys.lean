import Syllabary.Proofs.Lockstep
import Syllabary.Proofs.VowelSteps

/-!
# The keys of the default table

The keys for kana lie above those for romaji and share no character with them. A key for kana is a
letter, or a letter and a sound mark, where the letter is a key by itself. Keys for romaji may be
refused, but only those of two characters, of which the first one is a key by itself. So a character
passes through only if nothing is found at it at all.

## Main statements

* `lowercase_of_mem_keys`: all keys are in lower case.
* `lookup?_cases`: a text is found for its kana or for its romaji.
* `lookup?_eq_none_of_passes`: nothing is found at a character that passes through.
-/

namespace Syllabary.Kana

open Unicode
open scoped Text

variable {script : Script} {rule : Rule} {c : Char} {t : Text}

/-! ## Characters without letter case -/

/-- The characters from the first signs of kana up to the ideographs, and those of full and half
width but for the capital letters. -/
def IsUncased (c : Char) : Prop :=
  0x3000 ≤ c.toNat ∧ c.toNat < 0xA000 ∨ 0xFF00 ≤ c.toNat ∧ c.toNat < 0xFFF0 ∧
    ¬ (0xFF21 ≤ c.toNat ∧ c.toNat ≤ 0xFF3A)

instance (c : Char) : Decidable (IsUncased c) := inferInstanceAs (Decidable (_ ∨ _))

theorem IsUncased.le (h : IsUncased c) : 0x3000 ≤ c.toNat := by
  unfold IsUncased at h
  omega

theorem IsUncased.foldChar_eq (h : IsUncased c) : foldChar c = c := by
  have hpoints : ∀ point ∈ lowercasePoints, point.1 < 0x3000 ∨
      0xA000 ≤ point.1 ∧ point.1 < 0xFF00 ∨ 0xFF21 ≤ point.1 ∧ point.1 ≤ 0xFF3A ∨
      0xFFF0 ≤ point.1 := by decide +kernel
  rcases foldChar_eq_or_mem c with heq | ⟨code, hmem, -⟩
  · exact heq
  · have hcode := hpoints _ hmem
    unfold IsUncased at h
    dsimp only at hcode
    omega

theorem IsUncased.ne (h : IsUncased c) : c ≠ 'Σ' ∧ c ≠ 'İ' :=
  ⟨fun heq => absurd (heq ▸ h) (by decide), fun heq => absurd (heq ▸ h) (by decide)⟩

theorem lowercase_of_uncased (h : ∀ c ∈ t, IsUncased c) : lowercase t = t := by
  rw [lowercase_eq_map fun c hc => (h c hc).ne,
    List.map_congr_left fun c hc => (h c hc).foldChar_eq, List.map_id']

/-! ## Keys for kana -/

/-- The marks that stand behind a letter. -/
def soundMarks : Text := [voicedMark, semiVoicedMark, halfwidthVoicedMark, halfwidthSemiVoicedMark]

/-- What the forms of a key for kana look like. -/
structure KanaForm (script : Script) (key form : Text) : Prop where
  uncased : ∀ c ∈ form, IsUncased c
  /-- A form of more than one character has a sound mark, and its first letter is a key. -/
  marked : form.length = 1 ∧ form = key ∨
    (∃ c ∈ form, c ∈ soundMarks) ∧ ∃ other ∈ fromKana .default script, other.key = form.take 1

theorem kanaForm_of_claims (hmem : rule ∈ fromKana .default script)
    (hclaims : rule.Claims .unicode t) : KanaForm script rule.key t := by
  -- tests stand for the existential statements, which would be decided over all characters
  have hforms : ∀ rule ∈ fromKana .default script, ∀ form ∈ Normalizer.unicode.forms rule.key,
      (∀ c ∈ form, IsUncased c) ∧
      (form.length = 1 ∧ form = rule.key ∨
        (form.any fun c => c ∈ soundMarks) = true ∧
          ((fromKana .default script).any fun other => other.key == form.take 1) = true) := by
    cases script <;> decide +kernel
  obtain ⟨huncased, hmarked⟩ := hforms rule hmem t (Rule.mem_forms_iff_claims.mpr hclaims)
  refine ⟨huncased, hmarked.imp_right fun ⟨hmark, hhead⟩ => ?_⟩
  obtain ⟨c, hc, hmark⟩ := List.any_eq_true.mp hmark
  obtain ⟨other, hother, hkey⟩ := List.any_eq_true.mp hhead
  exact ⟨⟨c, hc, of_decide_eq_true hmark⟩, other, hother, beq_iff_eq.mp hkey⟩

/-! ## Keys for romaji -/

theorem lt_of_mem_marks : ∀ long ∈ longVowels,
    long.letter.toNat < 0x3000 ∧ long.mark.toNat < 0x3000 := by
  decide

/-- The keys for romaji are composed. -/
theorem RomajiRule.nfc_key (h : RomajiRule .default script rule) : nfc rule.key = rule.key := by
  rcases h.key_cases with hwon | hromaji
  · rw [hwon]
    decide +kernel
  · exact hromaji.nfc_eq

/-- A key for romaji claims itself and its decomposition. -/
theorem RomajiRule.eq_of_claims (h : RomajiRule .default script rule)
    (hclaims : rule.Claims .unicode t) : t = rule.key ∨ t = nfd rule.key := by
  rcases hclaims with heq | heq | heq
  · exact Or.inl heq
  · exact Or.inl (heq.trans h.nfc_key)
  · exact Or.inr heq

/-- The forms of a key for romaji lie below all kana and are in lower case. -/
theorem RomajiRule.form_of_claims (h : RomajiRule .default script rule)
    (hclaims : rule.Claims .unicode t) : (∀ c ∈ t, c.toNat < 0x3000) ∧ lowercase t = t := by
  have hform := h.eq_of_claims hclaims
  rcases h.key_cases with hwon | hromaji
  · have hnfd : nfd ['₩'] = ['₩'] := by decide +kernel
    rw [hwon, hnfd, or_self] at hform
    subst hform
    exact ⟨by decide, by decide +kernel⟩
  · have hlatin : ∀ c ∈ rule.key, IsLatin c := fun c hc => (hromaji.2 c hc).1
    rcases hform with rfl | rfl
    · refine ⟨fun c hc => ?_, by rw [lowercase_of_latin hlatin, hromaji.map_foldChar]⟩
      rcases hlatin c hc with hlt | ⟨long, hlong, rfl⟩
      · omega
      · exact (lt_of_mem_marks long hlong).1
    · refine ⟨fun c hc => ?_, by rw [lowercase_nfd hlatin, hromaji.map_foldChar]⟩
      rw [nfd_of_latin hlatin] at hc
      obtain ⟨d, hd, hc⟩ := List.mem_flatMap.mp hc
      rcases mem_decomposeChar_of_latin (hlatin d hd) hc with hlt | ⟨long, hlong, rfl⟩
      · omega
      · exact (lt_of_mem_marks long hlong).2

/-! ## Lookups -/

theorem mem_ruleSet_of_mem_fromKana (h : rule ∈ fromKana .default script) :
    rule ∈ Converter.ruleSet .default [] script := by
  rw [ruleSet_eq]
  exact List.mem_append_left _ h

theorem mem_ruleSet_cases (h : rule ∈ Converter.ruleSet .default [] script) :
    rule ∈ fromKana .default script ∨ RomajiRule .default script rule := by
  rwa [ruleSet_eq, List.mem_append, mem_romajiToKana_append_vowelRuns_iff] at h

/-- All keys are in lower case. -/
theorem lowercase_of_mem_keys (script : Script) :
    ∀ key ∈ (Index.ofRules .unicode (Converter.ruleSet .default [] script)).keys,
      lowercase key = key := by
  intro key hkey
  obtain ⟨rule, hmem, hclaims⟩ := Index.mem_keys_ofRules.mp hkey
  rcases mem_ruleSet_cases hmem with hkana | hromaji
  · exact lowercase_of_uncased (kanaForm_of_claims hkana hclaims).uncased
  · exact (hromaji.form_of_claims hclaims).2

theorem lookup?_eq_owner? (script : Script) (t : Text) :
    (Converter.default.index script).lookup? t =
      RuleSet.owner? .unicode (Converter.ruleSet .default [] script) (lowercase t) := by
  rw [index_default, Index.lookup?_eq_get?_lowercase (lowercase_of_mem_keys script),
    Index.get?_ofRules]

/-- What claims the lowercase of a text lets the text be found. -/
theorem exists_lookup?_of_mem (hmem : rule ∈ Converter.ruleSet .default [] script)
    (hclaims : rule.Claims .unicode (lowercase t)) :
    ∃ found, (Converter.default.index script).lookup? t = some found := by
  rw [index_default]
  exact Index.exists_lookup?_of_claims hmem hclaims

/-- A text is found for its kana or for its romaji. -/
theorem lookup?_cases (h : (Converter.default.index script).lookup? t = some rule) :
    (rule ∈ fromKana .default script ∧ KanaForm script rule.key (lowercase t)) ∨
      RomajiRule .default script rule ∧ (lowercase t = rule.key ∨ lowercase t = nfd rule.key) ∧
        ∀ d ∈ lowercase t, d.toNat < 0x3000 := by
  rw [lookup?_eq_owner?, RuleSet.owner?_eq_some_iff] at h
  obtain ⟨before, after, hset, hclaims, -⟩ := h
  have hmem : rule ∈ Converter.ruleSet .default [] script :=
    hset ▸ List.mem_append_right before List.mem_cons_self
  rcases mem_ruleSet_cases hmem with hkana | hromaji
  · exact Or.inl ⟨hkana, kanaForm_of_claims hkana hclaims⟩
  · exact Or.inr ⟨hromaji, hromaji.eq_of_claims hclaims, (hromaji.form_of_claims hclaims).1⟩

/-! ## Single characters -/

/-- Only U+0130 has a lowercase of two characters. -/
theorem lowercase_singleton (c : Char) :
    lowercase [c] = [foldChar c] ∨ lowercase [c] = [foldChar c, '\u0307'] := by
  by_cases hc : c = 'Σ' ∨ c = 'İ'
  · rcases hc with rfl | rfl <;> decide +kernel
  · rw [not_or] at hc
    exact Or.inl (lowercase_eq_map (List.forall_mem_singleton.mpr hc))

/-- Only vowels behind a quote and the doubled nasal are ever refused. Their keys have two
characters and one form. -/
theorem exists_pair_of_refused {rules : RuleView} {context : Context} {input : Text}
    (h : (Converter.default.index script).lookup? t = some rule)
    (hrefused : rule.perform? rules context input t = none) :
    ∃ first second, lowercase t = [first, second] ∧ (first = '\x27' ∨ first = 'n') ∧
      second.toNat < 0xC0 := by
  have hpair {first second : Char} (hfirst : first.toNat < 0xC0) (hsecond : second.toNat < 0xC0)
      (hform : lowercase t = [first, second] ∨ lowercase t = nfd [first, second]) :
      lowercase t = [first, second] := by
    rwa [nfd_eq_self (List.forall_mem_cons.mpr ⟨Or.inl hfirst,
      List.forall_mem_singleton.mpr (Or.inl hsecond)⟩), or_self] at hform
  rcases lookup?_cases h with ⟨hkana, -⟩ | ⟨hromaji, hform, -⟩
  · obtain ⟨key, output, rfl⟩ := exists_literal_of_mem_fromKana hkana
    simp [perform?_literal] at hrefused
  · cases hromaji with
    | short => simp [perform?_literal] at hrefused
    | long => simp [perform?_literal] at hrefused
    | geminate => simp [perform?_geminate] at hrefused
    | @quoted vowel hmem =>
      obtain ⟨hfold, hvowel⟩ := foldChar_latin_of_mem_vowels script vowel hmem
      have hlt := lt_of_mem_vowels _ hvowel
      rw [key_quotedVowel, hfold] at hform
      exact ⟨_, _, hpair (by decide) hlt hform, Or.inl rfl, hlt⟩
    | nasal => exact ⟨_, _, hpair (by decide) (by decide) hform, Or.inr rfl, by decide⟩
    | prolonged => simp [perform?_prolongedVowel] at hrefused

/-- The rule that is found for a single character is never refused. -/
theorem exists_perform?_of_lookup?_singleton
    (h : (Converter.default.index script).lookup? [c] = some rule) (rules : RuleView)
    (context : Context) (input : Text) :
    ∃ step, rule.perform? rules context input [c] = some step := by
  rw [← Option.ne_none_iff_exists']
  intro hrefused
  obtain ⟨first, second, hlower, -, hsecond⟩ := exists_pair_of_refused h hrefused
  rcases lowercase_singleton c with heq | heq
  · simp [heq] at hlower
  · -- no key has a dot above
    rw [heq] at hlower
    have hdot : 0xC0 ≤ '\u0307'.toNat := by decide
    rw [(List.cons.inj (List.cons.inj hlower).2).1] at hdot
    omega

/-- Where a text is found for its kana, so is its first character. -/
theorem exists_lookup?_of_kana (hkana : rule ∈ fromKana .default script)
    (hform : KanaForm script rule.key (lowercase (c :: t))) :
    ∃ found, (Converter.default.index script).lookup? [c] = some found := by
  obtain ⟨s, hs⟩ := List.head?_eq_some_iff.mp (head?_lowercase c t)
  rw [hs] at hform
  have hle := (hform.uncased (foldChar c) List.mem_cons_self).le
  have hlower : lowercase [c] = [foldChar c] := by
    refine lowercase_eq_map (List.forall_mem_singleton.mpr ⟨?_, ?_⟩)
    · rintro rfl
      exact absurd hle (by decide +kernel)
    · rintro rfl
      exact absurd hle (by decide +kernel)
  obtain ⟨other, hother, hkey⟩ :
      ∃ other ∈ fromKana .default script, other.key = [foldChar c] := by
    rcases hform.marked with ⟨hlength, heq⟩ | ⟨-, hhead⟩
    · obtain rfl : s = [] := by simpa using hlength
      exact ⟨rule, hkana, heq.symm⟩
    · exact hhead
  exact exists_lookup?_of_mem (mem_ruleSet_of_mem_fromKana hother)
    (Or.inl (hlower.trans hkey.symm))

/-- Where a text is refused, its first character is found. -/
theorem exists_lookup?_of_refused {rules : RuleView} {context : Context} {input : Text}
    (h : (Converter.default.index script).lookup? (c :: t) = some rule)
    (hrefused : rule.perform? rules context input (c :: t) = none) :
    ∃ found, (Converter.default.index script).lookup? [c] = some found := by
  obtain ⟨first, second, hlower, hfirst, -⟩ := exists_pair_of_refused h hrefused
  have hfold : foldChar c = first := by
    have hhead := head?_lowercase c t
    rw [hlower, List.head?_cons, Option.some.injEq] at hhead
    exact hhead.symm
  rcases hfirst with rfl | rfl
  · obtain rfl := eq_of_foldChar hfold (by decide)
    exact ⟨_, lookup?_quote⟩
  · refine ⟨_, lookup?_nasal ⟨lt_of_foldChar hfold (by decide) (by decide) ?_, hfold⟩⟩
    rintro rfl
    exact absurd hfold (by decide +kernel)

/-! ## Steps -/

/-- A rule takes the step on a text, or the first character passes through. -/
theorem takes_or_passes_default (script : Script) (context : Context) {input : Text}
    (hinput : input ≠ []) :
    (∃ front rule, (Converter.default.index script).Takes ⟨context, input⟩ front rule) ∨
      ∃ c, (Converter.default.index script).Passes ⟨context, input⟩ c := by
  rw [index_default]
  exact Index.takes_or_passes .unicode _ hinput

/-- Nothing is found at a character that passes through. -/
theorem lookup?_eq_none_of_passes {cursor : Cursor}
    (h : (Converter.default.index script).Passes cursor c) {front : Text} (hne : front ≠ [])
    (hfront : front <+: cursor.rest) : (Converter.default.index script).lookup? front = none := by
  obtain ⟨s, hs⟩ := List.head?_eq_some_iff.mp h.first
  -- at least the character itself is not found, since it would be accepted
  have hsingle : (Converter.default.index script).lookup? [c] = none := by
    have hrefused := h.refused [c] (by simp) (hs ▸ ⟨s, rfl⟩)
    rw [Option.eq_none_iff_forall_ne_some]
    intro rule hrule
    obtain ⟨step, hstep⟩ := exists_perform?_of_lookup?_singleton hrule
      (Converter.default.index script).view cursor.context cursor.rest
    rw [Index.attempt, hrule, Option.bind_some, hstep] at hrefused
    contradiction
  rw [hs] at hfront
  obtain ⟨front, rfl⟩ := Index.exists_cons_of_prefix hfront hne
  rw [Option.eq_none_iff_forall_ne_some]
  intro rule hrule
  have hrefused := h.refused _ hne (hs ▸ hfront)
  rw [Index.attempt, hrule, Option.bind_some] at hrefused
  obtain ⟨found, hfound⟩ := exists_lookup?_of_refused hrule hrefused
  rw [hsingle] at hfound
  contradiction

end Syllabary.Kana
