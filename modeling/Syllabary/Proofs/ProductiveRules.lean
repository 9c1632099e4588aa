import Mathlib
import Syllabary.Proofs.MappingRules
import Syllabary.Proofs.RomajiRules
import Syllabary.Proofs.Session

/-!
# Productive rules

A rule is productive if it has a key and something to write for it, and if whatever it accepts it
also takes something of. Tables and mappings are checked for empty texts when they are read. The
check covers every text that a rule is made of, marked and long forms of letters included, so that
all rules of a checked table and all custom rules are productive. Where all rules are, a scan writes
something at every step and moves on.

## Main statements

* `Rule.IsProductive`: its members are proved for each kind of rule.
* `IsValidated.isProductive`: the rules of checked tables and of documents, and of such sets laid
  over one another.
* `steps_of_isValidated`: the scans by such rules.
-/

namespace Syllabary

/-! ## Productive rules -/

/-- The rule has a key and an output, and accepts only to write something and to take something. -/
structure Rule.IsProductive (rule : Rule) : Prop where
  key_ne_nil : rule.key ≠ []
  exists_output : ∃ output, rule.output? = some output ∧ output ≠ []
  exists_accept : ∀ {rules : RuleView} {context : Context} {input trigger : Text} {step : Step},
    trigger ≠ [] → rule.perform? rules context input trigger = some step →
      ∃ output n, output ≠ [] ∧ 0 < n ∧ step = .accept input trigger output n none

variable {key output mark nasal : Text} {rule : Rule} {vowel : Char}

theorem isProductive_literal (hkey : key ≠ []) (houtput : output ≠ []) (stride? : Option Stride) :
    Rule.IsProductive ⟨key, .literal output stride?⟩ where
  key_ne_nil := hkey
  exists_output := ⟨output, rfl, houtput⟩
  exists_accept htrigger hstep := by
    refine ⟨output, _, houtput, ?_, (Option.some.inj hstep).symm⟩
    cases stride? with
    | none => exact List.length_pos_iff.mpr htrigger
    | some stride => exact stride.property

theorem isProductive_quotedVowel (houtput : output ≠ []) :
    (Rule.quotedVowel vowel output).IsProductive where
  key_ne_nil := List.cons_ne_nil _ _
  exists_output := ⟨output, rfl, houtput⟩
  exists_accept htrigger hstep := by
    rw [Kana.perform?_quotedVowel htrigger, Option.ite_none_right_eq_some] at hstep
    exact ⟨output, _, houtput, List.length_pos_iff.mpr htrigger, (Option.some.inj hstep.2).symm⟩

theorem isProductive_prolongedVowel (houtput : output ≠ []) (hmark : mark ≠ []) :
    (Rule.prolongedVowel vowel output mark).IsProductive where
  key_ne_nil := List.cons_ne_nil _ _
  exists_output := ⟨output, rfl, houtput⟩
  exists_accept _ hstep := by
    rw [Kana.perform?_prolongedVowel] at hstep
    refine ⟨_, 1, ?_, Nat.one_pos, (Option.some.inj hstep).symm⟩
    split
    · exact hmark
    · exact houtput

theorem isProductive_syllabicNasal (hkey : key ≠ []) (hnasal : nasal ≠ []) (onsets : List Text) :
    (Rule.syllabicNasal key nasal onsets).IsProductive where
  key_ne_nil := hkey
  exists_output := ⟨nasal, rfl, hnasal⟩
  exists_accept htrigger hstep := by
    rw [Kana.perform?_syllabicNasal htrigger, Option.ite_none_left_eq_some] at hstep
    exact ⟨nasal, _, hnasal, List.length_pos_iff.mpr htrigger, (Option.some.inj hstep.2).symm⟩

/-! ## Scans -/

namespace Index

variable {normalizer : Normalizer} {set : RuleSet} {context : Context} {input : Text}
  (hset : ∀ rule ∈ set, rule.IsProductive)

include hset

/-- By productive rules every step writes something, takes something and stands for itself. -/
theorem step_of_isProductive (hinput : input ≠ []) :
    ((ofRules normalizer set).step context input).output ≠ [] ∧
      0 < ((ofRules normalizer set).step context input).consumed ∧
      ((ofRules normalizer set).step context input).replacesPrevious = false := by
  suffices hstep : ((ofRules normalizer set).step context input).output ≠ [] ∧
      ((ofRules normalizer set).step context input).taken ≠ [] by
    refine ⟨hstep.1, List.length_pos_iff.mpr hstep.2, ?_⟩
    rw [(fits_step _ context hinput).replaces_iff, List.isEmpty_eq_false_iff]
    exact hstep.2
  obtain ⟨c, t, rfl⟩ := List.exists_cons_of_ne_nil hinput
  rcases exists_decides_or_passThrough normalizer set context c t with
    ⟨front, hdecides⟩ | ⟨-, hpass⟩
  · obtain ⟨rule, hlooked, hperform⟩ := Option.bind_eq_some_iff.mp hdecides.accepted
    obtain ⟨output, n, houtput, hn, hstep⟩ :=
      (hset rule (mem_of_lookup? hlooked).1).exists_accept hdecides.ne_nil hperform
    rw [hstep]
    refine ⟨houtput, ?_⟩
    simp [Step.accept, Nat.ne_of_gt hn]
  · rw [hpass]
    exact ⟨List.cons_ne_nil c [], List.cons_ne_nil c []⟩

theorem steps_of_isProductive :
    ∀ step ∈ (ofRules normalizer set).steps context input,
      step.output ≠ [] ∧ 0 < step.consumed ∧ step.replacesPrevious = false :=
  forall_mem_steps fun _ _ hinput => step_of_isProductive hset hinput

/-- A scan by productive rules has no more steps than its text has characters. -/
theorem length_steps_le_of_isProductive :
    ((ofRules normalizer set).steps context input).length ≤ input.length := by
  have hmoves := countP_not_replacesPrevious_steps_le (ofRules normalizer set) context input
  rwa [List.countP_eq_length.mpr] at hmoves
  intro step hstep
  rw [(steps_of_isProductive hset step hstep).2.2]
  rfl

/-- By productive rules only nothing is converted to nothing. -/
theorem convert_eq_nil_iff_of_isProductive :
    (ofRules normalizer set).convert input = [] ↔ input = [] := by
  have htaken (context : Context) (input : Text) (hinput : input ≠ []) :
      ((ofRules normalizer set).step context input).taken ≠ [] :=
    List.length_pos_iff.mp (step_of_isProductive hset hinput).2.1
  rw [convert_eq_outputs htaken]
  constructor
  · intro hnil
    by_contra hinput
    rw [outputs_of_ne_nil hinput, List.append_eq_nil_iff] at hnil
    exact (step_of_isProductive hset hinput).1 hnil.1
  · rintro rfl
    exact outputs_nil

end Index

/-! ## Mappings -/

/-- A document gives productive rules or none. -/
theorem isProductive_of_ofToml {t : Text} {custom : RuleSet} (h : RuleSet.ofToml t = .ok custom) :
    ∀ rule ∈ custom, rule.IsProductive := by
  unfold RuleSet.ofToml at h
  split at h
  · cases h
  · next mappings _ =>
    obtain ⟨-, hfit, rfl⟩ := Mappings.rules_eq_ok_iff.mp h
    intro rule hrule
    obtain ⟨entry, hentry, rfl⟩ := List.mem_map.mp hrule
    obtain ⟨hkey, houtput, -⟩ := hfit entry hentry
    exact isProductive_literal hkey houtput _

/-! ## Tables -/

namespace Kana

variable {table : Table} {script : Script}

/-- The texts of a checked table are fit for a rule. -/
theorem isProductive_of_mem_texts (hcheck : table.check = .ok ()) {s : Section}
    (hkey : key ∈ table.texts s) (houtput : output ∈ table.texts s) :
    (Rule.literal key output).IsProductive :=
  isProductive_literal (table.check_eq_ok_iff.mp hcheck s key hkey)
    (table.check_eq_ok_iff.mp hcheck s output houtput) none

/-- A letter with a mark is still a text. -/
theorem isProductive_of_mem_halfwidthRules (hcheck : table.check = .ok ()) {row : HalfwidthRow}
    (hrow : row ∈ table.halfwidth) (hrule : rule ∈ row.rules) : rule.IsProductive := by
  have hmem : ∀ t ∈ row.texts, t ∈ table.texts .halfwidth := fun t ht =>
    List.mem_flatMap.mpr ⟨row, hrow, ht⟩
  have htexts : ∀ t ∈ row.texts, t ≠ [] := fun t ht =>
    table.check_eq_ok_iff.mp hcheck .halfwidth t (hmem t ht)
  obtain ⟨hhiragana, hkatakana⟩ : row.hiragana ≠ [] ∧ row.katakana ≠ [] := by
    simpa [HalfwidthRow.texts] using htexts
  obtain ⟨mark?, -, s, hs, rfl⟩ := HalfwidthRow.mem_rules_iff.mp hrule
  obtain ⟨tail, -, rfl⟩ := HalfwidthRow.mem_spellings_iff.mp hs
  refine isProductive_literal (List.append_ne_nil_of_left_ne_nil hkatakana tail) ?_ none
  cases mark? with
  | none => exact hhiragana
  | some mark =>
    cases mark <;>
      exact mt Unicode.nfc_eq_nil_iff.mp (List.append_ne_nil_of_left_ne_nil hhiragana _)

/-- The texts that the rules for romaji are given besides the table are not empty. -/
theorem RomajiRule.isProductive (hcheck : table.check = .ok ())
    (h : RomajiRule table script rule) : rule.IsProductive := by
  have hkana : ∀ vowel ∈ script.vowels, vowel.kana ≠ [] := by cases script <;> decide
  cases h with
  | @short key output hentry =>
    obtain ⟨s, hkey, houtput⟩ := exists_section_of_mem_romajiEntries hentry
    exact isProductive_of_mem_texts hcheck hkey houtput
  | long => exact isProductive_literal (by simp) (by simp [prolongedSoundMark]) none
  | geminate =>
    exact isProductive_literal (List.cons_ne_nil _ _) (by cases script <;> decide) (some _)
  | quoted hvowel => exact isProductive_quotedVowel (hkana _ hvowel)
  | nasal => exact isProductive_syllabicNasal (by decide) (by cases script <;> decide) _
  | prolonged _ hvowel => exact isProductive_prolongedVowel (hkana _ hvowel) (by decide)

/-- All rules of a checked table are productive. -/
theorem isProductive_of_check (hcheck : table.check = .ok ()) (script : Script) :
    ∀ rule ∈ table.rules script, rule.IsProductive := by
  have hset : table.rules script = Converter.ruleSet table [] script := by
    simp [Converter.ruleSet, RuleSet.concat]
  intro rule hrule
  rw [hset, ruleSet_eq, List.mem_append, mem_romajiToKana_append_vowelRuns_iff] at hrule
  rcases hrule with hkana | hromaji
  · rcases mem_fromKana_cases hkana with ⟨s, key, hkey, output, houtput, rfl⟩ | ⟨row, hrow, hrule⟩
    · exact isProductive_of_mem_texts hcheck hkey houtput
    · exact isProductive_of_mem_halfwidthRules hcheck hrow hrule
  · exact hromaji.isProductive hcheck

end Kana

/-! ## Validated rule sets -/

/-- The rules of checked tables, those of documents, and such sets laid over one another. -/
inductive IsValidated : RuleSet → Prop
  | table {table : Kana.Table} (hcheck : table.check = .ok ()) (script : Kana.Script) :
      IsValidated (table.rules script)
  | document {t : Text} {custom : RuleSet} (h : RuleSet.ofToml t = .ok custom) :
      IsValidated custom
  | overlay {sets : List RuleSet} (h : ∀ set ∈ sets, IsValidated set) : IsValidated (.concat sets)

theorem IsValidated.isProductive {set : RuleSet} (h : IsValidated set) :
    ∀ rule ∈ set, rule.IsProductive := by
  induction h with
  | table hcheck script => exact Kana.isProductive_of_check hcheck script
  | document h => exact isProductive_of_ofToml h
  | overlay _ ih =>
    intro rule hrule
    obtain ⟨set, hset, hrule⟩ := List.mem_flatten.mp hrule
    exact ih set hset rule hrule

/-- Every rule of a validated set has a key and an output. In a scan by such rules every step writes
something, takes something and is no rewrite. So there are no more steps than characters, and only
nothing is converted to nothing. -/
theorem steps_of_isValidated {set : RuleSet} (h : IsValidated set) :
    (∀ rule ∈ set, rule.key ≠ [] ∧ ∃ output, rule.output? = some output ∧ output ≠ []) ∧
    ∀ (normalizer : Normalizer) (input : Text),
      (∀ context, ∀ step ∈ (Index.ofRules normalizer set).steps context input,
        step.output ≠ [] ∧ 0 < step.consumed ∧ step.replacesPrevious = false) ∧
      (∀ context, ((Index.ofRules normalizer set).steps context input).length ≤ input.length) ∧
      ((Index.ofRules normalizer set).convert input = [] ↔ input = []) := by
  have hset := h.isProductive
  refine ⟨fun rule hrule => ⟨(hset rule hrule).key_ne_nil, (hset rule hrule).exists_output⟩, ?_⟩
  intro normalizer input
  exact ⟨fun _ => Index.steps_of_isProductive hset, fun _ =>
    Index.length_steps_le_of_isProductive hset, Index.convert_eq_nil_iff_of_isProductive hset⟩

/-- A doubled consonant from a document, laid over the rules of the default table. -/
theorem steps_of_isValidated_kka :
    ∃ custom,
      RuleSet.ofToml ['[', 'm', 'a', 'p', 'p', 'i', 'n', 'g', 's', ']', '\n', 'k', 'k', '=',
        '\x7b', 'o', 'u', 't', 'p', 'u', 't', '=', '"', 'ッ', '"', ',', 'l', 'e', 'n', 'g', 't', 'h',
        '=', '1', '\x7d', '\n'] = .ok custom ∧
      Kana.Table.default.check = .ok () ∧
      IsValidated (.concat [Kana.Table.default.rules .katakana, custom]) ∧
      (∃ rule ∈ custom, rule.key = ['k', 'k'] ∧ rule.output? = some ['ッ']) ∧
      ((Index.ofRules .unicode (.concat [Kana.Table.default.rules .katakana, custom])).steps .fresh
        ['k', 'k', 'a']).length ≤ 3 ∧
      (Index.ofRules .unicode (.concat [Kana.Table.default.rules .katakana, custom])).convert
        ['k', 'k', 'a'] ≠ [] := by
  have hread : RuleSet.ofToml ['[', 'm', 'a', 'p', 'p', 'i', 'n', 'g', 's', ']', '\n', 'k', 'k',
      '=', '\x7b', 'o', 'u', 't', 'p', 'u', 't', '=', '"', 'ッ', '"', ',', 'l', 'e', 'n', 'g', 't',
      'h', '=', '1', '\x7d', '\n'] = .ok [.literalWithLength ['k', 'k'] ['ッ'] 1] := by cbv
  have hcheck : Kana.Table.default.check = .ok () := by decide +kernel
  have hvalidated : IsValidated (.concat [Kana.Table.default.rules .katakana,
      [.literalWithLength ['k', 'k'] ['ッ'] 1]]) := by
    refine .overlay fun set hset => ?_
    rcases List.mem_pair.mp hset with rfl | rfl
    · exact .table hcheck .katakana
    · exact .document hread
  obtain ⟨-, hscan⟩ := steps_of_isValidated hvalidated
  obtain ⟨-, hlength, hconvert⟩ := hscan .unicode ['k', 'k', 'a']
  exact ⟨_, hread, hcheck, hvalidated, ⟨_, List.mem_singleton_self _, rfl, rfl⟩, hlength .fresh,
    mt hconvert.mp (List.cons_ne_nil _ _)⟩

end Syllabary
