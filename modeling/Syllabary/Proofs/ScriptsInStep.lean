import Syllabary.Proofs.Idempotence
import Syllabary.Proofs.KanaLetters

/-!
# Both scripts in step

The rules for romaji of the two scripts stand in the same order, have the same keys and look at the
same neighbours. Only in katakana, rules for runs of vowels stand behind them, which take what the
rules of the vowels would take. So two scans of one text without kana are always at the same place,
and what they write is the same text in two scripts, but for the marks of the runs.

## Main statements

* `forall₂_romajiToKana`: the rules for romaji of the two scripts correspond one by one.
* `rel_lookup?`: at every place the two scans find corresponding rules.
* `scripts_scan_in_step`: the two scans of a text without kana.
-/

namespace Syllabary.Kana

open Unicode
open scoped Text

variable {rule other : Rule} {context context' : Context} {c : Char} {t input trigger : Text}

/-! ## Outputs in both scripts -/

/-- A text in hiragana is the transcript of a text in katakana if the letters of the one are written
for the letters of the other. -/
def IsTranscript (hiragana katakana : Text) : Prop :=
  (∀ c ∈ katakana, IsLetter c) ∧ katakana.flatMap (letterIn .hiragana) = hiragana

instance (hiragana katakana : Text) : Decidable (IsTranscript hiragana katakana) :=
  inferInstanceAs (Decidable (_ ∧ _))

theorem IsTranscript.toHiragana_eq {hiragana katakana : Text} (h : IsTranscript hiragana katakana) :
    Converter.default.toHiragana katakana = hiragana :=
  (convert_of_letters h.1 .hiragana).trans h.2

theorem IsTranscript.append {hiragana hiragana' katakana katakana' : Text}
    (h : IsTranscript hiragana katakana) (h' : IsTranscript hiragana' katakana') :
    IsTranscript (hiragana ++ hiragana') (katakana ++ katakana') :=
  ⟨List.forall_mem_append.mpr ⟨h.1, h'.1⟩, by rw [List.flatMap_append, h.2, h'.2]⟩

/-- All that the rules for romaji write. -/
theorem isTranscript_outputs :
    (∀ row ∈ Table.default.kana ++ Table.default.digraphs ++ Table.default.ime,
      IsTranscript row.hiragana row.katakana) ∧
    (∀ row ∈ Table.default.punctuation, IsTranscript row.kana row.kana) ∧
    IsTranscript Script.hiragana.nasal Script.katakana.nasal ∧
    IsTranscript Script.hiragana.geminateMarker Script.katakana.geminateMarker ∧
    IsTranscript prolongedSoundMark prolongedSoundMark := by
  decide +kernel

/-- The vowels of the two scripts, one by one. -/
theorem forall₂_vowels :
    List.Forall₂ (fun vowel other => vowel.latin = other.latin ∧ IsTranscript vowel.kana other.kana)
      Script.hiragana.vowels Script.katakana.vowels := by
  rw [List.forall₂_iff_zip]
  have hvowels : ∀ pair ∈ List.zip Script.hiragana.vowels Script.katakana.vowels,
      pair.1.latin = pair.2.latin ∧ IsTranscript pair.1.kana pair.2.kana := by decide +kernel
  exact ⟨rfl, fun hpair => hvowels _ hpair⟩

/-! ## Rules in both scripts -/

/-- A rule of the hiragana set and the rule of the katakana set that does the same. -/
inductive Counterpart : Rule → Rule → Prop
  | literal {key output output' : Text} {stride? : Option Stride}
      (houtput : IsTranscript output output') :
      Counterpart ⟨key, .literal output stride?⟩ ⟨key, .literal output' stride?⟩
  | quoted {vowel : Char} {output output' : Text} (houtput : IsTranscript output output') :
      Counterpart (.quotedVowel vowel output) (.quotedVowel vowel output')
  | nasal : Counterpart (doubledNasal .hiragana) (doubledNasal .katakana)

theorem Counterpart.key_eq (h : Counterpart rule other) : rule.key = other.key := by
  cases h <;> rfl

/-- One family of rules in both scripts. -/
theorem forall₂_map_of_mem {α : Type} {f g : α → Rule} {members : List α}
    (h : ∀ x ∈ members, Counterpart (f x) (g x)) :
    List.Forall₂ Counterpart (members.map f) (members.map g) := by
  rw [List.forall₂_map_left_iff, List.forall₂_map_right_iff, List.forall₂_same]
  exact h

theorem forall₂_romajiRows {rows : List Row}
    (h : ∀ row ∈ rows, IsTranscript row.hiragana row.katakana) :
    List.Forall₂ Counterpart (romajiRows rows .hiragana) (romajiRows rows .katakana) :=
  forall₂_map_of_mem fun row hrow => .literal (h row hrow)

theorem forall₂_quotedVowels :
    List.Forall₂ Counterpart (quotedVowels .hiragana) (quotedVowels .katakana) := by
  rw [quotedVowels, quotedVowels, List.forall₂_map_left_iff, List.forall₂_map_right_iff]
  refine forall₂_vowels.imp fun vowel other h => ?_
  rw [h.1]
  exact .quoted h.2

/-- The rules for short vowels, part by part in their order. -/
theorem forall₂_shortRomaji :
    List.Forall₂ Counterpart (shortRomaji .default .hiragana) (shortRomaji .default .katakana) := by
  obtain ⟨hrows, hmarks, -, hmarker, -⟩ := isTranscript_outputs
  obtain ⟨hrows, hime⟩ := List.forall_mem_append.mp hrows
  obtain ⟨hkana, hdigraphs⟩ := List.forall_mem_append.mp hrows
  have hpunctuation : List.Forall₂ Counterpart (punctuationRules Table.default.punctuation)
      (punctuationRules Table.default.punctuation) :=
    forall₂_map_of_mem fun row hrow => .literal (hmarks row hrow)
  have hgeminates : List.Forall₂ Counterpart
      (RuleSet.geminates geminateConsonants Script.hiragana.geminateMarker)
      (RuleSet.geminates geminateConsonants Script.katakana.geminateMarker) :=
    forall₂_map_of_mem fun _ _ => .literal hmarker
  refine List.rel_flatten (.cons (forall₂_romajiRows hkana) ?_)
  refine .cons (forall₂_romajiRows hdigraphs) (.cons hpunctuation (.cons hgeminates ?_))
  refine .cons forall₂_quotedVowels (.cons (forall₂_romajiRows hime) ?_)
  exact .cons (.cons .nasal .nil) .nil

/-- Counterparts have counterparts for long vowels. -/
theorem Counterpart.forall₂_longVowelVariants (h : Counterpart rule other) :
    List.Forall₂ Counterpart (rule.longVowelVariants prolongedSoundMark)
      (other.longVowelVariants prolongedSoundMark) := by
  obtain ⟨-, -, -, -, hmark⟩ := isTranscript_outputs
  cases h with
  | @literal key output output' stride? houtput =>
    unfold Rule.longVowelVariants
    dsimp only
    cases key.getLast?.bind longVowels? with
    | none => exact .nil
    | some letters =>
      exact .cons (.literal (houtput.append hmark)) (.cons (.literal (houtput.append hmark)) .nil)
  | quoted => exact .nil
  | nasal => exact .nil

/-- The rules for romaji of the two scripts correspond one by one. -/
theorem forall₂_romajiToKana :
    List.Forall₂ Counterpart (romajiToKana .default .hiragana) (romajiToKana .default .katakana) :=
  List.rel_flatMap forall₂_shortRomaji fun _ _ h => .cons h h.forall₂_longVowelVariants

/-- Counterparts are refused together, or take the same and write it in their scripts. -/
theorem Counterpart.perform?_cases (h : Counterpart rule other) (htrigger : trigger ≠ [])
    (hlast : context.lastInput = context'.lastInput) (rules rules' : RuleView) (input : Text) :
    (rule.perform? rules context input trigger = none ∧
        other.perform? rules' context' input trigger = none) ∨
      ∃ output output' n, IsTranscript output output' ∧
        rule.perform? rules context input trigger =
          some (.accept input trigger output n none) ∧
        other.perform? rules' context' input trigger =
          some (.accept input trigger output' n none) := by
  cases h with
  | literal houtput => exact Or.inr ⟨_, _, _, houtput, rfl, rfl⟩
  | @quoted vowel output output' houtput =>
    rw [perform?_quotedVowel htrigger, perform?_quotedVowel htrigger, hlast]
    split
    · exact Or.inr ⟨_, _, _, houtput, rfl, rfl⟩
    · exact Or.inl ⟨rfl, rfl⟩
  | nasal =>
    rw [perform?_doubledNasal htrigger, perform?_doubledNasal htrigger]
    split
    · exact Or.inl ⟨rfl, rfl⟩
    · obtain ⟨-, -, hnasal, -, -⟩ := isTranscript_outputs
      exact Or.inr ⟨_, _, _, hnasal, rfl, rfl⟩

/-! ## Lookups in both scripts -/

/-- Rules that two scans find at the same place. -/
inductive Paired : Rule → Rule → Prop
  | counterpart {rule other : Rule} (h : Counterpart rule other) : Paired rule other
  | repeated {vowel vowel' : Vowel} (hmem : vowel ∈ Script.hiragana.vowels)
      (hlatin : vowel.latin = vowel'.latin) (hkana : IsTranscript vowel.kana vowel'.kana) :
      Paired (.literal [vowel.latin] vowel.kana)
        (.prolongedVowel vowel'.latin vowel'.kana prolongedSoundMark)

theorem Paired.key_eq (h : Paired rule other) : rule.key = other.key := by
  cases h with
  | counterpart h => exact h.key_eq
  | @repeated vowel vowel' hmem hlatin =>
    rw [key_literal, key_prolongedVowel, ← hlatin,
      (foldChar_latin_of_mem_vowels .hiragana vowel hmem).1]

/-- The characters that romaji is spelled with: the Latin ones, and the marks of long vowels. -/
def IsRomajiChar (c : Char) : Prop := IsLatin c ∨ ∃ long ∈ longVowels, c = long.mark

instance (c : Char) : Decidable (IsRomajiChar c) := inferInstanceAs (Decidable (_ ∨ _))

theorem IsRomajiChar.foldChar_lt (h : IsRomajiChar c) : (foldChar c).toNat < 0x3000 := by
  rcases h with hlatin | ⟨long, hlong, rfl⟩
  · rcases isLatin_foldChar hlatin with hlt | ⟨long, hlong, hletter⟩
    · omega
    · rw [← hletter]
      exact (lt_of_mem_marks long hlong).1
  · rw [(LongVowel.inData long hlong).foldMark]
    exact (lt_of_mem_marks long hlong).2

/-- At a character of romaji only rules for romaji are found. -/
theorem lookup?_eq_owner?_romaji (hc : IsRomajiChar c) (script : Script) (t : Text) :
    (Converter.default.index script).lookup? (c :: t) =
      RuleSet.owner? .unicode (romajiToKana .default script ++ vowelRuns script)
        (lowercase (c :: t)) := by
  have hnone : RuleSet.owner? .unicode (fromKana .default script) (lowercase (c :: t)) = none := by
    rw [RuleSet.owner?_eq_none_iff]
    intro rule hrule hclaims
    have hle := ((kanaForm_of_claims hrule hclaims).uncased (foldChar c)
      (List.mem_of_head? (head?_lowercase c t))).le
    have hlt := hc.foldChar_lt
    omega
  rw [lookup?_eq_owner?, ruleSet_eq, RuleSet.owner?_append, hnone, Option.or_none]

/-- In hiragana the only rule for a vowel is its entry. -/
theorem RomajiRule.eq_literal_of_vowel {vowel : Vowel} (h : RomajiRule .default .hiragana rule)
    (hmem : vowel ∈ Script.hiragana.vowels) (hkey : rule.key = [vowel.latin]) :
    rule = .literal [vowel.latin] vowel.kana := by
  have hentries : ∀ entry ∈ Table.default.romajiEntries .hiragana,
      ∀ vowel ∈ Script.hiragana.vowels, entry.1 = [vowel.latin] → entry.2 = vowel.kana := by
    decide +kernel
  cases h with
  | @short key output hentry =>
    have houtput : output = vowel.kana := hentries _ hentry vowel hmem hkey
    rw [houtput, ← hkey, key_literal]
  | @long stem output long hlong hentry =>
    have hlast := congrArg List.getLast? hkey
    rw [key_literal, List.getLast?_concat, List.getLast?_singleton, Option.some.injEq] at hlast
    obtain ⟨hletter, -⟩ := LongVowel.bounds long hlong
    have hlt := lt_of_mem_vowels _ (latin_of_mem_vowels .hiragana vowel hmem)
    rw [hlast] at hletter
    omega
  | geminate => simp at hkey
  | quoted => simp at hkey
  | nasal => simp at hkey
  | prolonged hscript => cases hscript

/-- In hiragana the entry of a vowel owns it. -/
theorem owner?_vowel_hiragana {vowel : Vowel} (hmem : vowel ∈ Script.hiragana.vowels) :
    RuleSet.owner? .unicode (romajiToKana .default .hiragana) [vowel.latin] =
      some (.literal [vowel.latin] vowel.kana) := by
  have hmem_iff (rule : Rule) :
      rule ∈ romajiToKana .default .hiragana ↔ RomajiRule .default .hiragana rule := by
    rw [← mem_romajiToKana_append_vowelRuns_iff, vowelRuns, Script.pick, List.append_nil]
  cases howner : RuleSet.owner? .unicode (romajiToKana .default .hiragana) [vowel.latin] with
  | none =>
    obtain ⟨⟨_, output⟩, hentry, rfl⟩ := exists_mem_romajiEntries .hiragana [vowel.latin]
      (List.mem_append_left _ (List.mem_append_right _ (List.mem_map_of_mem hmem)))
    exact absurd (Or.inl rfl)
      (RuleSet.owner?_eq_none_iff.mp howner _ ((hmem_iff _).mpr (.short hentry)))
  | some rule =>
    obtain ⟨before, after, hset, hclaims, -⟩ := RuleSet.owner?_eq_some_iff.mp howner
    have hrule : RomajiRule .default .hiragana rule :=
      (hmem_iff rule).mp (hset ▸ List.mem_append_right before List.mem_cons_self)
    have hkey : rule.key = [vowel.latin] := by
      have hlt := lt_of_mem_vowels _ (latin_of_mem_vowels .hiragana vowel hmem)
      rcases hrule.eq_of_claims hclaims with heq | heq
      · exact heq.symm
      · rw [← hrule.nfc_key, ← nfc_nfd, ← heq]
        exact nfc_of_latin (List.forall_mem_singleton.mpr (Or.inl hlt))
    rw [hrule.eq_literal_of_vowel hmem hkey]

/-- Where a rule for runs of vowels is found, the text is the vowel. -/
theorem lowercase_eq_of_mem_vowelRuns (hmem : rule ∈ vowelRuns .katakana)
    (hclaims : rule.Claims .unicode t) :
    ∃ vowel ∈ Script.katakana.vowels, t = [vowel.latin] ∧
      rule = .prolongedVowel vowel.latin vowel.kana prolongedSoundMark := by
  obtain ⟨vowel, hvowel, rfl⟩ := List.mem_map.mp hmem
  obtain ⟨hfold, hlatin⟩ := foldChar_latin_of_mem_vowels .katakana vowel hvowel
  have hrule : RomajiRule .default .katakana
      (.prolongedVowel vowel.latin vowel.kana prolongedSoundMark) := .prolonged rfl hvowel
  have hform := hrule.eq_of_claims hclaims
  rw [key_prolongedVowel, hfold, nfd_eq_self (List.forall_mem_singleton.mpr
    (Or.inl (lt_of_mem_vowels _ hlatin))), or_self] at hform
  exact ⟨vowel, hvowel, hform, rfl⟩

/-- Every vowel of katakana has its vowel of hiragana. -/
theorem exists_vowel_hiragana : ∀ vowel' ∈ Script.katakana.vowels,
    ∃ vowel ∈ Script.hiragana.vowels, vowel.latin = vowel'.latin ∧
      IsTranscript vowel.kana vowel'.kana := by
  decide +kernel

/-- At a character of romaji the two scripts find corresponding rules. -/
theorem rel_lookup? (hc : IsRomajiChar c) (t : Text) :
    Option.Rel Paired ((Converter.default.index .hiragana).lookup? (c :: t))
      ((Converter.default.index .katakana).lookup? (c :: t)) := by
  have hhiragana : romajiToKana .default .hiragana ++ vowelRuns .hiragana =
      romajiToKana .default .hiragana := List.append_nil _
  rw [lookup?_eq_owner?_romaji hc, lookup?_eq_owner?_romaji hc, hhiragana, RuleSet.owner?_append]
  cases howner : RuleSet.owner? .unicode (vowelRuns .katakana) (lowercase (c :: t)) with
  | none =>
    rw [Option.none_or]
    exact RuleSet.rel_owner? (fun _ _ h => h.key_eq)
      (forall₂_romajiToKana.imp fun _ _ h => Paired.counterpart h) _ _
  | some rule =>
    obtain ⟨before, after, hset, hclaims, -⟩ := RuleSet.owner?_eq_some_iff.mp howner
    obtain ⟨vowel', hvowel', hlower, rfl⟩ := lowercase_eq_of_mem_vowelRuns
      (hset ▸ List.mem_append_right before List.mem_cons_self) hclaims
    obtain ⟨vowel, hvowel, hlatin, hkana⟩ := exists_vowel_hiragana vowel' hvowel'
    have hentry : RuleSet.owner? .unicode (romajiToKana .default .hiragana) [vowel'.latin] =
        some (.literal [vowel.latin] vowel.kana) := by
      rw [← hlatin, owner?_vowel_hiragana hvowel]
    rw [Option.some_or, hlower, hentry]
    exact .some (.repeated hvowel hlatin hkana)

/-- A rule for runs of vowels is found for one vowel only. -/
theorem eq_nil_of_lookup?_repeated {vowel vowel' : Vowel} (hmem : vowel ∈ Script.hiragana.vowels)
    (hlatin : vowel.latin = vowel'.latin)
    (h : (Converter.default.index .katakana).lookup? (c :: t) =
      some (.prolongedVowel vowel'.latin vowel'.kana prolongedSoundMark)) : t = [] := by
  obtain ⟨hfold, hvowel⟩ := foldChar_latin_of_mem_vowels .hiragana vowel hmem
  rcases lookup?_cases h with ⟨hkana, -⟩ | ⟨-, hform, -⟩
  · obtain ⟨key, output, heq⟩ := exists_literal_of_mem_fromKana hkana
    simp [Rule.literal, Rule.prolongedVowel, Rule.computedWithOutput] at heq
  · rw [key_prolongedVowel, ← hlatin, hfold, nfd_eq_self (List.forall_mem_singleton.mpr
      (Or.inl (lt_of_mem_vowels _ hvowel))), or_self] at hform
    have hlength := length_le_length_lowercase (c :: t)
    rw [hform, List.length_cons, List.length_singleton] at hlength
    exact List.length_eq_zero_iff.mp (by omega)

/-! ## Scans in both scripts -/

/-- Steps that take the same and show it to the next step. -/
structure Abreast (step other : Step) : Prop where
  taken : step.taken = other.taken
  lastInput : step.context.lastInput = other.context.lastInput
  mustAdvance : step.context.mustAdvance = other.context.mustAdvance

theorem abreast_accept (input trigger output output' : Text) (n : Nat) :
    Abreast (.accept input trigger output n none) (.accept input trigger output' n none) :=
  ⟨rfl, rfl, rfl⟩

/-- Cursors at the same place of two scans of romaji. -/
structure SamePlace (a b : Cursor) : Prop where
  rest : a.rest = b.rest
  romaji : ∀ c ∈ a.rest, IsRomajiChar c
  lastInput : a.context.lastInput = b.context.lastInput
  mustAdvance : a.context.mustAdvance = b.context.mustAdvance

/-- The hiragana is the conversion of the katakana, unless a vowel that repeats another one is a
letter in hiragana and the mark of a long vowel in katakana. -/
def SameInScripts (a b : Cursor) : Prop :=
  (a.next Converter.default.hiragana).output =
      Converter.default.toHiragana (b.next Converter.default.katakana).output ∨
    (b.next Converter.default.katakana).output = prolongedSoundMark ∧
      ∃ vowel ∈ Script.hiragana.vowels, (a.next Converter.default.hiragana).output = vowel.kana ∧
        ∃ front kana, Converter.default.katakana.Takes b front
          (.prolongedVowel vowel.latin kana prolongedSoundMark)

/-- The steps of the two scans take as many characters, show the same trigger to the next step, and
write the same in their scripts. -/
structure InStep (a b : Cursor) : Prop where
  consumed : (a.next Converter.default.hiragana).consumed =
    (b.next Converter.default.katakana).consumed
  lastInput : (a.next Converter.default.hiragana).context.lastInput =
    (b.next Converter.default.katakana).context.lastInput
  output : SameInScripts a b

variable {a b : Cursor}

/-- At the same place all front parts have counterparts. -/
theorem SamePlace.counterparts (h : SamePlace a b) {k : Nat} (hpos : 0 < k)
    (hk : k ≤ a.rest.length) :
    Index.Counterparts Converter.default.hiragana Converter.default.katakana Paired Abreast a b
      (a.rest.take k) (b.rest.take k) := by
  obtain ⟨c, s, hfront⟩ := List.exists_cons_of_ne_nil
    (List.ne_nil_of_length_pos ((List.length_take_of_le hk).symm ▸ hpos))
  have hc : IsRomajiChar c :=
    h.romaji c (List.mem_of_mem_take (hfront.symm ▸ List.mem_cons_self))
  have hrel : Option.Rel Paired (Converter.default.hiragana.lookup? (c :: s))
      (Converter.default.katakana.lookup? (c :: s)) := rel_lookup? hc s
  unfold Index.Counterparts
  rw [← h.rest, hfront]
  cases hrule : Converter.default.hiragana.lookup? (c :: s) <;>
    cases hother : Converter.default.katakana.lookup? (c :: s)
  · exact .none
  · simp [hrule, hother] at hrel
  · simp [hrule, hother] at hrel
  · rw [hrule, hother, Option.rel_some_some] at hrel
    refine .some ⟨hrel, ?_⟩
    cases hrel with
    | counterpart hrel =>
      rcases hrel.perform?_cases (List.cons_ne_nil c s) h.lastInput
        Converter.default.hiragana.view Converter.default.katakana.view a.rest with
        ⟨hnone, hnone'⟩ | ⟨output, output', n, -, hstep, hstep'⟩
      · rw [hnone, hnone']
        exact .none
      · rw [hstep, hstep']
        exact .some (abreast_accept _ _ _ _ _)
    | repeated hmem hlatin =>
      obtain rfl := eq_nil_of_lookup?_repeated hmem hlatin hother
      rw [perform?_literal, perform?_prolongedVowel]
      exact .some (abreast_accept _ _ _ _ _)

/-- What the two scans write by rules that they find at the same place. -/
theorem SamePlace.sameInScripts_of_takes (h : SamePlace a b) {front : Text}
    (hpaired : Paired rule other) (htakes : Converter.default.hiragana.Takes a front rule)
    (htakes' : Converter.default.katakana.Takes b front other) : SameInScripts a b := by
  unfold SameInScripts
  have hperformed := htakes.performed
  have hperformed' := htakes'.performed
  rw [← h.rest] at hperformed'
  cases hpaired with
  | counterpart hcounterpart =>
    rcases hcounterpart.perform?_cases htakes.decides.ne_nil h.lastInput
      Converter.default.hiragana.view Converter.default.katakana.view a.rest with
      ⟨hnone, -⟩ | ⟨output, output', n, htranscript, hstep, hstep'⟩
    · rw [hnone] at hperformed
      contradiction
    · rw [hstep, Option.some.injEq] at hperformed
      rw [hstep', Option.some.injEq] at hperformed'
      rw [← hperformed, ← hperformed']
      exact Or.inl htranscript.toHiragana_eq.symm
  | @repeated vowel vowel' hmem hlatin hkana =>
    rw [perform?_literal, Option.some.injEq] at hperformed
    rw [perform?_prolongedVowel, Option.some.injEq] at hperformed'
    rw [← hperformed, ← hperformed', Step.accept, Step.accept]
    dsimp only
    split
    · exact Or.inr ⟨rfl, vowel, hmem, rfl, front, vowel'.kana, hlatin ▸ htakes'⟩
    · exact Or.inl hkana.toHiragana_eq.symm

/-- A character that passes through in hiragana is converted to itself. -/
theorem toHiragana_of_passes (h : (Converter.default.index .hiragana).Passes a c) :
    Converter.default.toHiragana [c] = [c] := by
  obtain ⟨t, ht⟩ := List.head?_eq_some_iff.mp h.first
  have hnone : (Converter.default.index .hiragana).lookup? [c] = none :=
    lookup?_eq_none_of_passes h (List.cons_ne_nil c []) (ht ▸ ⟨t, rfl⟩)
  have hsettled : Settled .hiragana [c] := .cons (fun s hs => by
    rw [List.prefix_nil.mp hs]
    exact hnone) .nil
  exact hsettled.convert_eq

/-- At the same place the two scans are in step, and the next place is the same. -/
theorem SamePlace.inStep (h : SamePlace a b) (hrest : a.rest ≠ []) :
    InStep a b ∧
      Abreast (a.next Converter.default.hiragana) (b.next Converter.default.katakana) := by
  have hcases : (∃ k rule other, Paired rule other ∧
        Converter.default.hiragana.Takes a (a.rest.take k) rule ∧
        Converter.default.katakana.Takes b (b.rest.take k) other ∧
        Abreast (a.next Converter.default.hiragana) (b.next Converter.default.katakana)) ∨
      ∃ c d, Converter.default.hiragana.Passes a c ∧ Converter.default.katakana.Passes b d :=
    Index.takes_or_passes_of_counterparts hrest (congrArg List.length h.rest)
      fun _ hpos hk => h.counterparts hpos hk
  rcases hcases with
    ⟨k, rule, other, hpaired, htakes, htakes', habreast⟩ | ⟨c, d, hpasses, hpasses'⟩
  · rw [← h.rest] at htakes'
    exact ⟨⟨congrArg List.length habreast.taken, habreast.lastInput,
      h.sameInScripts_of_takes hpaired htakes htakes'⟩, habreast⟩
  · obtain rfl : c = d := by
      have hfirst := hpasses.first
      rw [h.rest, hpasses'.first, Option.some.injEq] at hfirst
      exact hfirst.symm
    have habreast : Abreast (a.next Converter.default.hiragana)
        (b.next Converter.default.katakana) := by
      rw [hpasses.next_eq, hpasses'.next_eq]
      exact ⟨rfl, rfl, rfl⟩
    refine ⟨⟨congrArg List.length habreast.taken, habreast.lastInput, ?_⟩, habreast⟩
    rw [SameInScripts, hpasses.next_eq, hpasses'.next_eq]
    exact Or.inl (toHiragana_of_passes hpasses).symm

theorem SamePlace.advance (h : SamePlace a b) (hrest : a.rest ≠ []) :
    SamePlace (a.advance Converter.default.hiragana) (b.advance Converter.default.katakana) := by
  obtain ⟨-, habreast⟩ := h.inStep hrest
  have happend := Index.append_rest_step Converter.default.hiragana a.context a.rest
  refine ⟨?_, fun c hc => h.romaji c ?_, habreast.lastInput, habreast.mustAdvance⟩
  · rw [Cursor.advance, Cursor.advance, Step.rest, Step.rest, habreast.taken, h.rest]
  · rw [← happend]
    exact List.mem_append_right _ hc

/-- The scans of romaji for the two scripts take as many steps, and at every place both take the
same characters and write the same in their scripts, except that a repeated vowel may be a mark in
katakana where it is a letter in hiragana. -/
theorem scripts_scan_in_step (t : Text) (ht : ∀ c ∈ t, IsRomajiChar c) :
    List.Forall₂ InStep (Converter.default.hiragana.cursors ⟨.fresh, t⟩)
      (Converter.default.katakana.cursors ⟨.fresh, t⟩) := by
  have hstart : SamePlace ⟨.fresh, t⟩ ⟨.fresh, t⟩ := ⟨rfl, ht, rfl, rfl⟩
  refine (Index.forall₂_cursors (fun a b h => by rw [h.rest]) (fun a b h hrest => h.advance hrest)
    hstart).imp ?_
  rintro a b ⟨h, hrest⟩
  exact (h.inStep hrest).1

/-- A doubled consonant, a doubled nasal, a quoted vowel and vowels that are repeated, with a mark
and without. -/
theorem scripts_scan_in_step_kkaa :
    List.Forall₂ InStep
      (Converter.default.hiragana.cursors
        ⟨.fresh, ['k', 'k', 'A', 'a', '\x27', 'a', 'n', 'n', 'ō', 'o', '\u0304', 'x', ' ']⟩)
      (Converter.default.katakana.cursors
        ⟨.fresh, ['k', 'k', 'A', 'a', '\x27', 'a', 'n', 'n', 'ō', 'o', '\u0304', 'x', ' ']⟩) :=
  scripts_scan_in_step _ (by decide)

end Syllabary.Kana
