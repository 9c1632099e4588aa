import Syllabary.Proofs.PhoneticSteps
import Syllabary.Proofs.RomajiForms

/-!
# Quotes and repeated vowels

Two kinds of rules look at the trigger before theirs. A quote before the vowel of that trigger is
taken together with the vowel, and in katakana a vowel that is read again is written as the mark of
prolonged sounds, but for the last but one of a run.

## Main statements

* `step_quote_of_vowel`: a quote before the vowel that it repeats.
* `step_vowel`: a vowel in katakana.
* `step_vowel_cases`: a vowel in katakana that repeats none.
-/

namespace Syllabary.Kana

open Unicode
open scoped Text

variable {script : Script} {rule : Rule} {context : Context} {vowel : Vowel} {c d : Char}
  {t front : Text}

/-! ## Keys that begin with a quote -/

/-- The rules whose keys begin with a quote. -/
theorem OpensWith.quote_cases (h : OpensWith script d rule) (hd : d = '\x27') :
    rule = .literal ['\x27'] ['＇'] ∨
      ∃ vowel ∈ script.vowels, rule = .quotedVowel vowel.latin vowel.kana := by
  cases h with
  | @short key output hentry hkey =>
    rw [hd] at hkey
    obtain ⟨hkey, houtput⟩ := Prod.mk.inj ((romajiEntry_of_mem hentry).quote hkey)
    rw [hkey, houtput]
    exact Or.inl rfl
  | @long stem output long hlong hentry hkey =>
    rw [hd] at hkey
    obtain ⟨hkey, -⟩ := Prod.mk.inj ((romajiEntry_of_mem hentry).quote hkey)
    have hlast := congrArg List.getLast? hkey
    rw [List.getLast?_concat, List.getLast?_singleton, Option.some.injEq] at hlast
    exact absurd hlast (not_mem_vowels long hlong).2
  | geminate hc => exact absurd (hd ▸ hc) (by decide)
  | quoted _ hmem => exact Or.inr ⟨_, hmem, rfl⟩
  | nasal hnasal => exact absurd (hd.symm.trans hnasal) (by decide)
  | prolonged hscript hmem hlatin =>
    have hvowel := (foldChar_latin_of_mem_vowels script _ hmem).2
    exact absurd (hd ▸ hlatin ▸ hvowel) (by decide)

theorem eq_of_latin_eq (script : Script) : ∀ vowel ∈ script.vowels, ∀ other ∈ script.vowels,
    other.latin = vowel.latin → other = vowel := by
  cases script <;> decide

theorem head?_kana_of_mem_vowels (script : Script) : ∀ vowel ∈ script.vowels,
    vowel.kana.head? ∉ [none, some '＇'] ∧ vowel.kana.head? ∉ [none, some 'ー'] := by
  cases script <;> decide

theorem foldChar_quote : foldChar '\x27' = '\x27' := (plain_of_mem '\x27' List.mem_cons_self).2

/-- A quote is found by itself and with a vowel behind it, and with nothing else. -/
theorem eq_of_lookup?_quote
    (h : (Converter.default.index script).lookup? ('\x27' :: t) = some rule) :
    (t = [] ∧ rule = .literal ['\x27'] ['＇']) ∨
      ∃ vowel ∈ script.vowels, ∃ d, t = [d] ∧ foldChar d = vowel.latin ∧
        rule = .quotedVowel vowel.latin vowel.kana := by
  have hquote : IsLatin '\x27' := Or.inl (by decide)
  have hfound := found_of_lookup? hquote h
  obtain ⟨back, hback, hlength⟩ := exists_lowercase_append (s := ['\x27']) (by decide) t
  rw [List.singleton_append, List.map_singleton, foldChar_quote, List.singleton_append] at hback
  have hhead : (nfd rule.key).head? = some '\x27' := by
    rw [hfound.nfd_key, hback, head?_nfd_of_lt (by decide)]
  have hspelled := hfound.spelled
  rw [hback] at hspelled
  rcases (hfound.kind.opensWith (by decide) hhead).quote_cases rfl with rfl | ⟨vowel, hmem, rfl⟩
  · have hkey : nfd ['\x27'] = ['\x27'] := nfd_eq_self (by decide)
    rw [key_literal, hkey, or_self] at hspelled
    rw [(List.cons.inj hspelled).2] at hlength
    exact Or.inl ⟨List.length_eq_zero_iff.mp (Nat.le_zero.mp hlength), rfl⟩
  · obtain ⟨hfold, hvowel⟩ := foldChar_latin_of_mem_vowels script vowel hmem
    have hlt := lt_of_mem_vowels _ hvowel
    have hkey : nfd ['\x27', vowel.latin] = ['\x27', vowel.latin] := nfd_eq_self (by simp [hlt])
    rw [key_quotedVowel, hfold, hkey, or_self] at hspelled
    have hmap : ('\x27' :: t).map foldChar = ['\x27', vowel.latin] := by
      refine map_foldChar_of_lowercase (hback.trans hspelled) fun d hd => ?_
      rcases List.mem_pair.mp hd with rfl | rfl
      · exact Or.inl (by decide)
      · exact Or.inl (by omega)
    obtain ⟨d, rfl, hd⟩ := List.map_eq_singleton_iff.mp (List.cons.inj hmap).2
    exact Or.inr ⟨vowel, hmem, d, rfl, hd, rfl⟩

/-- A quote is found by itself. -/
theorem lookup?_quote :
    (Converter.default.index script).lookup? ['\x27'] = some (.literal ['\x27'] ['＇']) := by
  have hlower : lowercase ['\x27'] = ['\x27'] := by
    rw [lowercase_of_latin (by decide), List.map_singleton, foldChar_quote]
  obtain ⟨rule, hrule⟩ := exists_lookup?_of_entry hlower
    (exists_mem_romajiEntries script ['\x27'] (by simp))
  rcases eq_of_lookup?_quote hrule with ⟨-, rfl⟩ | ⟨_, -, _, hnil, -⟩
  · exact hrule
  · simp at hnil

/-- A quote with a vowel behind it is found. -/
theorem lookup?_quotedVowel (hmem : vowel ∈ script.vowels) (hlt : d.toNat < 0xC0)
    (hd : foldChar d = vowel.latin) :
    (Converter.default.index script).lookup? ['\x27', d] =
      some (.quotedVowel vowel.latin vowel.kana) := by
  obtain ⟨hfold, -⟩ := foldChar_latin_of_mem_vowels script vowel hmem
  have hlower : lowercase ['\x27', d] = (Rule.quotedVowel vowel.latin vowel.kana).key := by
    have hlatin : ∀ c ∈ ['\x27', d], IsLatin c :=
      List.forall_mem_cons.mpr ⟨Or.inl (by decide), List.forall_mem_singleton.mpr (Or.inl hlt)⟩
    rw [lowercase_of_latin hlatin, List.map_cons, List.map_singleton, foldChar_quote, hd,
      key_quotedVowel, hfold]
  obtain ⟨rule, hrule⟩ := exists_lookup?_of_claims (.quoted hmem) (Or.inl hlower)
  rcases eq_of_lookup?_quote hrule with ⟨hnil, -⟩ | ⟨other, hother, e, he, hlatin, rfl⟩
  · simp at hnil
  · obtain rfl := (List.cons.inj he).1
    rw [hrule, eq_of_latin_eq script vowel hmem other hother (hlatin.symm.trans hd)]

/-! ## Steps at a quote -/

theorem lookup?_quote_eq_none (h : front <+: '\x27' :: t) (hlength : 3 ≤ front.length) :
    (Converter.default.index script).lookup? front = none := by
  obtain ⟨s, rfl⟩ := Index.exists_cons_of_prefix h (List.ne_nil_of_length_pos (by omega))
  rw [Option.eq_none_iff_forall_ne_some]
  intro rule hrule
  rcases eq_of_lookup?_quote hrule with ⟨rfl, -⟩ | ⟨_, -, d, rfl, -⟩ <;> simp at hlength

section

variable (hmem : vowel ∈ script.vowels) (hlt : d.toNat < 0xC0) (hd : foldChar d = vowel.latin)

include hmem hlt hd

/-- Before the vowel that it repeats, a quote is taken with the vowel. -/
theorem step_quote_of_vowel (hlast : lastFolded? context.lastInput = some vowel.latin) (t : Text) :
    (Converter.default.index script).step context ('\x27' :: d :: t) =
      .accept ('\x27' :: d :: t) ['\x27', d] vowel.kana 2 none := by
  have hfound := lookup?_quotedVowel hmem hlt hd
  have hlonger : ∀ front, front <+: '\x27' :: d :: t → 3 ≤ front.length →
      (Converter.default.index script).lookup? front = none := fun _ => lookup?_quote_eq_none
  rw [index_default] at hfound hlonger ⊢
  apply Index.step_quote_of_repeated hfound hlonger
  rwa [(foldChar_latin_of_mem_vowels script vowel hmem).1]

end

/-- A quote that is taken by itself is written as such. -/
theorem output_of_taken_quote
    (h : ((Converter.default.index script).step context ('\x27' :: t)).taken = ['\x27']) :
    ((Converter.default.index script).step context ('\x27' :: t)).output = ['＇'] := by
  have hquote : IsLatin '\x27' := Or.inl (by decide)
  rcases exists_applies_or_passThrough hquote script context t with
    ⟨front, rule, happlies⟩ | ⟨hrefused, -⟩
  · obtain ⟨s, rfl⟩ := Index.exists_cons_of_prefix happlies.decides.isFront happlies.decides.ne_nil
    have hperformed := happlies.performed
    rcases eq_of_lookup?_quote happlies.looked with ⟨-, rfl⟩ | ⟨vowel, -, d, rfl, -, rfl⟩
    · rw [← Option.some.inj hperformed]
      rfl
    · -- a quoted vowel would be taken as well
      obtain ⟨rest, hrest⟩ := happlies.decides.isFront
      rw [perform?_quotedVowel (by simp), Option.ite_none_right_eq_some, Option.some.injEq]
        at hperformed
      rw [← hperformed.2, ← hrest, Step.accept] at h
      dsimp only at h
      rw [List.take_left] at h
      simp at h
  · have hquote := hrefused ['\x27'] (by simp) (List.cons_prefix_cons.mpr ⟨rfl, List.nil_prefix⟩)
    rw [Index.attempt, lookup?_quote] at hquote
    simp [perform?_literal] at hquote

/-! ## Vowels -/

/-- The keys that begin with a vowel have nothing behind it but a mark. -/
theorem OpensWith.vowel_cases (h : OpensWith script d rule)
    (hd : d ∈ ['a', 'i', 'u', 'e', 'o']) :
    rule.key = [d] ∨ ∃ long ∈ longVowels, rule.key = [long.letter] := by
  cases h with
  | @short key output hentry hkey =>
    have hlength := (romajiEntry_of_mem hentry).vowel (hkey ▸ List.mem_map_of_mem hd)
    obtain ⟨e, rfl⟩ := List.length_eq_one_iff.mp hlength
    rw [List.head?_cons] at hkey
    exact Or.inl (by rw [key_literal, Option.some.inj hkey])
  | @long stem output long hlong hentry hkey =>
    have hlength := (romajiEntry_of_mem hentry).vowel (hkey ▸ List.mem_map_of_mem hd)
    obtain rfl : stem = [] := by simpa using hlength
    exact Or.inr ⟨long, hlong, rfl⟩
  | geminate hc =>
    have hnot : ∀ c ∈ geminateConsonants, c ∉ ['a', 'i', 'u', 'e', 'o'] := by decide
    exact absurd hd (hnot d hc)
  | quoted hquote => exact absurd (hquote ▸ hd) (by decide)
  | nasal hnasal => exact absurd (hnasal ▸ hd) (by decide)
  | prolonged hscript hmem hlatin =>
    rw [key_prolongedVowel, (foldChar_latin_of_mem_vowels script _ hmem).1, hlatin]
    exact Or.inl rfl

/-- Behind a vowel nothing is found but its mark, together with which it is a long vowel. -/
theorem lookup?_vowel_cases (hlt : c.toNat < 0xC0) (hc : foldChar c ∈ ['a', 'i', 'u', 'e', 'o'])
    (h : (Converter.default.index script).lookup? (c :: t) = some rule) :
    t = [] ∨ ∃ long ∈ longVowels, t = [long.mark] ∧ rule.key = [long.letter] := by
  have hfound := found_of_lookup? (Or.inl hlt) h
  obtain ⟨back, hback, hlength⟩ := exists_lowercase_append (List.forall_mem_singleton.mpr hlt) t
  rw [List.singleton_append, List.map_singleton, List.singleton_append] at hback
  have hfold := lt_of_mem_vowels _ hc
  have hhead : (nfd rule.key).head? = some (foldChar c) := by
    rw [hfound.nfd_key, hback, head?_nfd_of_lt hfold]
  have hspelled := hfound.spelled
  rw [hback] at hspelled
  rcases (hfound.kind.opensWith hfold hhead).vowel_cases hc with hkey | ⟨long, hlong, hkey⟩
  · rw [hkey, nfd_eq_self (List.forall_mem_singleton.mpr (Or.inl hfold)), or_self] at hspelled
    rw [(List.cons.inj hspelled).2] at hlength
    exact Or.inl (List.length_eq_zero_iff.mp (Nat.le_zero.mp hlength))
  · obtain ⟨hletter, -, hvowel, -⟩ := LongVowel.bounds long hlong
    have hform := nfd_concat_letter (List.forall_mem_nil _) hlong
    rw [List.nil_append, List.nil_append, List.singleton_append] at hform
    rw [hkey, hform] at hspelled
    rcases hspelled with heq | heq
    · rw [(List.cons.inj heq).1] at hfold
      omega
    · -- the text is a vowel and a mark
      have hmap : (c :: t).map foldChar = [long.vowel, long.mark] := by
        refine map_foldChar_of_lowercase (hback.trans heq) fun d hd => ?_
        rcases List.mem_pair.mp hd with rfl | rfl
        · exact Or.inl (by omega)
        · exact Or.inr ⟨long, hlong, rfl⟩
      obtain ⟨d, rfl, hd⟩ := List.map_eq_singleton_iff.mp (List.cons.inj hmap).2
      rw [LongVowel.eq_mark_of_foldChar hlong hd]
      exact Or.inr ⟨long, hlong, rfl, hkey⟩

/-- In katakana the rule for runs of vowels owns the vowels. -/
theorem owner?_vowel (hmem : vowel ∈ Script.katakana.vowels) :
    RuleSet.owner? .unicode (Converter.ruleSet .default [] .katakana) [vowel.latin] =
      some (.prolongedVowel vowel.latin vowel.kana prolongedSoundMark) := by
  obtain ⟨hfold, hvowel⟩ := foldChar_latin_of_mem_vowels .katakana vowel hmem
  have hkey (other : Vowel) (hother : other ∈ Script.katakana.vowels) :
      (Rule.prolongedVowel other.latin other.kana prolongedSoundMark).key = [other.latin] := by
    rw [key_prolongedVowel, (foldChar_latin_of_mem_vowels .katakana other hother).1]
  -- the rules for runs stand behind all others, and no two of them share a vowel
  have hruns : RuleSet.owner? .unicode (vowelRuns .katakana) [vowel.latin] =
      some (.prolongedVowel vowel.latin vowel.kana prolongedSoundMark) := by
    cases howner : RuleSet.owner? .unicode (vowelRuns .katakana) [vowel.latin] with
    | none =>
      refine absurd (Or.inl (hkey vowel hmem).symm) (RuleSet.owner?_eq_none_iff.mp howner _ ?_)
      exact List.mem_map_of_mem hmem
    | some rule =>
      obtain ⟨before, after, hset, hclaims, -⟩ := RuleSet.owner?_eq_some_iff.mp howner
      obtain ⟨other, hother, rfl⟩ : ∃ other ∈ Script.katakana.vowels,
          .prolongedVowel other.latin other.kana prolongedSoundMark = rule := by
        have hmem : rule ∈ vowelRuns .katakana := by
          rw [hset]
          exact List.mem_append_right before List.mem_cons_self
        exact List.mem_map.mp hmem
      have hlt := lt_of_mem_vowels _ (foldChar_latin_of_mem_vowels .katakana other hother).2
      have hlatin : ∀ c ∈ [other.latin], IsLatin c := List.forall_mem_singleton.mpr (Or.inl hlt)
      have heq : [vowel.latin] = [other.latin] := by
        have hcomposed : nfc [other.latin] = [other.latin] := nfc_of_latin hlatin
        have hdecomposed : nfd [other.latin] = [other.latin] :=
          nfd_eq_self (List.forall_mem_singleton.mpr (Or.inl hlt))
        rw [Rule.Claims, hkey other hother] at hclaims
        rcases hclaims with heq | heq | heq
        · exact heq
        · exact heq.trans hcomposed
        · exact heq.trans hdecomposed
      rw [eq_of_latin_eq .katakana vowel hmem other hother (List.cons.inj heq).1.symm]
  rw [ruleSet_eq, RuleSet.owner?_append, RuleSet.owner?_append, hruns, Option.some_or,
    Option.some_or]

/-- In katakana a vowel in any letter case is found with the rule for runs of vowels. -/
theorem lookup?_vowel (hmem : vowel ∈ Script.katakana.vowels) (hlt : c.toNat < 0xC0)
    (hc : foldChar c = vowel.latin) :
    (Converter.default.index .katakana).lookup? [c] =
      some (.prolongedVowel vowel.latin vowel.kana prolongedSoundMark) := by
  have hlatin : IsLatin c := Or.inl hlt
  rw [Index.lookup?_eq_or, lowercase_of_latin (List.forall_mem_singleton.mpr hlatin),
    List.map_singleton, hc, index_default, Index.get?_ofRules, Index.get?_ofRules,
    owner?_vowel hmem]
  cases howner : RuleSet.owner? .unicode (Converter.ruleSet .default [] .katakana) [c] with
  | none => rw [Option.none_or]
  | some rule =>
    -- only a letter in lower case is owned by itself
    obtain ⟨before, after, hset, hclaims, -⟩ := RuleSet.owner?_eq_some_iff.mp howner
    have hrule : rule ∈ Converter.ruleSet .default [] .katakana :=
      hset ▸ List.mem_append_right before List.mem_cons_self
    obtain ⟨-, hkey, heq⟩ := romaji_of_claims hlatin hrule hclaims
    have hself : [c] = rule.key := by
      rcases heq with heq | heq
      · exact heq
      · rw [← nfc_of_latin (List.forall_mem_singleton.mpr hlatin), heq, nfc_nfd, hkey.nfc_eq]
    have hlower := hkey.map_foldChar
    rw [← hself, List.map_singleton, hc] at hlower
    rw [← howner, ← hlower, owner?_vowel hmem, Option.some_or]

/-- In katakana a vowel is written as the mark of prolonged sounds if it is read again and not once
more after that. -/
theorem step_vowel (hmem : vowel ∈ Script.katakana.vowels) (hlt : c.toNat < 0xC0)
    (hc : foldChar c = vowel.latin) (hmark : ∀ long ∈ longVowels, t.head? ≠ some long.mark)
    (context : Context) :
    (Converter.default.index .katakana).step context (c :: t) =
      .accept (c :: t) [c]
        (if lastFolded? context.lastInput = some vowel.latin ∧
            firstFolded? t ≠ some vowel.latin then prolongedSoundMark else vowel.kana) 1 none := by
  obtain ⟨hfold, hvowel⟩ := foldChar_latin_of_mem_vowels .katakana vowel hmem
  have hfound := lookup?_vowel hmem hlt hc
  have hlonger : ∀ front, front <+: c :: t → 2 ≤ front.length →
      (Converter.default.index .katakana).lookup? front = none := by
    intro front hfront hlength
    obtain ⟨s, rfl⟩ := Index.exists_cons_of_prefix hfront (List.ne_nil_of_length_pos (by omega))
    rw [Option.eq_none_iff_forall_ne_some]
    intro rule hrule
    rcases lookup?_vowel_cases hlt (hc ▸ hvowel) hrule with rfl | ⟨long, hlong, rfl, -⟩
    · simp at hlength
    · obtain ⟨rest, rfl⟩ := (List.cons_prefix_cons.mp hfront).2
      exact hmark long hlong rfl
  rw [index_default] at hfound hlonger ⊢
  rw [Index.step_prolonged hfound hlonger, hfold]

end Syllabary.Kana
