import Syllabary.Proofs.RomajiRules

/-!
# Romaji in the default table

What a converter of the default table finds at the front of a text that starts with a Latin
character: a rule for romaji, whose key is the front part in lower case, composed or decomposed
(`Found`). What the proofs need of the table itself is collected once (`RomajiEntry`).

## Main statements

* `found_of_lookup?`: only rules for romaji are found.
* `exists_applies_or_passThrough`: such a rule makes the step, or the character passes through.
-/

namespace Syllabary.Kana

open Unicode
open scoped Text

variable {script : Script} {rule : Rule} {context : Context} {c : Char} {t front : Text}

/-! ## The entries of the table -/

/-- The letters that syllables with a nasal in front begin with. -/
def naSeries : Text := ['な', 'に', 'ぬ', 'ね', 'の', 'ナ', 'ニ', 'ヌ', 'ネ', 'ノ']

/-- The letters that the onsets behind a nasal begin with. -/
def onsetHeads : Text := ['a', 'i', 'u', 'e', 'o', 'y']

theorem decomposeChar_key_fromKana (script : Script) : ∀ rule ∈ fromKana .default script,
    ∀ c ∈ rule.key, ∀ d ∈ decomposeChar c, 0x300 ≤ d.toNat := by
  cases script <;> decide +kernel

/-- What the entries of the default table have in common. -/
structure RomajiEntry (script : Script) (key output : Text) : Prop where
  /-- The won sign is the only character of a key that is not Latin. -/
  latin : key = ['₩'] ∨ key ≠ [] ∧ ∀ c ∈ key, c.toNat < 0xC0 ∧ foldChar c = c
  nasal : key.head? = some 'n' → (key, output) = (['n'], script.nasal) ∨ key = ['n', '\x27'] ∨
    key.tail ∈ syllableOnsets ∧ output.head? ∈ naSeries.map some
  quote : key.head? = some '\x27' → (key, output) = (['\x27'], ['＇'])
  vowel : key.head? ∈ ['a', 'i', 'u', 'e', 'o'].map some → key.length = 1
  otherSeries : key.head? ∈ onsetHeads.map some →
    output.head? ∉ none :: (naSeries ++ prolongedSoundMark).map some

theorem romajiEntry_of_mem {key output : Text}
    (hentry : (key, output) ∈ Table.default.romajiEntries script) :
    RomajiEntry script key output := by
  have hentries : ∀ entry ∈ Table.default.romajiEntries script,
      (entry.1 = ['₩'] ∨ entry.1 ≠ [] ∧ ∀ c ∈ entry.1, c.toNat < 0xC0 ∧ foldChar c = c) ∧
      (entry.1.head? = some 'n' → entry = (['n'], script.nasal) ∨ entry.1 = ['n', '\x27'] ∨
        entry.1.tail ∈ syllableOnsets ∧ entry.2.head? ∈ naSeries.map some) ∧
      (entry.1.head? = some '\x27' → entry = (['\x27'], ['＇'])) ∧
      (entry.1.head? ∈ ['a', 'i', 'u', 'e', 'o'].map some → entry.1.length = 1) ∧
      (entry.1.head? ∈ onsetHeads.map some →
        entry.2.head? ∉ none :: (naSeries ++ prolongedSoundMark).map some) := by
    cases script <;> decide +kernel
  obtain ⟨hlatin, hnasal, hquote, hvowel, hother⟩ := hentries _ hentry
  exact ⟨hlatin, hnasal, hquote, hvowel, hother⟩

/-- The nasal and the quote, the vowels, and the onsets behind a nasal have entries. -/
theorem exists_mem_romajiEntries (script : Script) :
    ∀ key ∈ [['n'], ['\x27']] ++ script.vowels.map (fun vowel => [vowel.latin]) ++
        syllableOnsets.map ('n' :: ·),
      ∃ entry ∈ Table.default.romajiEntries script, entry.1 = key := by
  cases script <;> decide +kernel

theorem le_of_mem_nfd_won : ∀ c ∈ nfd ['₩'], 0x300 ≤ c.toNat := by decide +kernel

/-- The letters and signs that the rules for romaji name are small letters of ASCII. -/
theorem plain_of_mem : ∀ c ∈ '\x27' :: 'n' :: (geminateConsonants ++ onsetHeads),
    c.toNat < 0xC0 ∧ foldChar c = c := by
  decide +kernel

theorem plain_of_mem_consonants {c : Char} (hc : c ∈ geminateConsonants) :
    c.toNat < 0xC0 ∧ foldChar c = c :=
  plain_of_mem c (List.mem_cons_of_mem _ (List.mem_cons_of_mem _ (List.mem_append_left _ hc)))

theorem plain_of_mem_onsetHeads {c : Char} (hc : c ∈ onsetHeads) :
    c.toNat < 0xC0 ∧ foldChar c = c :=
  plain_of_mem c (List.mem_cons_of_mem _ (List.mem_cons_of_mem _ (List.mem_append_right _ hc)))

theorem mem_onsetHeads_of_mem_vowels : ∀ c ∈ ['a', 'i', 'u', 'e', 'o'], c ∈ onsetHeads := by decide

theorem lt_of_mem_vowels (c : Char) (hc : c ∈ ['a', 'i', 'u', 'e', 'o']) : c.toNat < 0xC0 :=
  (plain_of_mem_onsetHeads (mem_onsetHeads_of_mem_vowels c hc)).1

theorem latin_of_mem_vowels (script : Script) : ∀ vowel ∈ script.vowels,
    vowel.latin ∈ ['a', 'i', 'u', 'e', 'o'] := by
  cases script <;> decide

theorem foldChar_latin_of_mem_vowels (script : Script) (vowel : Vowel)
    (hmem : vowel ∈ script.vowels) :
    foldChar vowel.latin = vowel.latin ∧ vowel.latin ∈ ['a', 'i', 'u', 'e', 'o'] := by
  have hlatin := latin_of_mem_vowels script vowel hmem
  exact ⟨(plain_of_mem_onsetHeads (mem_onsetHeads_of_mem_vowels _ hlatin)).2, hlatin⟩

theorem head?_of_mem_syllableOnsets : ∀ onset ∈ syllableOnsets,
    onset.head? ∈ onsetHeads.map some := by
  decide

theorem mem_onsetHeads_of_mem_syllableOnsets : ∀ onset ∈ syllableOnsets, ∀ c ∈ onset,
    c ∈ onsetHeads := by
  decide

theorem map_foldChar_of_mem_syllableOnsets (onset : Text) (honset : onset ∈ syllableOnsets) :
    onset.map foldChar = onset := by
  have hplain : ∀ c ∈ onset, foldChar c = c := fun c hc =>
    (plain_of_mem_onsetHeads (mem_onsetHeads_of_mem_syllableOnsets onset honset c hc)).2
  rw [List.map_congr_left hplain, List.map_id']

/-! ## Keys -/

/-- A text as it is used for a key: Latin and in lower case. -/
def IsRomaji (key : Text) : Prop := key ≠ [] ∧ ∀ c ∈ key, IsLatin c ∧ foldChar c = c

/-- The keys of the rules for romaji, but for the won sign. -/
theorem RomajiRule.key_cases (h : RomajiRule .default script rule) :
    rule.key = ['₩'] ∨ IsRomaji rule.key := by
  have hvowel {vowel : Vowel} (hvowel : vowel ∈ script.vowels) :
      IsLatin (foldChar vowel.latin) ∧ foldChar (foldChar vowel.latin) = foldChar vowel.latin := by
    obtain ⟨hfold, hmem⟩ := foldChar_latin_of_mem_vowels script vowel hvowel
    rw [hfold]
    exact ⟨Or.inl (lt_of_mem_vowels _ hmem), hfold⟩
  cases h with
  | short hentry =>
    refine ((romajiEntry_of_mem hentry).latin).imp_right fun ⟨hne, hkey⟩ => ⟨hne, ?_⟩
    exact fun c hc => ⟨Or.inl (hkey c hc).1, (hkey c hc).2⟩
  | @long stem output long hlong hentry =>
    rcases (romajiEntry_of_mem hentry).latin with hwon | ⟨-, hkey⟩
    · -- the won sign is no vowel
      have hlast := congrArg List.getLast? hwon
      rw [List.getLast?_concat, List.getLast?_singleton, Option.some.injEq] at hlast
      obtain ⟨-, -, hvowel, -⟩ := LongVowel.bounds long hlong
      have hwon : 0x80 ≤ '₩'.toNat := by decide
      rw [hlast] at hvowel
      omega
    · obtain ⟨hstem, hlast⟩ := List.forall_mem_append.mp hkey
      refine Or.inr ⟨by simp, List.forall_mem_append.mpr ⟨fun c hc => ?_, ?_⟩⟩
      · exact ⟨Or.inl (hstem c hc).1, (hstem c hc).2⟩
      · exact List.forall_mem_singleton.mpr ⟨Or.inr ⟨long, hlong, rfl⟩,
          (LongVowel.inData long hlong).foldLetter (List.forall_mem_singleton.mp hlast).2⟩
  | geminate hc =>
    have hplain := plain_of_mem_consonants hc
    exact Or.inr ⟨by simp, by simpa using ⟨Or.inl hplain.1, hplain.2⟩⟩
  | quoted hmem =>
    have hquote := plain_of_mem '\x27' List.mem_cons_self
    refine Or.inr ⟨by simp, List.forall_mem_cons.mpr ⟨⟨Or.inl hquote.1, hquote.2⟩, ?_⟩⟩
    exact List.forall_mem_singleton.mpr (hvowel hmem)
  | nasal =>
    have hn := plain_of_mem 'n' (List.mem_cons_of_mem _ List.mem_cons_self)
    exact Or.inr ⟨by simp, by simpa using ⟨Or.inl hn.1, hn.2⟩⟩
  | prolonged hscript hmem => exact Or.inr ⟨by simp, List.forall_mem_singleton.mpr (hvowel hmem)⟩

/-- A rule for romaji, found for a text whose lowercase is a form of its key. -/
structure Found (script : Script) (t : Text) (rule : Rule) : Prop where
  kind : RomajiRule .default script rule
  romaji : IsRomaji rule.key
  spelled : lowercase t = rule.key ∨ lowercase t = nfd rule.key

theorem IsRomaji.nfc_eq {key : Text} (h : IsRomaji key) : nfc key = key :=
  nfc_of_latin fun c hc => (h.2 c hc).1

theorem IsRomaji.map_foldChar {key : Text} (h : IsRomaji key) : key.map foldChar = key := by
  rw [List.map_congr_left fun c hc => (h.2 c hc).2, List.map_id']

/-- A decomposed text starts below the marks if the text starts with a Latin character. -/
theorem exists_head?_nfd (hc : IsLatin c) (t : Text) :
    ∃ d, d.toNat < 0xC0 ∧ (nfd (c :: t)).head? = some d := by
  rcases hc with hlt | ⟨long, hlong, rfl⟩
  · exact ⟨c, hlt, by rw [nfd_cons_of_lt hlt, List.head?_cons]⟩
  · obtain ⟨-, -, hvowel, -⟩ := LongVowel.bounds long hlong
    exact ⟨long.vowel, by omega, by rw [LongVowel.nfd_cons hlong, List.head?_cons]⟩

/-- Who claims a text that starts with a Latin character is a rule for romaji with this key. -/
theorem romaji_of_claims (hc : IsLatin c) (hmem : rule ∈ Converter.ruleSet .default [] script)
    (hclaims : rule.Claims .unicode (c :: t)) :
    RomajiRule .default script rule ∧ IsRomaji rule.key ∧
      (c :: t = rule.key ∨ c :: t = nfd rule.key) := by
  -- whichever form of the key it is, its decomposition starts with a character below the marks
  obtain ⟨d, hd, hhead⟩ := exists_head?_nfd hc t
  have hnfd : nfd (c :: t) = nfd rule.key := by
    rcases hclaims with heq | heq | heq
    · rw [heq]
    · rw [heq]
      exact nfd_nfc _
    · rw [heq]
      exact nfd_nfd _
  have hforeign (hkey : ∀ e ∈ nfd rule.key, 0x300 ≤ e.toNat) : False := by
    have := hkey d (List.mem_of_head? (hnfd ▸ hhead))
    omega
  rw [ruleSet_eq, List.mem_append, mem_romajiToKana_append_vowelRuns_iff] at hmem
  rcases hmem with hkana | hromaji
  · refine (hforeign fun e he => ?_).elim
    rw [(nfd_perm rule.key).mem_iff, List.mem_flatMap] at he
    obtain ⟨b, hb, he⟩ := he
    exact decomposeChar_key_fromKana script rule hkana b hb e he
  · rcases hromaji.key_cases with hwon | hkey
    · refine (hforeign ?_).elim
      rw [hwon]
      exact le_of_mem_nfd_won
    · refine ⟨hromaji, hkey, ?_⟩
      rcases hclaims with heq | heq | heq
      · exact Or.inl heq
      · exact Or.inl (heq.trans hkey.nfc_eq)
      · exact Or.inr heq

/-- At the front of a text that starts with a Latin character only rules for romaji are found. -/
theorem found_of_lookup? (hc : IsLatin c)
    (h : (Converter.default.index script).lookup? (c :: t) = some rule) :
    Found script (c :: t) rule := by
  rw [index_default] at h
  obtain ⟨hmem, hclaims | hclaims⟩ := Index.mem_of_lookup? h
  · obtain ⟨hromaji, hkey, heq⟩ := romaji_of_claims hc hmem hclaims
    have hlatin : ∀ d ∈ rule.key, IsLatin d := fun d hd => (hkey.2 d hd).1
    refine ⟨hromaji, hkey, heq.imp (fun heq => ?_) fun heq => ?_⟩
    · rw [heq, lowercase_of_latin hlatin, hkey.map_foldChar]
    · rw [heq, lowercase_nfd hlatin, hkey.map_foldChar]
  · obtain ⟨s, hs⟩ := List.head?_eq_some_iff.mp (head?_lowercase c t)
    rw [hs] at hclaims
    obtain ⟨hromaji, hkey, heq⟩ := romaji_of_claims (isLatin_foldChar hc) hmem hclaims
    refine ⟨hromaji, hkey, ?_⟩
    rw [hs]
    exact heq

/-- A text whose lowercase is claimed by a rule for romaji is found. -/
theorem exists_lookup?_of_claims (hrule : RomajiRule .default script rule)
    (hclaims : rule.Claims .unicode (lowercase t)) :
    ∃ found, (Converter.default.index script).lookup? t = some found := by
  rw [index_default]
  refine Index.exists_lookup?_of_claims ?_ hclaims
  rw [ruleSet_eq]
  exact List.mem_append_right _ (mem_romajiToKana_append_vowelRuns_iff.mpr hrule)

/-! ## Steps -/

/-- An accepted front part without a longer one makes the step of a converter. -/
theorem step_eq_of_decides {step : Step} (front : Text)
    (h : (Converter.default.index script).Decides context t front step) :
    (Converter.default.index script).step context t = step := by
  rw [index_default] at h ⊢
  exact Index.step_eq_of_decides h

/-- The rule that takes the step at the front of an input, with the front part that it is found
for. -/
structure Applies (script : Script) (context : Context) (input front : Text) (rule : Rule) :
    Prop where
  decides : (Converter.default.index script).Decides context input front
    ((Converter.default.index script).step context input)
  looked : (Converter.default.index script).lookup? front = some rule
  found : Found script front rule
  performed : rule.perform? (Converter.default.index script).view context input front =
    some ((Converter.default.index script).step context input)

/-- At a Latin character a rule for romaji applies, or the character passes through. -/
theorem exists_applies_or_passThrough (hc : IsLatin c) (script : Script) (context : Context)
    (t : Text) :
    (∃ front rule, Applies script context (c :: t) front rule) ∨
      (∀ front, front ≠ [] → front <+: c :: t →
        (Converter.default.index script).attempt context (c :: t) front = none) ∧
        (Converter.default.index script).step context (c :: t) = .passThrough c := by
  have hcases := Index.exists_decides_or_passThrough .unicode
    (Converter.ruleSet .default [] script) context c t
  rw [← index_default] at hcases
  refine hcases.imp_left fun ⟨front, hdecides⟩ => ?_
  obtain ⟨rule, hlooked, hperformed⟩ := Option.bind_eq_some_iff.mp hdecides.accepted
  obtain ⟨s, rfl⟩ := Index.exists_cons_of_prefix hdecides.isFront hdecides.ne_nil
  exact ⟨c :: s, rule, hdecides, hlooked, found_of_lookup? hc hlooked, hperformed⟩

/-- A step takes no more than the front part that its rule is found for. -/
theorem Applies.exists_accept (happlies : Applies script context t front rule) :
    ∃ output n, 0 < n ∧ n ≤ front.length ∧
      (Converter.default.index script).step context t = .accept t front output n none :=
  happlies.found.kind.exists_accept happlies.decides.ne_nil happlies.performed

/-- The trigger of a step is the front part that its rule is found for. -/
theorem Applies.lastInput_eq (happlies : Applies script context t front rule) :
    ((Converter.default.index script).step context t).context.lastInput = front := by
  obtain ⟨output, n, -, -, hstep⟩ := happlies.exists_accept
  rw [hstep]
  rfl

/-- A text that is found as a whole with a literal rule is taken as a whole. -/
theorem exists_applies_of_literal {c : Char} {key output : Text} (hc : IsLatin c)
    (h : (Converter.default.index script).lookup? (c :: t) = some (.literal key output))
    (context : Context) : ∃ rule, Applies script context (c :: t) (c :: t) rule := by
  have haccepted : (Converter.default.index script).attempt context (c :: t) (c :: t) ≠ none := by
    rw [Index.attempt, h]
    simp [perform?_literal]
  rcases exists_applies_or_passThrough hc script context t with
    ⟨front, rule, happlies⟩ | ⟨hrefused, -⟩
  · have hwhole : front = c :: t := by
      refine happlies.decides.isFront.eq_of_length_le ?_
      by_contra hshort
      exact haccepted (happlies.decides.longest _ List.prefix_rfl (by omega))
    exact ⟨rule, hwhole ▸ happlies⟩
  · exact absurd (hrefused _ (by simp) List.prefix_rfl) haccepted

theorem convert_default (script : Script) (t : Text) :
    (Converter.default.index script).convert t =
      (Converter.default.index script).outputs .fresh t := by
  rw [index_default]
  exact Index.convert_eq_outputs (taken_step_ne_nil .default script) t

end Syllabary.Kana
