import Syllabary.Proofs.Agreement
import Syllabary.Proofs.RomajiRules

/-!
# Variants for long vowels

A set with the variants for long vowels, indexed. Keys below U+00C0 have one form only, and a
variant has two, with the long vowel as one letter and with the mark behind the bare vowel. No two
stems and long vowels share a spelling, so that rules of other keys never take a variant away. The
variants of one key compete among themselves, and since every variant stands where its base rule
stands, those of the last literal rule win, whether or not that rule is still in force.

For any keys, variants of variants are nothing new: a second pass over a set puts variants before
those that are there already and that claim the same texts.

## Main statements

* `RuleSet.eq_of_mem_spellings`: a spelling tells the stem and the long vowel.
* `RuleSet.owner?_longVowelVariants`: texts without long vowels keep their owners.
* `RuleSet.owner?_spelling`: the variants of the last literal rule own both spellings.
* `RuleSet.index_longVowelVariants`: what is found in the index, and all its keys.
* `RuleSet.agree_longVowelVariants`: after a second pass every text has the owner that it had.
* `RuleSet.index_longVowelVariants_twice`: a second pass changes nothing in the index.
-/

namespace Syllabary

open Unicode
open scoped Text

/-- The spellings of a stem with a long vowel: in one letter, or as the bare vowel and a mark. -/
def Unicode.LongVowel.spellings (long : LongVowel) (stem : Text) : List Text :=
  [stem ++ [long.letter], stem ++ [long.vowel, long.mark]]

/-- The output and the stride of the last literal rule for a key. -/
def RuleSet.LastLiteral (set : RuleSet) (key output : Text) (stride? : Option Stride) : Prop :=
  ∃ before after, set = before ++ ⟨key, .literal output stride?⟩ :: after ∧
    ∀ later ∈ after, later.isLiteral = true → later.key ≠ key

variable {set : RuleSet} {rule : Rule} {mark mark' stem stem' t : Text} {long long' : LongVowel}

/-! ## Spellings -/

theorem Unicode.LongVowel.eq_of_letter_eq : ∀ long ∈ longVowels, ∀ other ∈ longVowels,
    long.letter = other.letter → long = other := by
  decide

theorem Unicode.LongVowel.eq_of_vowel_eq : ∀ long ∈ longVowels, ∀ other ∈ longVowels,
    long.vowel = other.vowel → long.mark = other.mark → long = other := by
  decide

namespace RuleSet

/-- A spelling of a long vowel has a character from U+00C0 on. -/
theorem exists_le_of_mem_spellings (hlong : long ∈ longVowels) (ht : t ∈ long.spellings stem) :
    ∃ c ∈ t, 0xC0 ≤ c.toNat := by
  obtain ⟨hletter, -, -, hmark⟩ := LongVowel.bounds long hlong
  rcases List.mem_pair.mp ht with rfl | rfl
  · exact ⟨long.letter, by simp, hletter⟩
  · exact ⟨long.mark, by simp, by omega⟩

theorem append_letter_ne_append_mark (hlong : long ∈ longVowels) (hlong' : long' ∈ longVowels) :
    stem ++ [long.letter] ≠ stem' ++ [long'.vowel, long'.mark] := by
  intro heq
  have hlast := congrArg List.getLast? heq
  rw [List.getLast?_concat, List.append_cons, List.getLast?_concat, Option.some.injEq] at hlast
  obtain ⟨-, hletter, -, -⟩ := LongVowel.bounds long hlong
  obtain ⟨-, -, -, hmark⟩ := LongVowel.bounds long' hlong'
  rw [hlast] at hletter
  omega

/-- A spelling tells the stem and the long vowel. -/
theorem eq_of_mem_spellings (hlong : long ∈ longVowels) (hlong' : long' ∈ longVowels)
    (ht : t ∈ long.spellings stem) (ht' : t ∈ long'.spellings stem') :
    stem = stem' ∧ long = long' := by
  -- a letter and a mark are never equal, so the two texts are spelled in the same way
  rcases List.mem_pair.mp ht with rfl | rfl
  · rcases List.mem_pair.mp ht' with heq | heq
    · obtain ⟨hstem, hletter⟩ := List.append_inj' heq rfl
      exact ⟨hstem, LongVowel.eq_of_letter_eq long hlong long' hlong' (List.cons.inj hletter).1⟩
    · exact absurd heq (append_letter_ne_append_mark hlong hlong')
  · rcases List.mem_pair.mp ht' with heq | heq
    · exact absurd heq.symm (append_letter_ne_append_mark hlong' hlong)
    · obtain ⟨hstem, hends⟩ := List.append_inj' heq rfl
      obtain ⟨hvowel, hmarks⟩ := List.cons.inj hends
      refine ⟨hstem, LongVowel.eq_of_vowel_eq long hlong long' hlong' hvowel ?_⟩
      exact (List.cons.inj hmarks).1

/-! ## Claims -/

/-- A key below U+00C0 is its only form. -/
theorem claims_iff_of_lt (hkey : ∀ c ∈ rule.key, c.toNat < 0xC0) :
    rule.Claims .unicode t ↔ t = rule.key := by
  have hnfc : nfc rule.key = rule.key := nfc_of_latin fun c hc => Or.inl (hkey c hc)
  have hnfd : nfd rule.key = rule.key := nfd_eq_self fun c hc => Or.inl (hkey c hc)
  show t = rule.key ∨ t = nfc rule.key ∨ t = nfd rule.key ↔ t = rule.key
  rw [hnfc, hnfd, or_self, or_self]

/-- The forms of a key with a long vowel at the end are its two spellings. -/
theorem claims_letter_iff (hstem : ∀ c ∈ stem, c.toNat < 0xC0) (hlong : long ∈ longVowels)
    (action : Action) :
    Rule.Claims .unicode ⟨stem ++ [long.letter], action⟩ t ↔ t ∈ long.spellings stem := by
  have hlatin : ∀ c ∈ stem ++ [long.letter], IsLatin c := by
    refine List.forall_mem_append.mpr ⟨fun c hc => Or.inl (hstem c hc), ?_⟩
    exact List.forall_mem_singleton.mpr (Or.inr ⟨long, hlong, rfl⟩)
  show t = stem ++ [long.letter] ∨ t = nfc (stem ++ [long.letter]) ∨
    t = nfd (stem ++ [long.letter]) ↔ t ∈ long.spellings stem
  rw [nfc_of_latin hlatin, nfd_concat_letter hstem hlong, LongVowel.spellings, List.mem_pair,
    List.append_assoc, List.singleton_append, or_self_left]

/-- A variant claims the spellings of a long vowel, and its base rule has the bare one. -/
theorem exists_of_mem_longVowelVariants (hkey : ∀ c ∈ rule.key, c.toNat < 0xC0) {variant : Rule}
    (hvariant : variant ∈ rule.longVowelVariants mark) (hclaims : variant.Claims .unicode t) :
    ∃ stem output stride?, ∃ long ∈ longVowels,
      rule = ⟨stem ++ [long.vowel], .literal output stride?⟩ ∧
      variant = ⟨stem ++ [long.letter], .literal (output ++ mark) stride?⟩ ∧
      t ∈ long.spellings stem := by
  obtain ⟨stem, output, stride?, long, hlong, rfl, rfl⟩ :=
    Kana.mem_longVowelVariants_iff.mp hvariant
  have hstem : ∀ c ∈ stem, c.toNat < 0xC0 := fun c hc => hkey c (List.mem_append_left _ hc)
  exact ⟨stem, output, stride?, long, hlong, rfl, rfl, (claims_letter_iff hstem hlong _).mp hclaims⟩

/-! ## Owners -/

theorem longVowelVariants_cons (rule : Rule) (set : RuleSet) (mark : Text) :
    longVowelVariants (rule :: set) mark =
      rule :: rule.longVowelVariants mark ++ set.longVowelVariants mark := rfl

theorem longVowelVariants_append (set later : RuleSet) (mark : Text) :
    longVowelVariants (set ++ later) mark =
      set.longVowelVariants mark ++ later.longVowelVariants mark :=
  List.flatMap_append

/-- Texts without long vowels keep their owners. -/
theorem owner?_longVowelVariants (hset : ∀ rule ∈ set, ∀ c ∈ rule.key, c.toNat < 0xC0)
    (mark : Text) (ht : ∀ c ∈ t, c.toNat < 0xC0) :
    owner? .unicode (set.longVowelVariants mark) t = owner? .unicode set t := by
  induction set with
  | nil => rfl
  | cons rule set ih =>
    obtain ⟨hkey, hset⟩ := List.forall_mem_cons.mp hset
    have hvariants : owner? .unicode (rule.longVowelVariants mark) t = none := by
      apply owner?_eq_none_iff.mpr
      intro variant hvariant hclaims
      obtain ⟨stem, -, -, long, hlong, -, -, hspelling⟩ :=
        exists_of_mem_longVowelVariants hkey hvariant hclaims
      obtain ⟨c, hc, hle⟩ := exists_le_of_mem_spellings hlong hspelling
      have hlt := ht c hc
      omega
    rw [longVowelVariants_cons, owner?_append, ih hset, owner?_cons, hvariants, Option.none_or,
      owner?_cons]

/-- Among the literal rules for a key one is the last. -/
theorem exists_lastLiteral {key : Text}
    (h : ∃ rule ∈ set, rule.isLiteral = true ∧ rule.key = key) :
    ∃ output stride?, set.LastLiteral key output stride? := by
  induction set with
  | nil => simp at h
  | cons first set ih =>
    by_cases hlater : ∃ rule ∈ set, rule.isLiteral = true ∧ rule.key = key
    · obtain ⟨output, stride?, before, after, rfl, hafter⟩ := ih hlater
      exact ⟨output, stride?, first :: before, after, rfl, hafter⟩
    · obtain ⟨rule, hrule, hliteral, rfl⟩ := h
      rcases List.mem_cons.mp hrule with rfl | hrule
      · obtain ⟨key, action⟩ := rule
        cases action with
        | literal output stride? =>
          refine ⟨output, stride?, [], set, rfl, fun later hmem hliteral heq => ?_⟩
          exact hlater ⟨later, hmem, hliteral, heq⟩
        | computed => simp [Rule.isLiteral] at hliteral
      · exact absurd ⟨rule, hrule, hliteral, rfl⟩ hlater

/-- A rule without long vowels in its key claims no spelling of one, and its variants only if it is
the literal rule for the bare vowel. -/
theorem eq_of_claims_spelling (hkey : ∀ c ∈ rule.key, c.toNat < 0xC0) (hlong : long ∈ longVowels)
    (ht : t ∈ long.spellings stem) {variant : Rule}
    (hvariant : variant ∈ rule :: rule.longVowelVariants mark)
    (hclaims : variant.Claims .unicode t) :
    ∃ output stride?, rule = ⟨stem ++ [long.vowel], .literal output stride?⟩ ∧
      variant = ⟨stem ++ [long.letter], .literal (output ++ mark) stride?⟩ := by
  rcases List.mem_cons.mp hvariant with rfl | hvariant
  · obtain ⟨c, hc, hle⟩ := exists_le_of_mem_spellings hlong ht
    rw [claims_iff_of_lt hkey] at hclaims
    have hlt := hkey c (hclaims ▸ hc)
    omega
  · obtain ⟨stem', output, stride?, long', hlong', hrule, heq, ht'⟩ :=
      exists_of_mem_longVowelVariants hkey hvariant hclaims
    obtain ⟨rfl, rfl⟩ := eq_of_mem_spellings hlong hlong' ht ht'
    exact ⟨output, stride?, hrule, heq⟩

/-- The variants of the last literal rule own both spellings. -/
theorem owner?_spelling (hset : ∀ rule ∈ set, ∀ c ∈ rule.key, c.toNat < 0xC0)
    (hlong : long ∈ longVowels) (ht : t ∈ long.spellings stem) {output : Text}
    {stride? : Option Stride} (hlast : set.LastLiteral (stem ++ [long.vowel]) output stride?)
    (mark : Text) :
    owner? .unicode (set.longVowelVariants mark) t =
      some ⟨stem ++ [long.letter], .literal (output ++ mark) stride?⟩ := by
  obtain ⟨before, after, rfl, hafter⟩ := hlast
  obtain ⟨-, hbase, hlater⟩ := List.forall_mem_append.mp hset |>.imp_right List.forall_mem_cons.mp
  -- behind the last literal rule nothing claims the spelling, and the rules before it do not matter
  have hnone : owner? .unicode (longVowelVariants after mark) t = none := by
    apply owner?_eq_none_iff.mpr
    intro variant hvariant hclaims
    obtain ⟨later, hmem, hvariant⟩ := List.mem_flatMap.mp hvariant
    obtain ⟨_, _, rfl, -⟩ :=
      eq_of_claims_spelling (hlater later hmem) hlong ht hvariant hclaims
    exact hafter _ hmem rfl rfl
  have hvariants : owner? .unicode (⟨stem ++ [long.vowel], .literal output stride?⟩ ::
      Rule.longVowelVariants ⟨stem ++ [long.vowel], .literal output stride?⟩ mark) t =
        some ⟨stem ++ [long.letter], .literal (output ++ mark) stride?⟩ := by
    apply owner?_eq_some_of_unique
    · apply List.mem_cons_of_mem
      exact Kana.mem_longVowelVariants_iff.mpr ⟨stem, output, stride?, long, hlong, rfl, rfl⟩
    · refine (claims_letter_iff (fun c hc => ?_) hlong _).mpr ht
      exact hbase c (List.mem_append_left _ hc)
    · intro variant hvariant hclaims
      obtain ⟨_, _, hrule, rfl⟩ := eq_of_claims_spelling hbase hlong ht hvariant hclaims
      cases hrule
      rfl
  rw [longVowelVariants_append, longVowelVariants_cons, owner?_append, owner?_append, hnone,
    Option.none_or, hvariants, Option.some_or]

/-- The index of a set of keys below U+00C0 with the variants for long vowels. Every key of the set
has the owner that it has without the variants. Every spelling of a key with a long vowel at the end
is owned by the variant of the last literal rule for the bare vowel. There are no other keys. -/
theorem index_longVowelVariants (set : RuleSet) (mark : Text)
    (hset : ∀ rule ∈ set, ∀ c ∈ rule.key, c.toNat < 0xC0) :
    (∀ rule ∈ set, (Index.ofRules .unicode (set.longVowelVariants mark)).get? rule.key =
      (Index.ofRules .unicode set).get? rule.key) ∧
    (∀ stem, ∀ long ∈ longVowels,
      (∃ rule ∈ set, rule.isLiteral = true ∧ rule.key = stem ++ [long.vowel]) →
      ∃ output stride?, set.LastLiteral (stem ++ [long.vowel]) output stride? ∧
        ∀ t ∈ long.spellings stem,
          (Index.ofRules .unicode (set.longVowelVariants mark)).get? t =
            some ⟨stem ++ [long.letter], .literal (output ++ mark) stride?⟩) ∧
    ∀ t, t ∈ (Index.ofRules .unicode (set.longVowelVariants mark)).keys ↔
      (∃ rule ∈ set, rule.key = t) ∨
      ∃ stem, ∃ long ∈ longVowels,
        (∃ rule ∈ set, rule.isLiteral = true ∧ rule.key = stem ++ [long.vowel]) ∧
          t ∈ long.spellings stem := by
  refine ⟨fun rule hrule => ?_, fun stem long hlong hliteral => ?_, fun t => ?_⟩
  · rw [Index.get?_ofRules, Index.get?_ofRules,
      owner?_longVowelVariants hset mark (hset rule hrule)]
  · obtain ⟨output, stride?, hlast⟩ := exists_lastLiteral hliteral
    refine ⟨output, stride?, hlast, fun t ht => ?_⟩
    rw [Index.get?_ofRules, owner?_spelling hset hlong ht hlast mark]
  · rw [Index.mem_keys_ofRules]
    constructor
    · rintro ⟨variant, hvariant, hclaims⟩
      obtain ⟨rule, hrule, hvariant⟩ := List.mem_flatMap.mp hvariant
      rcases List.mem_cons.mp hvariant with rfl | hvariant
      · exact Or.inl ⟨variant, hrule, ((claims_iff_of_lt (hset variant hrule)).mp hclaims).symm⟩
      · obtain ⟨stem, output, stride?, long, hlong, rfl, -, ht⟩ :=
          exists_of_mem_longVowelVariants (hset rule hrule) hvariant hclaims
        exact Or.inr ⟨stem, long, hlong, ⟨_, hrule, rfl, rfl⟩, ht⟩
    · rintro (⟨rule, hrule, rfl⟩ | ⟨stem, long, hlong, hliteral, ht⟩)
      · exact ⟨rule, List.mem_flatMap.mpr ⟨rule, hrule, List.mem_cons_self⟩, Or.inl rfl⟩
      · obtain ⟨output, stride?, hlast⟩ := exists_lastLiteral hliteral
        exact ⟨_, mem_of_owner? (owner?_spelling hset hlong ht hlast mark)⟩

/-- The last literal rule is not the last rule for its key. -/
theorem index_longVowelVariants_ka :
    let set : RuleSet := [.literal ['k', 'a'] ['か'], .literalWithLength ['k', 'a'] ['カ'] 1,
      .computed ['k', 'a'] fun _ => .reject]
    (∀ rule ∈ set, ∀ c ∈ rule.key, c.toNat < 0xC0) ∧
      (Index.ofRules .unicode (set.longVowelVariants ['ー'])).get? ['k', 'a', '\u0304'] =
        some ⟨['k', 'ā'], .literal ['カ', 'ー'] (some (.ofNat 1))⟩ := by
  intro set
  have hset : ∀ rule ∈ set, ∀ c ∈ rule.key, c.toNat < 0xC0 := by decide
  obtain ⟨-, hspellings, -⟩ := index_longVowelVariants set ['ー'] hset
  obtain ⟨output, stride?, ⟨before, after, heq, hafter⟩, howner⟩ :=
    hspellings ['k'] ⟨'ā', 'a', '\u0304'⟩ (by decide) ⟨_, List.mem_cons_self, rfl, rfl⟩
  have hlast : output = ['カ'] ∧ stride? = some (.ofNat 1) := by
    dsimp only [set] at heq
    rcases before with _ | ⟨_, _ | ⟨_, _ | ⟨_, before⟩⟩⟩
    · obtain ⟨-, rfl⟩ := List.cons.inj heq
      exact absurd rfl (hafter _ List.mem_cons_self rfl)
    · cases heq
      exact ⟨rfl, rfl⟩
    · cases heq
    · simp at heq
  refine ⟨hset, ?_⟩
  rw [howner _ (by decide), hlast.1, hlast.2]
  rfl

/-! ## Variants of variants -/

/-- The keys of the variants do not depend on the mark. -/
theorem map_key_longVowelVariants (rule : Rule) (mark mark' : Text) :
    (rule.longVowelVariants mark).map Rule.key = (rule.longVowelVariants mark').map Rule.key := by
  unfold Rule.longVowelVariants
  split <;> rfl

/-- A variant ends in a long vowel, and so has no variants of its own. -/
theorem longVowelVariants_of_mem {variant : Rule} (h : variant ∈ rule.longVowelVariants mark)
    (mark' : Text) : variant.longVowelVariants mark' = [] := by
  rw [List.eq_nil_iff_forall_not_mem]
  intro next hnext
  obtain ⟨stem, output, stride?, long, hlong, -, rfl⟩ := Kana.mem_longVowelVariants_iff.mp h
  obtain ⟨stem', output', stride?', long', hlong', hvariant, -⟩ :=
    Kana.mem_longVowelVariants_iff.mp hnext
  obtain ⟨-, hends⟩ := List.append_inj' ((Rule.mk.injEq ..).mp hvariant).1 rfl
  obtain ⟨hletter, -, -, -⟩ := LongVowel.bounds long hlong
  obtain ⟨-, -, hvowel, -⟩ := LongVowel.bounds long' hlong'
  rw [(List.cons.inj hends).1] at hletter
  omega

/-- Variants have no variants, so that a pass over them changes nothing. -/
theorem longVowelVariants_variants (rule : Rule) (mark mark' : Text) :
    longVowelVariants (rule.longVowelVariants mark) mark' = rule.longVowelVariants mark := by
  calc longVowelVariants (rule.longVowelVariants mark) mark'
      = (rule.longVowelVariants mark).flatMap fun variant => [variant] :=
        List.flatMap_congr fun variant hvariant => by rw [longVowelVariants_of_mem hvariant]
    _ = rule.longVowelVariants mark := List.flatMap_singleton' _

/-- In a second pass a rule gets variants once more, and those of the first pass stand behind
them. -/
theorem longVowelVariants_twice_cons (rule : Rule) (set : RuleSet) (mark mark' : Text) :
    longVowelVariants (longVowelVariants (rule :: set) mark) mark' =
      rule :: (rule.longVowelVariants mark' ++ rule.longVowelVariants mark) ++
        (set.longVowelVariants mark).longVowelVariants mark' := by
  rw [longVowelVariants_cons, longVowelVariants_append, longVowelVariants_cons,
    longVowelVariants_variants, List.cons_append]

/-- The variants of a second pass own nothing, because those of the first pass have the same keys
and stand behind them. -/
theorem agree_longVowelVariants (normalizer : Normalizer) (set : RuleSet) (mark mark' : Text) :
    Agree normalizer ((set.longVowelVariants mark).longVowelVariants mark')
      (set.longVowelVariants mark) := by
  intro t
  induction set with
  | nil => rfl
  | cons rule set ih =>
    have hvariants : owner? normalizer (rule.longVowelVariants mark' ++ rule.longVowelVariants mark)
        t = owner? normalizer (rule.longVowelVariants mark) t := by
      apply owner?_append_of_claimed
      intro variant hvariant hclaims
      have hkey : variant.key ∈ (rule.longVowelVariants mark).map Rule.key := by
        rw [map_key_longVowelVariants rule mark mark']
        exact List.mem_map_of_mem hvariant
      obtain ⟨other, hother, hsame⟩ := List.mem_map.mp hkey
      exact ⟨other, hother, (Rule.claims_congr hsame).mpr hclaims⟩
    rw [longVowelVariants_twice_cons, longVowelVariants_cons, owner?_append, owner?_append, ih,
      owner?_cons, owner?_cons, hvariants]

/-- A second pass adds no keys. -/
theorem mem_map_key_longVowelVariants_twice {key : Text} :
    key ∈ ((set.longVowelVariants mark).longVowelVariants mark').map Rule.key ↔
      key ∈ (set.longVowelVariants mark).map Rule.key := by
  induction set with
  | nil => rfl
  | cons rule set ih =>
    rw [longVowelVariants_twice_cons, longVowelVariants_cons]
    simp only [List.map_append, List.map_cons, List.mem_append, List.mem_cons, ih,
      map_key_longVowelVariants rule mark' mark, or_self]

/-- Giving a set the variants for long vowels a second time changes nothing in its index, whichever
mark the second pass writes. The keys and their number, the number of rules that are kept and the
bounds of all scans stay, and every text is owned by the same rule. -/
theorem index_longVowelVariants_twice (normalizer : Normalizer) (set : RuleSet)
    (mark mark' : Text) :
    let once := Index.ofRules normalizer (set.longVowelVariants mark)
    let twice := Index.ofRules normalizer ((set.longVowelVariants mark).longVowelVariants mark')
    (∀ t, t ∈ twice.keys ↔ t ∈ once.keys) ∧ twice.ruleCount = once.ruleCount ∧
      (∀ c, twice.maxKeyLength? c = once.maxKeyLength? c) ∧ ∀ t, twice.get? t = once.get? t := by
  have hagree := agree_longVowelVariants normalizer set mark mark'
  refine ⟨hagree.mem_keys_iff, ?_, hagree.maxKeyLength?_eq, hagree.get?_eq⟩
  rw [Index.ruleCount_ofRules, Index.ruleCount_ofRules]
  congr 1
  ext key
  rw [List.mem_toFinset, List.mem_toFinset, mem_map_key_longVowelVariants_twice]

end RuleSet

end Syllabary
