import Syllabary.Proofs.LatinText
import Syllabary.Proofs.Longest

/-!
# A letter twice

Where a small letter of ASCII stands twice, in any letter case, an index may know the pair and
nothing longer that begins with it (`Index.FindsPair`). Then the pair decides about the step if its
rule accepts, and if the rule refuses, the first of the two characters does by itself.

## Main statements

* `Index.findsPair_of_get?`: what the keys have to satisfy for the pair to be all that is found.
* `Index.FindsPair.decides`, `Index.FindsPair.decides_of_refused`: which front part decides.
-/

namespace Syllabary

open Unicode
open scoped Text

variable {letter c first second : Char} {rule single : Rule} {t : Text}

/-! ## Letters in either case -/

/-- The character is the letter in either case: it stands below U+00C0 and folds to the letter. -/
structure IsCasing (letter c : Char) : Prop where
  lt : c.toNat < 0xC0
  fold : foldChar c = letter

theorem IsCasing.toLower_eq (h : IsCasing letter c) : c.toLower = letter := by
  rw [← foldChar_eq_toLower h.lt, h.fold]

/-- The small letters of ASCII. -/
def smallLetters : Text := (List.range 26).map fun n => Char.ofNat (0x61 + n)

theorem mem_smallLetters_of_isLower (h : letter.isLower = true) : letter ∈ smallLetters := by
  obtain ⟨hfirst, hlast⟩ := Bool.and_eq_true_iff.mp h
  have hlow : 0x61 ≤ letter.toNat := of_decide_eq_true hfirst
  have hhigh : letter.toNat ≤ 0x7A := of_decide_eq_true hlast
  refine List.mem_map.mpr ⟨letter.toNat - 0x61, List.mem_range.mpr (by omega), ?_⟩
  rw [Nat.add_sub_cancel' hlow, Char.ofNat_toNat]

theorem isCasing_of_isLower (h : letter.isLower = true) (hc : c = letter ∨ c = letter.toUpper) :
    IsCasing letter c := by
  have hletters : ∀ letter ∈ smallLetters, ∀ c ∈ [letter, letter.toUpper],
      c.toNat < 0xC0 ∧ foldChar c = letter := by
    decide +kernel
  obtain ⟨hlt, hfold⟩ :=
    hletters letter (mem_smallLetters_of_isLower h) c (List.mem_pair.mpr hc)
  exact ⟨hlt, hfold⟩

theorem lowercase_casing (hc : IsCasing letter c) : lowercase [c] = [letter] := by
  rw [lowercase_of_latin (List.forall_mem_singleton.mpr (Or.inl hc.lt)), List.map_singleton,
    hc.fold]

theorem lowercase_pair (hfirst : IsCasing letter first) (hsecond : IsCasing letter second) :
    lowercase [first, second] = [letter, letter] := by
  rw [lowercase_of_latin (by simp [IsLatin, hfirst.lt, hsecond.lt]), List.map_cons,
    List.map_singleton, hfirst.fold, hsecond.fold]

/-- The lowercase of a text that begins with a letter twice. -/
theorem exists_lowercase_pair (hfirst : IsCasing letter first) (hsecond : IsCasing letter second)
    (t : Text) :
    ∃ back, lowercase (first :: second :: t) = letter :: letter :: back ∧
      t.length ≤ back.length := by
  have hpair : ∀ c ∈ [first, second], c.toNat < 0xC0 := by simp [hfirst.lt, hsecond.lt]
  obtain ⟨back, hback, hlength⟩ := exists_lowercase_append hpair t
  refine ⟨back, ?_, hlength⟩
  simpa [hfirst.fold, hsecond.fold] using hback

namespace Index

/-! ## Pairs -/

/-- Of the texts that begin with a letter twice, in either case, only the pair itself is found. -/
structure FindsPair (index : Index) (letter : Char) (rule : Rule) : Prop where
  pair : ∀ {first second : Char}, IsCasing letter first → IsCasing letter second →
    index.lookup? [first, second] = some rule
  longer : ∀ {first second : Char} {t : Text}, IsCasing letter first → IsCasing letter second →
    t ≠ [] → index.lookup? (first :: second :: t) = none

/-- The pair is all that is found, if it is found at all and nothing else is. -/
theorem findsPair_of_lookup? {index : Index}
    (hpair : ∀ {first second : Char}, IsCasing letter first → IsCasing letter second →
      ∃ found, index.lookup? [first, second] = some found)
    (hfound : ∀ {first second : Char} {t : Text} {found : Rule}, IsCasing letter first →
      IsCasing letter second → index.lookup? (first :: second :: t) = some found →
        found = rule ∧ t = []) :
    index.FindsPair letter rule := by
  constructor
  · intro first second hfirst hsecond
    obtain ⟨found, hlooked⟩ := hpair hfirst hsecond
    rw [hlooked, (hfound hfirst hsecond hlooked).1]
  · intro first second t hfirst hsecond ht
    rw [Option.eq_none_iff_forall_ne_some]
    intro found hlooked
    exact ht (hfound hfirst hsecond hlooked).2

/-- A pair is all that is found, if its small letters are the only key that begins with the letter
twice in any case. -/
theorem findsPair_of_get? {normalizer : Normalizer} {set : RuleSet}
    (hletter : letter.isLower = true)
    (hget : (ofRules normalizer set).get? [letter, letter] = some rule)
    (hkeys : ∀ key ∈ (ofRules normalizer set).keys,
      [letter, letter] <+: key.map Char.toLower → key = [letter, letter]) :
    (ofRules normalizer set).FindsPair letter rule := by
  have hsmall := isCasing_of_isLower hletter (Or.inl rfl)
  have hkey {first second : Char} {t : Text} (hfirst : IsCasing letter first)
      (hsecond : IsCasing letter second)
      (hmem : first :: second :: t ∈ (ofRules normalizer set).keys) :
      first :: second :: t = [letter, letter] := by
    apply hkeys _ hmem
    rw [List.map_cons, List.map_cons, hfirst.toLower_eq, hsecond.toLower_eq]
    exact List.prefix_append [letter, letter] _
  constructor
  · intro first second hfirst hsecond
    exact lookup?_of_lowercase hget (lowercase_pair hfirst hsecond) (hkey hfirst hsecond)
  · intro first second t hfirst hsecond ht
    have hpos := List.length_pos_iff.mpr ht
    obtain ⟨back, hback, hlength⟩ := exists_lowercase_pair hfirst hsecond t
    rw [lookup?_eq_or, hback, Option.or_eq_none_iff, Option.eq_none_iff_forall_ne_some,
      Option.eq_none_iff_forall_ne_some]
    constructor
    · intro rule hrule
      have hwhole := hkey hfirst hsecond (mem_keys_of_get? hrule)
      exact ht (List.cons.inj (List.cons.inj hwhole).2).2
    · intro rule hrule
      have hwhole := congrArg List.length (hkey hsmall hsmall (mem_keys_of_get? hrule))
      simp only [List.length_cons, List.length_nil] at hwhole
      omega

namespace FindsPair

variable {index : Index} {context : Context} {step : Step}

theorem attempt_longer (h : index.FindsPair letter rule) (hfirst : IsCasing letter first)
    (hsecond : IsCasing letter second) (input : Text) {s : Text} (hs : s ≠ []) :
    index.attempt context input (first :: second :: s) = none := by
  rw [attempt, h.longer hfirst hsecond hs, Option.bind_none]

/-- A pair that is accepted decides. -/
theorem decides (h : index.FindsPair letter rule) (hfirst : IsCasing letter first)
    (hsecond : IsCasing letter second)
    (hperform : rule.perform? index.view context (first :: second :: t) [first, second] =
      some step) :
    index.Decides context (first :: second :: t) [first, second] step := by
  apply decides_pair
  · rw [attempt, h.pair hfirst hsecond, Option.bind_some, hperform]
  · exact fun s hs => h.attempt_longer hfirst hsecond _ hs

/-- Where the pair is refused, its first character decides. -/
theorem decides_of_refused (h : index.FindsPair letter rule) (hfirst : IsCasing letter first)
    (hsecond : IsCasing letter second)
    (hrefused : rule.perform? index.view context (first :: second :: t) [first, second] = none)
    (hsingle : index.lookup? [first] = some single)
    (hperform : single.perform? index.view context (first :: second :: t) [first] = some step) :
    index.Decides context (first :: second :: t) [first] step := by
  apply decides_head
  · rw [attempt, hsingle, Option.bind_some, hperform]
  · rw [attempt, h.pair hfirst hsecond, Option.bind_some, hrefused]
  · exact fun s hs => h.attempt_longer hfirst hsecond _ hs

end FindsPair

end Index

end Syllabary
