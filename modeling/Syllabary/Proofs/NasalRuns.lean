import Mathlib.Algebra.Ring.Parity
import Mathlib.Data.List.Induction
import Syllabary.Proofs.LetterCase
import Syllabary.Proofs.LetterRuns

/-!
# Runs of a nasal

A nasal stands by itself or doubled, and both spellings are written as one syllabic nasal, unless an
onset follows the doubled one. A run of a nasal is thus read in pairs. An onset never begins with a
nasal, so that inside the run every pair is taken, and only the pair at the end of the run can be
refused, where the first nasal is then read alone. In the end every two characters have written one
nasal. A character is left over if their number is odd, or if an onset follows.

What follows is compared with the full lowercase of an onset, character by character and folded.
This finds the onset in any letter case, unless it holds U+0130 or a capital sigma that ends its
word.

## Main statements

* `Index.stretch_nasals`: the steps over a run of a nasal.
* `startsWithFolded_lowercase_iff`: where the lowercase of an onset is found as the onset itself.
-/

namespace Syllabary

open Unicode
open scoped Text

/-! ## Onsets -/

/-- Only the two cases of the nasal fold to it. -/
theorem eq_nasal_of_foldChar {c : Char} (h : foldChar c = 'n') : c = 'n' ∨ c = 'N' := by
  have hrows : ∀ point ∈ lowercasePoints, point.2 = 0x6E → point.1 = 0x4E := by decide +kernel
  by_cases hne : 'n' = c
  · exact Or.inl hne.symm
  · right
    have hcode : c.toNat = 0x4E := hrows _ (mem_lowercasePoints_of_foldChar h hne) rfl
    rw [← Char.ofNat_toNat c, hcode]

/-- An onset opens a syllable behind a nasal, and begins with another letter. -/
def IsOnset (onset : Text) : Prop :=
  onset ≠ [] ∧ onset.head? ≠ some 'n' ∧ onset.head? ≠ some 'N'

instance (onset : Text) : Decidable (IsOnset onset) := inferInstanceAs (Decidable (_ ∧ _))

/-- An onset follows, as the rule for the doubled nasal looks for it. -/
def FollowsOnset (onsets : List Text) (t : Text) : Prop :=
  ∃ onset ∈ onsets, startsWithFolded t (lowercase onset) = true

instance (onsets : List Text) (t : Text) : Decidable (FollowsOnset onsets t) :=
  inferInstanceAs (Decidable (∃ onset ∈ onsets, startsWithFolded t (lowercase onset) = true))

/-- No onset is found where a nasal goes on. -/
theorem not_startsWithFolded_nasal {c : Char} {onset t : Text} (hc : foldChar c = 'n')
    (honset : IsOnset onset) : ¬ startsWithFolded (c :: t) (lowercase onset) = true := by
  obtain ⟨hne, hsmall, hcapital⟩ := honset
  obtain ⟨d, s, rfl⟩ := List.exists_cons_of_ne_nil hne
  obtain ⟨back, hback⟩ := List.head?_eq_some_iff.mp (head?_lowercase d s)
  rw [startsWithFolded_iff, hback, List.map_cons, List.map_cons, List.cons_prefix_cons,
    foldChar_foldChar, hc]
  rintro ⟨hd, -⟩
  rcases eq_nasal_of_foldChar hd with rfl | rfl
  · exact hsmall rfl
  · exact hcapital rfl

/-- The lowercase of an onset is found where the onset is, in any letter case, unless the two differ
in more than the case of single characters. -/
theorem startsWithFolded_lowercase_iff {onset : Text} (hdotted : 'İ' ∉ onset)
    (hsigma : ¬ HasFinalSigma [] onset) (t : Text) :
    startsWithFolded t (lowercase onset) = true ↔ startsWithFolded t onset = true := by
  have hfold : (lowercase onset).map foldChar = onset.map foldChar := by
    rw [lowercase_eq_map_iff.mpr ⟨hdotted, hsigma⟩, List.map_map]
    apply List.map_congr_left
    intro c _
    rw [Function.comp_apply, foldChar_foldChar]
  rw [startsWithFolded_iff, startsWithFolded_iff, hfold]

namespace Index

variable {normalizer : Normalizer} {set : RuleSet} {key nasal w x : Text} {onsets : List Text}
  {first second : Char}

/-! ## Steps -/

theorem isLower_n : 'n'.isLower = true := by decide

/-- A single nasal is found in either case, if no key begins with the capital letter. -/
theorem lookup?_single {rule : Rule} (hget : (ofRules normalizer set).get? ['n'] = some rule)
    (hupper : ∀ key ∈ (ofRules normalizer set).keys, key.head? ≠ some 'N')
    (hfirst : first = 'n' ∨ first = 'n'.toUpper) :
    (ofRules normalizer set).lookup? [first] = some rule :=
  lookup?_casing hget (fun hmem => hupper _ hmem rfl) isLower_n hfirst

/-- Two nasals that no onset follows are read as one. -/
theorem step_nasals_of_no_onset
    (hpair : (ofRules normalizer set).FindsPair 'n' (.syllabicNasal ['n', 'n'] nasal onsets))
    (hfirst : IsCasing 'n' first) (hsecond : IsCasing 'n' second)
    (hw : ¬ FollowsOnset onsets w) (context : Context) :
    (ofRules normalizer set).step context (first :: second :: w) =
      .accept (first :: second :: w) [first, second] nasal 2 none := by
  apply step_eq_of_decides
  apply hpair.decides hfirst hsecond
  rw [Kana.perform?_syllabicNasal (List.cons_ne_nil first [second]), if_neg]
  · rfl
  · exact hw

/-- Before an onset the first of two nasals is read alone. -/
theorem step_nasals_of_onset
    (hpair : (ofRules normalizer set).FindsPair 'n' (.syllabicNasal ['n', 'n'] nasal onsets))
    (hsingle : (ofRules normalizer set).lookup? [first] = some ⟨key, .literal nasal none⟩)
    (hfirst : IsCasing 'n' first) (hsecond : IsCasing 'n' second)
    (hw : FollowsOnset onsets w) (context : Context) :
    (ofRules normalizer set).step context (first :: second :: w) =
      .accept (first :: second :: w) [first] nasal 1 none := by
  apply step_eq_of_decides
  apply hpair.decides_of_refused hfirst hsecond _ hsingle
  · rfl
  · rw [Kana.perform?_syllabicNasal (List.cons_ne_nil first [second]), if_pos]
    exact hw

/-! ## Runs -/

/-- The steps over a run of a nasal write one nasal for every two characters. They leave the text
behind the run, if the characters make up pairs and no onset follows, and else this text with the
last character of the run before it. -/
theorem stretch_nasals
    (hpair : (ofRules normalizer set).FindsPair 'n' (.syllabicNasal ['n', 'n'] nasal onsets))
    (hsingle : ∀ first, first = 'n' ∨ first = 'n'.toUpper →
      (ofRules normalizer set).lookup? [first] = some ⟨key, .literal nasal none⟩)
    (honsets : ∀ onset ∈ onsets, IsOnset onset) (hx : IsRun 'n' x) {rest : Text}
    (hrest : rest = if Even x.length ∧ ¬ FollowsOnset onsets w then w
      else x.getLast hx.ne_nil :: w) (context : Context) :
    ∃ first last, (ofRules normalizer set).Stretch ⟨context, x ++ w⟩ first ⟨last, rest⟩ ∧
      first.map Step.output = List.replicate (x.length / 2) nasal := by
  -- the run is read in pairs from the front, in the contexts that the pairs leave behind
  induction x using List.twoStepInduction generalizing context with
  | nil => exact absurd rfl hx.ne_nil
  | singleton c =>
    -- one character is never a pair
    rw [if_neg fun h => Nat.not_even_one h.1] at hrest
    rw [hrest]
    exact ⟨[], context, .refl _, by simp⟩
  | cons_cons c d x ih _ =>
    have hc := hx.isCasing isLower_n c List.mem_cons_self
    have hd := hx.isCasing isLower_n d (List.mem_cons_of_mem c List.mem_cons_self)
    have hne (t : Text) : c :: d :: t ≠ [] := List.cons_ne_nil c (d :: t)
    cases x with
    | nil =>
      by_cases hw : FollowsOnset onsets w
      · have hstep := step_nasals_of_onset hpair (hsingle c (hx.casing c List.mem_cons_self)) hc hd
          hw context
        rw [if_neg fun h => h.2 hw] at hrest
        rw [hrest]
        exact ⟨_, _, .accept (hne w) hstep (.refl _), by simp [Step.accept]⟩
      · have hstep := step_nasals_of_no_onset hpair hc hd hw context
        rw [if_pos ⟨even_two, hw⟩] at hrest
        rw [hrest]
        exact ⟨_, _, .accept (hne w) hstep (.refl _), by simp [Step.accept]⟩
    | cons e x =>
      have htail : IsRun 'n' (e :: x) := hx.tail.tail
      have hfollowing : ¬ FollowsOnset onsets (e :: (x ++ w)) := by
        rintro ⟨onset, honset, hstarts⟩
        have he := htail.isCasing isLower_n e List.mem_cons_self
        exact not_startsWithFolded_nasal he.fold (honsets onset honset) hstarts
      have hstep := step_nasals_of_no_onset hpair hc hd hfollowing context
      obtain ⟨first, last, hstretch, houtput⟩ := ih htail
        (by simpa [parity_simps, List.getLast_cons_cons] using hrest)
        (Step.accept (c :: d :: e :: (x ++ w)) [c, d] nasal 2 none).context
      refine ⟨_, last, .accept (hne _) hstep hstretch, ?_⟩
      have hhalf : (c :: d :: e :: x).length / 2 = (e :: x).length / 2 + 1 := by
        simp only [List.length_cons]
        omega
      rw [List.map_cons, houtput, hhalf, List.replicate_succ]
      rfl

/-- A run of a nasal that is a key by itself and doubled, where no other key begins with two nasals
in any case or with the capital letter. It writes one nasal for every two characters, and leaves the
last one to what follows if their number is odd or an onset follows. That an onset follows means
that the text behind the run starts with it in any letter case, as long as no onset has U+0130 or a
capital sigma that ends its word. -/
theorem nasal_runs
    (hsingle : (ofRules normalizer set).get? ['n'] = some ⟨key, .literal nasal none⟩)
    (hdoubled : (ofRules normalizer set).get? ['n', 'n'] =
      some (.syllabicNasal ['n', 'n'] nasal onsets))
    (honsets : ∀ onset ∈ onsets, IsOnset onset)
    (hkeys : ∀ key ∈ (ofRules normalizer set).keys,
      ['n', 'n'] <+: key.map foldChar → key = ['n', 'n'])
    (hupper : ∀ key ∈ (ofRules normalizer set).keys, key.head? ≠ some 'N')
    (hx : IsRun 'n' x) (w : Text) (context : Context) :
    (∃ first last, (ofRules normalizer set).Stretch ⟨context, x ++ w⟩ first
        ⟨last, if Even x.length ∧ ¬ FollowsOnset onsets w then w
          else x.getLast hx.ne_nil :: w⟩ ∧
      first.map Step.output = List.replicate (x.length / 2) nasal) ∧
    ((∀ onset ∈ onsets, 'İ' ∉ onset ∧ ¬ HasFinalSigma [] onset) →
      (FollowsOnset onsets w ↔ ∃ onset ∈ onsets, startsWithFolded w onset = true)) := by
  constructor
  · have hpair : (ofRules normalizer set).FindsPair 'n'
        (.syllabicNasal ['n', 'n'] nasal onsets) := by
      refine findsPair_of_get? isLower_n hdoubled fun key hkey hprefix => hkeys key hkey ?_
      have hfold : ['n', 'n'].map foldChar = ['n', 'n'] := by
        rw [List.map_cons, List.map_singleton, (isCasing_of_isLower isLower_n (Or.inl rfl)).fold]
      rw [← hfold, ← map_foldChar_map_toLower key]
      exact hprefix.map foldChar
    exact stretch_nasals hpair (fun first => lookup?_single hsingle hupper) honsets hx rfl context
  · intro hregular
    refine exists_congr fun onset => and_congr_right fun honset => ?_
    obtain ⟨hdotted, hsigma⟩ := hregular onset honset
    exact startsWithFolded_lowercase_iff hdotted hsigma w

/-- Four nasals in mixed case before an onset in upper case. -/
theorem nasal_runs_nya :
    let index := ofRules .unicode [.literal ['n'] ['ン'],
      .syllabicNasal ['n', 'n'] ['ン'] [['a'], ['y', 'a']]]
    index.get? ['n'] = some (.literal ['n'] ['ン']) ∧
      index.get? ['n', 'n'] = some (.syllabicNasal ['n', 'n'] ['ン'] [['a'], ['y', 'a']]) ∧
      (∀ onset ∈ [['a'], ['y', 'a']], IsOnset onset) ∧
      (∀ key ∈ index.keys, ['n', 'n'] <+: key.map foldChar → key = ['n', 'n']) ∧
      (∀ key ∈ index.keys, key.head? ≠ some 'N') ∧ IsRun 'n' ['n', 'N', 'n', 'n'] ∧
      ∃ first last, index.Stretch ⟨.fresh, ['n', 'N', 'n', 'n'] ++ ['Y', 'A']⟩ first
          ⟨last, ['n', 'Y', 'A']⟩ ∧
        first.map Step.output = [['ン'], ['ン']] := by
  intro index
  have hsingle : index.get? ['n'] = some (.literal ['n'] ['ン']) := by
    rw [get?_ofRules]
    exact RuleSet.owner?_eq_some_iff.mpr
      ⟨[], _, rfl, Or.inl rfl, List.forall_mem_singleton.mpr (by decide +kernel)⟩
  have hdoubled : index.get? ['n', 'n'] =
      some (.syllabicNasal ['n', 'n'] ['ン'] [['a'], ['y', 'a']]) := by
    rw [get?_ofRules]
    exact RuleSet.owner?_eq_some_iff.mpr
      ⟨[.literal ['n'] ['ン']], [], rfl, Or.inl rfl, List.forall_mem_nil _⟩
  have honsets : ∀ onset ∈ [['a'], ['y', 'a']], IsOnset onset := by decide
  obtain ⟨hkeys, hupper⟩ :
      (∀ key ∈ index.keys, ['n', 'n'] <+: key.map foldChar → key = ['n', 'n']) ∧
        ∀ key ∈ index.keys, key.head? ≠ some 'N' := by
    decide +kernel
  have hx : IsRun 'n' ['n', 'N', 'n', 'n'] := ⟨by decide, by decide⟩
  have hfollows : FollowsOnset [['a'], ['y', 'a']] ['Y', 'A'] := by decide +kernel
  obtain ⟨⟨first, last, hstretch, houtput⟩, -⟩ :=
    nasal_runs hsingle hdoubled honsets hkeys hupper hx ['Y', 'A'] .fresh
  rw [if_neg fun h => h.2 hfollows] at hstretch
  exact ⟨hsingle, hdoubled, honsets, hkeys, hupper, hx, first, last, hstretch, houtput⟩

/-- The onset is U+0130, and it stands behind the doubled nasal as it is. The rule looks for its
lowercase, which has two characters, and takes both nasals. -/
theorem nasal_runs_without_onset :
    let index := ofRules .unicode [.literal ['n'] ['ン'],
      .syllabicNasal ['n', 'n'] ['ン'] [['İ']]]
    index.get? ['n'] = some (.literal ['n'] ['ン']) ∧
      index.get? ['n', 'n'] = some (.syllabicNasal ['n', 'n'] ['ン'] [['İ']]) ∧
      IsOnset ['İ'] ∧
      (∀ key ∈ index.keys, ['n', 'n'] <+: key.map foldChar → key = ['n', 'n']) ∧
      (∀ key ∈ index.keys, key.head? ≠ some 'N') ∧ IsRun 'n' ['n', 'n'] ∧
      firstFolded? ['İ'] ≠ some 'n' ∧ startsWithFolded ['İ'] ['İ'] = true ∧
      index.convert (['n', 'n'] ++ ['İ']) = ['ン', 'İ'] ∧
      ¬ ∃ first last, index.Stretch ⟨.fresh, ['n', 'n'] ++ ['İ']⟩ first ⟨last, ['n', 'İ']⟩ ∧
        first.map Step.output = [['ン']] := by
  intro index
  have hsingle : index.get? ['n'] = some (.literal ['n'] ['ン']) := by
    rw [get?_ofRules]
    exact RuleSet.owner?_eq_some_iff.mpr
      ⟨[], _, rfl, Or.inl rfl, List.forall_mem_singleton.mpr (by decide +kernel)⟩
  have hdoubled : index.get? ['n', 'n'] = some (.syllabicNasal ['n', 'n'] ['ン'] [['İ']]) := by
    rw [get?_ofRules]
    exact RuleSet.owner?_eq_some_iff.mpr
      ⟨[.literal ['n'] ['ン']], [], rfl, Or.inl rfl, List.forall_mem_nil _⟩
  obtain ⟨hkeys, hupper⟩ :
      (∀ key ∈ index.keys, ['n', 'n'] <+: key.map foldChar → key = ['n', 'n']) ∧
        ∀ key ∈ index.keys, key.head? ≠ some 'N' := by
    decide +kernel
  obtain ⟨hw, hstarts⟩ :
      firstFolded? ['İ'] ≠ some 'n' ∧ startsWithFolded ['İ'] ['İ'] = true := by
    decide +kernel
  obtain ⟨hconvert, hrest⟩ : index.convert (['n', 'n'] ++ ['İ']) = ['ン', 'İ'] ∧
      (Cursor.advance ⟨.fresh, ['n', 'n', 'İ']⟩ index).rest ≠ ['n', 'İ'] := by
    decide +kernel
  have hx : IsRun 'n' ['n', 'n'] := ⟨by decide, by decide⟩
  refine ⟨hsingle, hdoubled, by decide, hkeys, hupper, hx, hw, hstarts, hconvert, ?_⟩
  rintro ⟨first, last, hstretch, houtput⟩
  have hlength : first.length = 1 := by
    rw [← List.length_map Step.output, houtput]
    rfl
  exact hrest (congrArg Cursor.rest (hstretch.eq_advance hlength)).symm

end Index

end Syllabary
