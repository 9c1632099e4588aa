import Mathlib.Data.List.Forall2
import Syllabary.Proofs.Longest
import Syllabary.Scan.Cursor

/-!
# Scans in lockstep

Two scans that stand at texts of one length take steps of one kind as long as the front parts of
both texts find rules that correspond to each other. Then the same length decides, or both scans let
a character through. What is kept from cursor to cursor holds along the whole of both scans.

## Main statements

* `RuleSet.rel_owner?`: sets that are related rule by rule have related owners.
* `Index.takes_or_passes`: a step has its rule, or its first character passes through.
* `Index.takes_or_passes_of_counterparts`: where all front parts have counterparts, so has the step.
* `Index.forall₂_cursors`: what two steps keep, two scans keep.
-/

namespace Syllabary

/-- In two sets whose rules are related one by one and have the same keys, the owners of a text are
related. -/
theorem RuleSet.rel_owner? {R : Rule → Rule → Prop} {set other : RuleSet}
    (hkey : ∀ rule counterpart, R rule counterpart → rule.key = counterpart.key)
    (h : List.Forall₂ R set other) (normalizer : Normalizer) (t : Text) :
    Option.Rel R (set.owner? normalizer t) (other.owner? normalizer t) := by
  induction h with
  | nil => exact .none
  | @cons rule counterpart set other hrule _ ih =>
    rw [owner?_cons, owner?_cons]
    generalize owner? normalizer set t = later? at ih
    generalize owner? normalizer other t = other? at ih
    cases ih with
    | some hlater => exact .some hlater
    | none =>
      rw [Option.none_or, Option.none_or]
      by_cases hclaims : rule.Claims normalizer t
      · rw [if_pos hclaims, if_pos ((Rule.claims_congr (hkey _ _ hrule)).mp hclaims)]
        exact .some hrule
      · rw [if_neg hclaims, if_neg (mt (Rule.claims_congr (hkey _ _ hrule)).mpr hclaims)]
        exact .none

namespace Index

/-- The rule that takes the step at a cursor, with the front part of the rest that it is found
for. -/
structure Takes (index : Index) (cursor : Cursor) (front : Text) (rule : Rule) : Prop where
  decides : index.Decides cursor.context cursor.rest front (cursor.next index)
  looked : index.lookup? front = some rule
  performed : rule.perform? index.view cursor.context cursor.rest front = some (cursor.next index)

/-- No front part of the rest is accepted, so that its first character passes through. -/
structure Passes (index : Index) (cursor : Cursor) (c : Char) : Prop where
  first : cursor.rest.head? = some c
  refused : ∀ front, front ≠ [] → front <+: cursor.rest →
    index.attempt cursor.context cursor.rest front = none
  next_eq : cursor.next index = .passThrough c

/-- Whether two lookups find rules that `R` relates and that do, at two cursors, what `Q` relates,
or find nothing both. -/
def Counterparts (index other : Index) (R : Rule → Rule → Prop) (Q : Step → Step → Prop)
    (a b : Cursor) (front behind : Text) : Prop :=
  Option.Rel
    (fun rule counterpart => R rule counterpart ∧
      Option.Rel Q (rule.perform? index.view a.context a.rest front)
        (counterpart.perform? other.view b.context b.rest behind))
    (index.lookup? front) (other.lookup? behind)

variable {index other : Index} {R : Rule → Rule → Prop} {Q : Step → Step → Prop} {a b : Cursor}
  {front behind : Text}

/-! ## Counterparts -/

/-- What corresponds to a refused front part is refused. -/
theorem Counterparts.attempt_eq_none (h : Counterparts index other R Q a b front behind)
    (hnone : index.attempt a.context a.rest front = none) :
    other.attempt b.context b.rest behind = none := by
  unfold Counterparts at h
  unfold Index.attempt at hnone ⊢
  cases hrule : index.lookup? front with
  | none =>
    cases hcounterpart : other.lookup? behind with
    | none => rfl
    | some counterpart => simp [hrule, hcounterpart] at h
  | some rule =>
    rw [hrule, Option.bind_some] at hnone
    cases hcounterpart : other.lookup? behind with
    | none => rfl
    | some counterpart =>
      rw [hrule, hcounterpart, Option.rel_some_some, hnone] at h
      cases hperform : counterpart.perform? other.view b.context b.rest behind with
      | none => exact hperform
      | some step => simp [hperform] at h

/-- A rule that applies has a counterpart that applies. -/
theorem Counterparts.exists_performed {rule : Rule} {step : Step}
    (h : Counterparts index other R Q a b front behind) (hlooked : index.lookup? front = some rule)
    (hperformed : rule.perform? index.view a.context a.rest front = some step) :
    ∃ counterpart step', R rule counterpart ∧ other.lookup? behind = some counterpart ∧
      counterpart.perform? other.view b.context b.rest behind = some step' ∧ Q step step' := by
  unfold Counterparts at h
  cases hcounterpart : other.lookup? behind with
  | none => simp [hlooked, hcounterpart] at h
  | some counterpart =>
    rw [hlooked, hcounterpart, Option.rel_some_some, hperformed] at h
    cases hperform : counterpart.perform? other.view b.context b.rest behind with
    | none => simp [hperform] at h
    | some step' =>
      rw [hperform, Option.rel_some_some] at h
      exact ⟨counterpart, step', h.1, rfl, hperform, h.2⟩

/-! ## Steps -/

section

variable {normalizer normalizer' : Normalizer} {set set' : RuleSet}

/-- A step has its rule, or its first character passes through. -/
theorem takes_or_passes (normalizer : Normalizer) (set : RuleSet) {a : Cursor}
    (hrest : a.rest ≠ []) :
    (∃ front rule, (ofRules normalizer set).Takes a front rule) ∨
      ∃ c, (ofRules normalizer set).Passes a c := by
  obtain ⟨context, rest⟩ := a
  obtain ⟨c, t, rfl⟩ := List.exists_cons_of_ne_nil hrest
  rcases exists_decides_or_passThrough normalizer set context c t with
    ⟨front, hdecides⟩ | ⟨hrefused, hpass⟩
  · obtain ⟨rule, hlooked, hperformed⟩ := Option.bind_eq_some_iff.mp hdecides.accepted
    exact Or.inl ⟨front, rule, hdecides, hlooked, hperformed⟩
  · exact Or.inr ⟨c, rfl, hrefused, hpass⟩

/-- The counterpart of the rule that takes a step takes the step on a text of the same length. -/
theorem Takes.exists_counterpart {k : Nat} {rule : Rule}
    (htakes : (ofRules normalizer set).Takes a (a.rest.take k) rule) (hpos : 0 < k)
    (hk : k ≤ a.rest.length) (hlength : a.rest.length = b.rest.length)
    (h : ∀ k, 0 < k → k ≤ a.rest.length →
      Counterparts (ofRules normalizer set) (ofRules normalizer' set') R Q a b (a.rest.take k)
        (b.rest.take k)) :
    ∃ counterpart, R rule counterpart ∧
      (ofRules normalizer' set').Takes b (b.rest.take k) counterpart ∧
      Q (a.next (ofRules normalizer set)) (b.next (ofRules normalizer' set')) := by
  obtain ⟨counterpart, step, hR, hlooked, hperformed, hQ⟩ :=
    (h k hpos hk).exists_performed htakes.looked htakes.performed
  have hfront : (a.rest.take k).length = k := List.length_take_of_le hk
  have hbehind : (b.rest.take k).length = k := List.length_take_of_le (hlength ▸ hk)
  have hdecides : (ofRules normalizer' set').Decides b.context b.rest (b.rest.take k) step := by
    refine ⟨List.ne_nil_of_length_pos (by omega), List.take_prefix _ _, ?_, ?_⟩
    · rw [Index.attempt, hlooked, Option.bind_some, hperformed]
    · -- a longer front part is refused like the one of its length in the first text
      intro longer hlonger hlt
      have hle : longer.length ≤ a.rest.length := hlength ▸ hlonger.length_le
      rw [List.prefix_iff_eq_take.mp hlonger]
      refine (h longer.length (by omega) hle).attempt_eq_none ?_
      refine htakes.decides.longest _ (List.take_prefix _ _) ?_
      rw [hfront, List.length_take_of_le hle]
      omega
  have hnext : b.next (ofRules normalizer' set') = step := step_eq_of_decides hdecides
  subst hnext
  exact ⟨counterpart, hR, ⟨hdecides, hlooked, hperformed⟩, hQ⟩

/-- Where all front parts of two texts of one length have counterparts, the steps are taken by
counterparts, or both texts let a character through. -/
theorem takes_or_passes_of_counterparts (hrest : a.rest ≠ [])
    (hlength : a.rest.length = b.rest.length)
    (h : ∀ k, 0 < k → k ≤ a.rest.length →
      Counterparts (ofRules normalizer set) (ofRules normalizer' set') R Q a b (a.rest.take k)
        (b.rest.take k)) :
    (∃ k rule counterpart, R rule counterpart ∧
        (ofRules normalizer set).Takes a (a.rest.take k) rule ∧
        (ofRules normalizer' set').Takes b (b.rest.take k) counterpart ∧
        Q (a.next (ofRules normalizer set)) (b.next (ofRules normalizer' set'))) ∨
      ∃ c d, (ofRules normalizer set).Passes a c ∧ (ofRules normalizer' set').Passes b d := by
  rcases takes_or_passes normalizer set hrest with ⟨front, rule, htakes⟩ | ⟨c, hpasses⟩
  · left
    have hpos := List.length_pos_iff.mpr htakes.decides.ne_nil
    have hle := htakes.decides.isFront.length_le
    rw [List.prefix_iff_eq_take.mp htakes.decides.isFront] at htakes
    obtain ⟨counterpart, hR, htakes', hQ⟩ := htakes.exists_counterpart hpos hle hlength h
    exact ⟨front.length, rule, counterpart, hR, htakes, htakes', hQ⟩
  · right
    have hrest' : b.rest ≠ [] := by
      rw [← List.length_pos_iff, ← hlength, List.length_pos_iff]
      exact hrest
    rcases takes_or_passes normalizer' set' hrest' with
      ⟨behind, counterpart, htakes⟩ | ⟨d, hpasses'⟩
    · -- the front part that decides about the second step is refused like its counterpart
      have hpos := List.length_pos_iff.mpr htakes.decides.ne_nil
      have hle : behind.length ≤ a.rest.length := hlength ▸ htakes.decides.isFront.length_le
      have haccepted := htakes.decides.accepted
      rw [List.prefix_iff_eq_take.mp htakes.decides.isFront] at haccepted
      rw [(h behind.length hpos hle).attempt_eq_none] at haccepted
      · contradiction
      · refine hpasses.refused _ (List.ne_nil_of_length_pos ?_) (List.take_prefix _ _)
        rw [List.length_take_of_le hle]
        exact hpos
    · exact ⟨c, d, hpasses, hpasses'⟩

end

/-! ## Scans -/

/-- What the steps of two scans keep holds at all their cursors, side by side. -/
theorem forall₂_cursors {S : Cursor → Cursor → Prop}
    (hnil : ∀ a b, S a b → (a.rest = [] ↔ b.rest = []))
    (hstep : ∀ a b, S a b → a.rest ≠ [] → S (a.advance index) (b.advance other)) (h : S a b) :
    List.Forall₂ (fun a b => S a b ∧ a.rest ≠ []) (index.cursors a) (other.cursors b) := by
  fun_induction index.cursors a generalizing b with
  | case1 a hrest =>
    rw [cursors_of_rest_eq_nil other ((hnil a b h).mp hrest)]
    exact .nil
  | case2 a hrest ih =>
    rw [cursors_of_rest_ne_nil other (mt (hnil a b h).mpr hrest)]
    exact .cons ⟨h, hrest⟩ (ih (hstep a b h hrest))

end Index

end Syllabary
