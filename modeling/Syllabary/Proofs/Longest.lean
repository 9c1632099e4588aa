import Syllabary.Proofs.Buffer
import Syllabary.Proofs.Search

/-!
# The longest front part

A step is taken by the longest front part of the input that has a willing rule. So it is known as
soon as one front part is accepted and all longer ones are refused, and what a step did tells which
front part that was. Where every step takes something, a conversion is the outputs of its steps.

## Main statements

* `Index.step_eq_of_decides`: an accepted front part without a longer one makes the step.
* `Index.exists_decides_or_passThrough`: every other step lets a character through.
* `Index.step_congr`: where all front parts are tried alike, the steps are the same.
* `Index.convert_eq_outputs`: without rewrites a conversion is the outputs in their order.
-/

namespace Syllabary.Index

/-- A front part of the input decides about a step if it is accepted and no longer one is. -/
structure Decides (index : Index) (context : Context) (input front : Text) (step : Step) :
    Prop where
  ne_nil : front ≠ []
  isFront : front <+: input
  accepted : index.attempt context input front = some step
  longest : ∀ longer, longer <+: input → front.length < longer.length →
    index.attempt context input longer = none

variable {index : Index} {normalizer : Normalizer} {set : RuleSet} {context other : Context}
  {input front : Text} {step : Step}

/-! ## Steps -/

theorem firstAccepted_eq_some_iff {n : Nat} :
    index.firstAccepted context input n = some step ↔
      ∃ k < n, index.attempt context input (input.take (k + 1)) = some step ∧
        ∀ j, k < j → j < n → index.attempt context input (input.take (j + 1)) = none := by
  induction n with
  | zero => simp [firstAccepted]
  | succ n ih =>
    -- the longest candidate is tried first, and the others only if it is refused
    rw [firstAccepted_succ, Option.or_eq_some_iff, ih]
    constructor
    · rintro (haccepted | ⟨hnone, k, hk, haccepted, hlonger⟩)
      · exact ⟨n, by omega, haccepted, by omega⟩
      · refine ⟨k, by omega, haccepted, fun j hkj hjn => ?_⟩
        rcases Nat.lt_succ_iff_lt_or_eq.mp hjn with hlt | rfl
        · exact hlonger j hkj hlt
        · exact hnone
    · rintro ⟨k, hk, haccepted, hlonger⟩
      rcases Nat.lt_succ_iff_lt_or_eq.mp hk with hlt | rfl
      · exact Or.inr ⟨hlonger n hlt (by omega), k, hlt, haccepted, fun j hkj hjn =>
          hlonger j hkj (by omega)⟩
      · exact Or.inl haccepted

theorem firstAccepted_eq_none_iff {n : Nat} :
    index.firstAccepted context input n = none ↔
      ∀ k < n, index.attempt context input (input.take (k + 1)) = none := by
  induction n with
  | zero => simp [firstAccepted]
  | succ n ih =>
    rw [firstAccepted_succ, Option.or_eq_none_iff, ih, Nat.forall_lt_succ_right, and_comm]

/-- Every nonempty front part has its place among the candidates. -/
theorem exists_eq_take_of_prefix (hfront : front <+: input) (hne : front ≠ []) :
    ∃ k < input.length, front = input.take (k + 1) ∧ front.length = k + 1 := by
  have hlength := hfront.length_le
  obtain ⟨k, hk⟩ := Nat.exists_eq_succ_of_ne_zero (mt List.length_eq_zero_iff.mp hne)
  have htake := List.prefix_iff_eq_take.mp hfront
  rw [hk] at htake
  exact ⟨k, by omega, htake, hk⟩

/-- A nonempty front part has the first character. -/
theorem exists_cons_of_prefix {c : Char} {t : Text} (h : front <+: c :: t) (hne : front ≠ []) :
    ∃ s, front = c :: s := by
  rcases List.prefix_cons_iff.mp h with rfl | ⟨s, rfl, -⟩
  · exact absurd rfl hne
  · exact ⟨s, rfl⟩

/-- A front part of more than one character has the first two. -/
theorem exists_cons_cons_of_prefix {first second : Char} {t : Text}
    (h : front <+: first :: second :: t) (hlength : 1 < front.length) :
    ∃ s, front = first :: second :: s := by
  rcases List.prefix_cons_iff.mp h with rfl | ⟨back, rfl, hback⟩
  · simp at hlength
  · rcases List.prefix_cons_iff.mp hback with rfl | ⟨s, rfl, -⟩
    · simp at hlength
    · exact ⟨s, rfl⟩

/-- The first two characters decide, if they are accepted and nothing longer is. -/
theorem decides_pair {first second : Char} {t : Text}
    (haccepted : index.attempt context (first :: second :: t) [first, second] = some step)
    (hlonger : ∀ s, s ≠ [] →
      index.attempt context (first :: second :: t) (first :: second :: s) = none) :
    index.Decides context (first :: second :: t) [first, second] step := by
  constructor
  · exact List.cons_ne_nil first [second]
  · exact ⟨t, rfl⟩
  · exact haccepted
  · intro longer hprefix hlength
    obtain ⟨s, rfl⟩ := exists_cons_cons_of_prefix hprefix (Nat.lt_of_succ_lt hlength)
    apply hlonger s
    rintro rfl
    exact Nat.lt_irrefl _ hlength

/-- The first character decides, if it is accepted and neither the first two nor anything longer
is. -/
theorem decides_head {first second : Char} {t : Text}
    (haccepted : index.attempt context (first :: second :: t) [first] = some step)
    (hpair : index.attempt context (first :: second :: t) [first, second] = none)
    (hlonger : ∀ s, s ≠ [] →
      index.attempt context (first :: second :: t) (first :: second :: s) = none) :
    index.Decides context (first :: second :: t) [first] step := by
  constructor
  · exact List.cons_ne_nil first []
  · exact ⟨second :: t, rfl⟩
  · exact haccepted
  · intro longer hprefix hlength
    obtain ⟨s, rfl⟩ := exists_cons_cons_of_prefix hprefix hlength
    by_cases hs : s = []
    · rw [hs]
      exact hpair
    · exact hlonger s hs

/-- An accepted front part without a longer one makes the step. -/
theorem step_eq_of_decides (h : (ofRules normalizer set).Decides context input front step) :
    (ofRules normalizer set).step context input = step := by
  obtain ⟨k, hk, hfront, hlength⟩ := exists_eq_take_of_prefix h.isFront h.ne_nil
  obtain ⟨c, t, rfl⟩ := List.exists_cons_of_length_pos (Nat.zero_lt_of_lt hk)
  rw [step_ofRules_cons, firstAccepted_eq_some_iff.mpr ⟨k, hk, ?_, fun j hkj hj => ?_⟩,
    Option.getD_some]
  · rw [← hfront]
    exact h.accepted
  · refine h.longest _ (List.take_prefix _ _) ?_
    rw [List.length_take]
    omega

/-- A step either has a front part that decides about it, or all of them are refused and the first
character passes through. -/
theorem exists_decides_or_passThrough (normalizer : Normalizer) (set : RuleSet) (context : Context)
    (c : Char) (t : Text) :
    (∃ front, (ofRules normalizer set).Decides context (c :: t) front
        ((ofRules normalizer set).step context (c :: t))) ∨
      (∀ front, front ≠ [] → front <+: c :: t →
        (ofRules normalizer set).attempt context (c :: t) front = none) ∧
        (ofRules normalizer set).step context (c :: t) = .passThrough c := by
  rw [step_ofRules_cons]
  cases haccepted : (ofRules normalizer set).firstAccepted context (c :: t) (c :: t).length with
  | none =>
    refine Or.inr ⟨fun front hne hfront => ?_, rfl⟩
    obtain ⟨k, hk, hfront, -⟩ := exists_eq_take_of_prefix hfront hne
    rw [hfront]
    exact firstAccepted_eq_none_iff.mp haccepted k hk
  | some step =>
    obtain ⟨k, hk, haccepted, hlonger⟩ := firstAccepted_eq_some_iff.mp haccepted
    refine Or.inl ⟨(c :: t).take (k + 1), by simp, List.take_prefix _ _, haccepted,
      fun longer hlonger' hlength => ?_⟩
    rw [List.length_take, Nat.min_eq_left hk] at hlength
    obtain ⟨j, hj, hfront, hlength'⟩ :=
      exists_eq_take_of_prefix hlonger' (List.ne_nil_of_length_pos (by omega))
    rw [hfront]
    exact hlonger j (by omega) hj

/-- A step takes something if it does so wherever a front part decides. -/
theorem taken_step_ne_nil_of_decides (hinput : input ≠ [])
    (h : ∀ front step, (ofRules normalizer set).Decides context input front step →
      step.taken ≠ []) :
    ((ofRules normalizer set).step context input).taken ≠ [] := by
  obtain ⟨c, t, rfl⟩ := List.exists_cons_of_ne_nil hinput
  rcases exists_decides_or_passThrough normalizer set context c t with ⟨front, hdecides⟩ | hpass
  · exact h front _ hdecides
  · rw [hpass.2]
    exact List.cons_ne_nil c []

/-- What a step that accepts leaves of its input. -/
theorem rest_accept (input trigger output : Text) (length : Nat) (lastOutput? : Option Text) :
    (Step.accept input trigger output length lastOutput?).rest input = input.drop length :=
  Step.rest_eq_of_append (List.take_append_drop length input)

/-- Steps agree where every front part is tried alike, in two contexts or by two rule sets. -/
theorem step_congr {normalizer' : Normalizer} {set' : RuleSet}
    (h : ∀ front, front ≠ [] → front <+: input →
      (ofRules normalizer set).attempt context input front =
        (ofRules normalizer' set').attempt other input front) (hinput : input ≠ []) :
    (ofRules normalizer set).step context input = (ofRules normalizer' set').step other input := by
  obtain ⟨c, t, rfl⟩ := List.exists_cons_of_ne_nil hinput
  rw [step_ofRules_cons, step_ofRules_cons, firstAccepted_congr fun k _ => ?_]
  exact h _ (by simp) (List.take_prefix _ _)

/-! ## Outputs -/

/-- The outputs of a scan, one after another. -/
def outputs (index : Index) (context : Context) (input : Text) : Text :=
  (index.steps context input).flatMap Step.output

@[simp] theorem outputs_nil : index.outputs context [] = [] := by
  rw [outputs, steps_nil, List.flatMap_nil]

theorem outputs_of_ne_nil (hinput : input ≠ []) :
    index.outputs context input = (index.step context input).output ++
      index.outputs (index.step context input).context ((index.step context input).rest input) := by
  rw [outputs, steps_of_ne_nil index context hinput, List.flatMap_cons, outputs]

/-- What is written first starts the outputs. -/
theorem head?_outputs (hinput : input ≠ []) (h : (index.step context input).output.head? ≠ none) :
    (index.outputs context input).head? = (index.step context input).output.head? := by
  obtain ⟨c, hc⟩ := Option.ne_none_iff_exists'.mp h
  rw [outputs_of_ne_nil hinput, List.head?_append, hc, Option.some_or]

/-- Texts whose first steps write different characters are written differently. -/
theorem outputs_ne_of_head?_ne {t : Text} (hinput : input ≠ []) (ht : t ≠ [])
    (hsome : (index.step context input).output.head? ≠ none)
    (hne : (index.step other t).output.head? ∉ [none, (index.step context input).output.head?]) :
    index.outputs other t ≠ index.outputs context input := by
  rw [List.mem_cons, List.mem_singleton, not_or] at hne
  refine mt (congrArg List.head?) ?_
  rw [head?_outputs ht hne.1, head?_outputs hinput hsome]
  exact hne.2

/-- What an accepted step writes comes first. -/
theorem outputs_of_step_eq {trigger output : Text} {length : Nat} (hinput : input ≠ [])
    (h : index.step context input = .accept input trigger output length none) :
    index.outputs context input =
      output ++ index.outputs (index.step context input).context (input.drop length) := by
  rw [outputs_of_ne_nil hinput, h, rest_accept]
  rfl

/-- What holds of every single step holds of the steps of a scan. -/
theorem forall_mem_steps {P : Step → Prop}
    (h : ∀ context input, input ≠ [] → P (index.step context input)) :
    ∀ step ∈ index.steps context input, P step := by
  fun_induction index.steps context input with
  | case1 => simp
  | case2 context input hinput step ih =>
    exact List.forall_mem_cons.mpr ⟨h context input hinput, ih⟩

theorem replacesPrevious_of_mem_steps
    (h : ∀ context input, input ≠ [] → (index.step context input).taken ≠ []) :
    ∀ step ∈ index.steps context input, step.replacesPrevious = false := by
  apply forall_mem_steps
  intro context input hinput
  -- a step replaces the previous output exactly if it takes nothing
  rw [(index.fits_step context hinput).replaces_iff, List.isEmpty_eq_false_iff]
  exact h context input hinput

theorem lasting_eq_self {steps : List Step}
    (h : ∀ step ∈ steps, step.replacesPrevious = false) : Step.lasting steps = steps := by
  induction steps with
  | nil => rfl
  | cons step steps ih =>
    obtain ⟨-, hsteps⟩ := List.forall_mem_cons.mp h
    have hnext : steps.head?.any Step.replacesPrevious = false := by
      cases steps with
      | nil => rfl
      | cons next steps => exact hsteps next List.mem_cons_self
    rw [Step.lasting, hnext, ih hsteps]
    rfl

/-- Without rewrites a conversion is the outputs in their order. -/
theorem convert_eq_outputs
    (h : ∀ context input, input ≠ [] → (index.step context input).taken ≠ []) (input : Text) :
    index.convert input = index.outputs .fresh input := by
  have hsteps : ∀ step ∈ index.steps .fresh input, step.replacesPrevious = false :=
    replacesPrevious_of_mem_steps h
  have hwritten := Written.text_foldl_push [] [] (index.steps .fresh input)
  rw [List.append_nil, ite_self, List.nil_append, lasting_eq_self hsteps] at hwritten
  exact hwritten

end Syllabary.Index
