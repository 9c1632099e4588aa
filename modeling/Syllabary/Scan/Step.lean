import Syllabary.Index

/-!
# Steps of a scan

A step takes some characters from the front of the input and writes an output for them. The longest
key at the front that has a willing rule decides; without one a single character passes through. A
step may take nothing and write in the place of the step before; then the next step has to move on.

## Main statements

* `consumed_step_le`: a step takes no more than there is.
* `replacesPrevious_step`: on a nonempty input, taking nothing, writing in place of the step before
  and asking the next step to move on are the same.
* `not_mustAdvance_of_consumed_step_eq_zero`: no two steps in a row take nothing.
* `append_rest_step`: what a step takes and what it leaves make up the input.
* `Step.rest_eq_of_append`: what stands behind the characters taken is left, in any text.
-/

namespace Syllabary

/-- What a step leaves for the next one to see. -/
structure Context where
  /-- The trigger of the step before, in its own letter case. -/
  lastInput : Text
  /-- The output of the step before, or what its rule shows instead. -/
  lastOutput : Text
  /-- Whether the step before took nothing, so that the next one has to move on. -/
  mustAdvance : Bool
deriving DecidableEq

/-- The context of a scan that starts. -/
def Context.fresh : Context := ⟨[], [], false⟩

/-- What a step did. -/
structure Step where
  output : Text
  /-- The characters taken from the front of the input. -/
  taken : Text
  /-- The context for the next step. -/
  context : Context
  /-- Whether the output stands in the place of the output before it. -/
  replacesPrevious : Bool
deriving DecidableEq

namespace Step

/-- The number of characters taken. -/
def consumed (step : Step) : Nat := step.taken.length

/-- What is left of a text when the step's share is cut off. The share is measured in bytes of
UTF-8; nothing is left of a text that is shorter or has a character across the cut. -/
def rest (step : Step) (t : Text) : Text := (t.dropBytes? step.taken.utf8Size).getD []

/-- The step at the end of the input. -/
def idle (context : Context) : Step := ⟨[], [], context, false⟩

/-- The step that lets one character through. -/
def passThrough (c : Char) : Step := ⟨[c], [c], ⟨[c], [c], false⟩, false⟩

/-- The step that writes `output` for the trigger and takes `length` characters, as far as there
are. -/
def accept (input trigger output : Text) (length : Nat) (lastOutput? : Option Text) : Step :=
  let taken := input.take length
  { output, taken,
    context := ⟨trigger, lastOutput?.getD output, taken.isEmpty⟩,
    replacesPrevious := taken.isEmpty }

end Step

/-- Applies a rule to an occurrence of its key, which stands at the front of the input. -/
def Rule.perform? (rule : Rule) (rules : RuleView) (context : Context) (input trigger : Text) :
    Option Step :=
  match rule.action with
  | .literal output stride? =>
    some (.accept input trigger output ((stride?.map Subtype.val).getD trigger.length) none)
  | .computed declared? operation =>
    let following := input.drop trigger.length
    match operation ⟨rules, trigger, following, context.lastInput, context.lastOutput⟩ with
    | .reject => none
    | .accept output? length lastOutput? =>
      if length = 0 ∧ context.mustAdvance then none
      else some (.accept input trigger ((output? <|> declared?).getD []) length lastOutput?)

namespace Index

/-- Tries the rule for one candidate at the front of the input. -/
def attempt (index : Index) (context : Context) (input trigger : Text) : Option Step :=
  (index.lookup? trigger).bind fun rule => rule.perform? index.view context input trigger

/-- Tries the candidates of `length` characters and less, the longest first. -/
def firstAccepted (index : Index) (context : Context) (input : Text) : Nat → Option Step
  | 0 => none
  | length + 1 =>
    index.attempt context input (input.take (length + 1)) <|>
      index.firstAccepted context input length

/-- The step at the front of the input. -/
def step (index : Index) (context : Context) (input : Text) : Step :=
  match input with
  | [] => .idle context
  | c :: _ =>
    match index.maxKeyLength? c with
    | none => .passThrough c
    | some bound =>
      (index.firstAccepted context input (input.take bound).length).getD (.passThrough c)

end Index

/-- What makes a step fit the input that it was taken on: it takes a front part of it, and takes
nothing exactly if it says so, which it may do only where the step before moved on. -/
structure Step.Fits (context : Context) (input : Text) (step : Step) : Prop where
  front : step.taken <+: input
  replaces_iff : step.replacesPrevious = step.taken.isEmpty
  after_iff : step.context.mustAdvance = step.taken.isEmpty
  moves_on : context.mustAdvance = true → step.taken ≠ []

namespace Step

theorem fits_passThrough (context : Context) (c : Char) (t : Text) :
    Fits context (c :: t) (passThrough c) where
  front := ⟨t, rfl⟩
  replaces_iff := rfl
  after_iff := rfl
  moves_on _ := by simp [passThrough]

theorem fits_accept {context : Context} {input trigger output : Text} {length : Nat}
    {lastOutput? : Option Text} (hinput : input ≠ [])
    (h : context.mustAdvance = true → length ≠ 0) :
    Fits context input (accept input trigger output length lastOutput?) where
  front := List.take_prefix _ _
  replaces_iff := rfl
  after_iff := rfl
  moves_on ha := by
    have := h ha
    simp [accept, hinput, this]

/-- What stands behind the characters that a step takes is what it leaves. -/
theorem rest_eq_of_append {step : Step} {input back : Text} (h : step.taken ++ back = input) :
    step.rest input = back := by
  rw [rest, ← h, Text.dropBytes?_append, Option.getD_some]

end Step

theorem Rule.fits_of_perform? {rule : Rule} {rules : RuleView} {context : Context}
    {input trigger : Text} {step : Step} (hinput : input ≠ []) (htrigger : trigger ≠ [])
    (h : rule.perform? rules context input trigger = some step) : step.Fits context input := by
  unfold Rule.perform? at h
  split at h
  · next output stride? _ =>
    obtain rfl := Option.some.inj h
    refine Step.fits_accept hinput fun _ => ?_
    cases stride? with
    | none => simpa using htrigger
    | some stride => exact Nat.ne_of_gt stride.property
  · simp only at h
    split at h
    · simp at h
    · split at h
      · simp at h
      · next hguard =>
        obtain rfl := Option.some.inj h
        exact Step.fits_accept hinput fun ha hl => hguard ⟨hl, ha⟩

namespace Index

theorem firstAccepted_succ (index : Index) (context : Context) (input : Text) (length : Nat) :
    index.firstAccepted context input (length + 1) =
      (index.attempt context input (input.take (length + 1))).or
        (index.firstAccepted context input length) := by
  rw [firstAccepted, Option.orElse_eq_orElse, Option.orElse_eq_or]

theorem fits_of_firstAccepted {index : Index} {context : Context} {input : Text} {length : Nat}
    {step : Step} (hinput : input ≠ []) (h : index.firstAccepted context input length = some step) :
    step.Fits context input := by
  induction length with
  | zero => simp [firstAccepted] at h
  | succ length ih =>
    rw [firstAccepted_succ, Option.or_eq_some_iff] at h
    rcases h with h | ⟨-, h⟩
    · obtain ⟨rule, -, hperform⟩ := Option.bind_eq_some_iff.mp h
      exact Rule.fits_of_perform? hinput (by simp [hinput]) hperform
    · exact ih h

/-- A step on a nonempty input fits it. -/
theorem fits_step (index : Index) (context : Context) {input : Text} (hinput : input ≠ []) :
    (index.step context input).Fits context input := by
  cases input with
  | nil => exact absurd rfl hinput
  | cons c t =>
    simp only [step]
    split
    · exact Step.fits_passThrough context c t
    · next bound _ =>
      cases h : index.firstAccepted context (c :: t) ((c :: t).take bound).length with
      | none => exact Step.fits_passThrough context c t
      | some s => exact fits_of_firstAccepted hinput h

@[simp] theorem step_nil (index : Index) (context : Context) :
    index.step context [] = .idle context := rfl

/-- A step takes no more than there is. -/
theorem consumed_step_le (index : Index) (context : Context) (input : Text) :
    (index.step context input).consumed ≤ input.length := by
  by_cases hinput : input = []
  · subst hinput; simp [Step.idle, Step.consumed]
  · exact (fits_step index context hinput).front.length_le

/-- What a step takes and what it leaves make up the input. -/
theorem append_rest_step (index : Index) (context : Context) (input : Text) :
    (index.step context input).taken ++ (index.step context input).rest input = input := by
  by_cases hinput : input = []
  · subst hinput; simp [Step.idle, Step.rest, Text.dropBytes?]
  · obtain ⟨back, hback⟩ := (fits_step index context hinput).front
    rw [Step.rest_eq_of_append hback]
    exact hback

/-- What a step leaves ends the input. -/
theorem rest_step_suffix (index : Index) (context : Context) (input : Text) :
    (index.step context input).rest input <:+ input :=
  ⟨_, index.append_rest_step context input⟩

theorem length_rest_step (index : Index) (context : Context) (input : Text) :
    (index.step context input).taken.length + ((index.step context input).rest input).length =
      input.length := by
  rw [← List.length_append, append_rest_step]

/-- On a nonempty input, writing in place of the step before, taking nothing and asking the next
step to move on are the same. -/
theorem replacesPrevious_step (index : Index) (context : Context) {input : Text}
    (hinput : input ≠ []) :
    ((index.step context input).replacesPrevious = true ↔
      (index.step context input).consumed = 0) ∧
    ((index.step context input).context.mustAdvance = true ↔
      (index.step context input).consumed = 0) := by
  have h := fits_step index context hinput
  rw [h.replaces_iff, h.after_iff]
  simp [Step.consumed]

/-- After a step that took nothing, the next one takes something. -/
theorem not_mustAdvance_of_consumed_step_eq_zero {index : Index} {context : Context} {input : Text}
    (hinput : input ≠ []) (h : (index.step context input).consumed = 0) :
    context.mustAdvance = false := by
  cases ha : context.mustAdvance with
  | false => rfl
  | true =>
    exact absurd (List.length_eq_zero_iff.mp h) ((fits_step index context hinput).moves_on ha)

end Index

end Syllabary
