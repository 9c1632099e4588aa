import Syllabary.Scan.Step

/-!
# Conversion

A scan takes steps from the front of a text until nothing is left. Its conversion writes the
outputs one after another. A step that takes nothing puts its output in the place of the one before
it.

## Main statements

* `flatMap_taken_steps`: the steps of a scan share out the text among them.
-/

namespace Syllabary

/-- How much a scan can still do: twice for every character that is left, and once more if it need
not move on. -/
def Context.budget (context : Context) (input : Text) : Nat :=
  2 * input.length + if context.mustAdvance then 0 else 1

namespace Index

/-- Every step on a nonempty input uses up some of the budget. -/
theorem budget_step_lt (index : Index) (context : Context) {input : Text} (hinput : input ≠ []) :
    (index.step context input).context.budget ((index.step context input).rest input) <
      context.budget input := by
  have hlength := length_rest_step index context input
  have hafter := (replacesPrevious_step index context hinput).2
  have hbefore : (index.step context input).consumed = 0 → context.mustAdvance = false :=
    not_mustAdvance_of_consumed_step_eq_zero hinput
  simp only [Step.consumed] at hafter hbefore
  simp only [Context.budget]
  by_cases hzero : (index.step context input).taken.length = 0
  · rw [hbefore hzero, hafter.mpr hzero]
    simp only [Bool.false_eq_true, if_true, if_false]
    omega
  · have : (if (index.step context input).context.mustAdvance = true then 0 else 1) ≤ 1 := by
      split <;> omega
    omega

/-- The steps of a scan. -/
def steps (index : Index) (context : Context) (input : Text) : List Step :=
  if _h : input = [] then []
  else
    let step := index.step context input
    step :: steps index step.context (step.rest input)
termination_by context.budget input
decreasing_by exact budget_step_lt index context (by assumption)

end Index

/-- What a conversion has written. -/
structure Written where
  /-- The text, last character first. -/
  reversed : Text
  /-- The length of the last output. -/
  lastLength : Nat

namespace Written

/-- Nothing. -/
def empty : Written := ⟨[], 0⟩

/-- Adds the output of a step, in the place of the last output if the step says so. -/
def push (written : Written) (step : Step) : Written :=
  let kept := if step.replacesPrevious then written.reversed.drop written.lastLength
    else written.reversed
  ⟨step.output.reverse ++ kept, step.output.length⟩

/-- The text. -/
def text (written : Written) : Text := written.reversed.reverse

end Written

/-- What the steps write together. -/
def Step.write (steps : List Step) : Text := (steps.foldl Written.push .empty).text

namespace Index

/-- The conversion of a text. -/
def convert (index : Index) (input : Text) : Text := Step.write (index.steps .fresh input)

@[simp] theorem steps_nil (index : Index) (context : Context) : index.steps context [] = [] := by
  rw [steps]; rfl

theorem steps_of_ne_nil (index : Index) (context : Context) {input : Text} (hinput : input ≠ []) :
    index.steps context input =
      index.step context input :: index.steps (index.step context input).context
        ((index.step context input).rest input) := by
  rw [steps, dif_neg hinput]

@[simp] theorem convert_nil (index : Index) : index.convert [] = [] := by
  rw [convert, steps_nil]; rfl

/-- The steps of a scan share out the text among them. -/
theorem flatMap_taken_steps (index : Index) (context : Context) (input : Text) :
    (index.steps context input).flatMap Step.taken = input := by
  fun_induction steps index context input with
  | case1 => rfl
  | case2 context input h step ih =>
    rw [List.flatMap_cons, ih]
    exact append_rest_step index context input

end Index

end Syllabary
