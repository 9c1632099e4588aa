import Syllabary.Proofs.Longest
import Syllabary.Scan.Cursor

/-!
# Stretches of a scan

A stretch is what a scan does between two of its places. What is known of a stretch holds whatever
the scan does behind it, so a law about a part of a text is stated as a stretch over this part.

## Main statements

* `Index.Stretch.steps_eq`: a scan begins with the steps of a stretch and goes on where it ends.
* `Index.Stretch.flatMap_taken_append`: a stretch takes what lies between its two places.
-/

namespace Syllabary.Index

/-- Where a step that accepts leads to. -/
theorem advance_of_step_eq {index : Index} {context : Context} {input trigger output : Text}
    {length : Nat} (hstep : index.step context input = .accept input trigger output length none) :
    Cursor.advance ⟨context, input⟩ index =
      ⟨(Step.accept input trigger output length none).context, input.drop length⟩ := by
  have hnext : Cursor.next ⟨context, input⟩ index = .accept input trigger output length none :=
    hstep
  rw [Cursor.advance, hnext, rest_accept]

/-- The steps that lead a scan from one place to another. -/
inductive Stretch (index : Index) : Cursor → List Step → Cursor → Prop
  | refl (cursor : Cursor) : Stretch index cursor [] cursor
  | step {cursor stop : Cursor} {steps : List Step} (hrest : cursor.rest ≠ [])
      (hnext : Stretch index (cursor.advance index) steps stop) :
      Stretch index cursor (cursor.next index :: steps) stop

namespace Stretch

variable {index : Index} {start stop : Cursor} {first : List Step}

/-- A scan begins with the steps of a stretch and goes on where it ends. -/
theorem steps_eq (h : index.Stretch start first stop) :
    index.steps start.context start.rest = first ++ index.steps stop.context stop.rest := by
  induction h with
  | refl cursor => rfl
  | @step cursor stop steps hrest _ ih =>
    rw [steps_of_ne_nil index cursor.context hrest, List.cons_append, ← ih]
    rfl

/-- The outputs of a stretch come before those of the scan from where it ends. -/
theorem outputs_eq (h : index.Stretch start first stop) :
    index.outputs start.context start.rest =
      first.flatMap Step.output ++ index.outputs stop.context stop.rest := by
  rw [outputs, h.steps_eq, List.flatMap_append, outputs]

/-- A stretch takes what lies between its two places. -/
theorem flatMap_taken_append (h : index.Stretch start first stop) :
    first.flatMap Step.taken ++ stop.rest = start.rest := by
  induction h with
  | refl cursor => rfl
  | @step cursor stop steps _ _ ih =>
    rw [List.flatMap_cons, List.append_assoc, ih]
    exact append_rest_step index cursor.context cursor.rest

/-- A stretch of one step ends behind this step. -/
theorem eq_advance (h : index.Stretch start first stop) (hlength : first.length = 1) :
    stop = start.advance index := by
  cases h with
  | refl => simp at hlength
  | step _ hnext =>
    cases hnext with
    | refl => rfl
    | step => simp at hlength

/-- A stretch may begin with a step that accepts. -/
theorem accept {context : Context} {input trigger output : Text} {length : Nat}
    (hinput : input ≠ [])
    (hstep : index.step context input = .accept input trigger output length none)
    (h : index.Stretch ⟨(Step.accept input trigger output length none).context, input.drop length⟩
      first stop) :
    index.Stretch ⟨context, input⟩ (.accept input trigger output length none :: first) stop := by
  have hnext : Cursor.next ⟨context, input⟩ index = .accept input trigger output length none :=
    hstep
  rw [← hnext]
  apply Stretch.step hinput
  rw [advance_of_step_eq hstep]
  exact h

end Stretch

end Syllabary.Index
