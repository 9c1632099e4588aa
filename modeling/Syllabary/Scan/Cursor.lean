import Syllabary.Scan.Conversion

/-!
# Cursors

A cursor stands in a text that may still grow. It holds what is left of the text and the context
that the last step left behind. A scan goes from cursor to cursor until the text ends.

## Main statements

* `map_next_cursors`: the steps of a scan are taken at its cursors.
-/

namespace Syllabary

/-- A place in a scan. -/
structure Cursor where
  context : Context
  /-- The text that is still to be scanned. -/
  rest : Text
deriving DecidableEq

namespace Cursor

/-- Before any text. -/
def start : Cursor := ⟨.fresh, []⟩

/-- Adds text at the end. -/
def feed (cursor : Cursor) (t : Text) : Cursor := { cursor with rest := cursor.rest ++ t }

/-- Overwrites what the next step sees of the step before; what is not given stays. Whether the next
step has to move on stays too. -/
def overwrite (cursor : Cursor) (lastInput? lastOutput? : Option Text) : Cursor :=
  { cursor with
    context :=
      { cursor.context with
        lastInput := lastInput?.getD cursor.context.lastInput
        lastOutput := lastOutput?.getD cursor.context.lastOutput } }

/-- The step at the cursor. -/
def next (cursor : Cursor) (index : Index) : Step := index.step cursor.context cursor.rest

/-- The cursor behind the step. -/
def advance (cursor : Cursor) (index : Index) : Cursor :=
  ⟨(cursor.next index).context, (cursor.next index).rest cursor.rest⟩

@[simp] theorem mustAdvance_feed (cursor : Cursor) (t : Text) :
    (cursor.feed t).context.mustAdvance = cursor.context.mustAdvance := rfl

@[simp] theorem mustAdvance_overwrite (cursor : Cursor) (lastInput? lastOutput? : Option Text) :
    (cursor.overwrite lastInput? lastOutput?).context.mustAdvance =
      cursor.context.mustAdvance := rfl

/-- At the end of the text a cursor stays. -/
theorem advance_eq_self {cursor : Cursor} (h : cursor.rest = []) (index : Index) :
    cursor.advance index = cursor := by
  obtain ⟨context, rest⟩ := cursor
  obtain rfl : rest = [] := h
  rfl

end Cursor

namespace Index

/-- The places at which a scan takes its steps. -/
def cursors (index : Index) (cursor : Cursor) : List Cursor :=
  if _h : cursor.rest = [] then [] else cursor :: index.cursors (cursor.advance index)
termination_by cursor.context.budget cursor.rest
decreasing_by exact index.budget_step_lt cursor.context (by assumption)

theorem cursors_of_rest_eq_nil (index : Index) {cursor : Cursor} (hrest : cursor.rest = []) :
    index.cursors cursor = [] := by
  rw [cursors, dif_pos hrest]

theorem cursors_of_rest_ne_nil (index : Index) {cursor : Cursor} (hrest : cursor.rest ≠ []) :
    index.cursors cursor = cursor :: index.cursors (cursor.advance index) := by
  rw [cursors, dif_neg hrest]

/-- The steps of a scan are taken at its cursors. -/
theorem map_next_cursors (index : Index) (cursor : Cursor) :
    (index.cursors cursor).map (fun stop => stop.next index) =
      index.steps cursor.context cursor.rest := by
  fun_induction index.cursors cursor with
  | case1 cursor hrest => rw [hrest, steps_nil, List.map_nil]
  | case2 cursor hrest ih =>
    rw [List.map_cons, ih, index.steps_of_ne_nil cursor.context hrest]
    rfl

end Index

end Syllabary
