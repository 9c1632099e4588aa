import Mathlib.Data.List.Chain
import Syllabary.Scan.Conversion
import Syllabary.Scan.Cursor

/-!
# Sessions

In a session a caller takes steps at a cursor, feeds it more text and overwrites what the next step
is shown of the step before. The session remembers how much each step took. Whatever the caller
does, the cursor knows whether the last step took nothing, and no two steps in a row take nothing.

A scan is the session in which only steps are taken. Every rewrite is followed by a step that moves
on, so there are no more rewrites than characters.

## Main statements

* `Session.Guarded.run`: the guard holds in every session.
* `Index.countP_replacesPrevious_steps_le`: a scan has no more rewrites than other steps.
* `Session.guarded_and_scan_bounded`: both together, with the bound on the steps of a scan.
-/

namespace Syllabary

/-- What a caller does with a cursor. -/
inductive Cursor.Event where
  /-- Takes a step. -/
  | step
  /-- Adds text at the end. -/
  | feed (t : Text)
  /-- Overwrites what the next step sees of the step before. -/
  | overwrite (lastInput? lastOutput? : Option Text)

/-- A cursor with its past. -/
structure Session where
  cursor : Cursor
  /-- What each step on a nonempty text took, the last step first. -/
  strides : List Nat

namespace Session

/-- A session that starts on a text. -/
def start (t : Text) : Session := ⟨⟨.fresh, t⟩, []⟩

/-- One move of the caller. A step on an empty text is not remembered. -/
def handle (index : Index) (session : Session) : Cursor.Event → Session
  | .step =>
    ⟨session.cursor.advance index,
      if session.cursor.rest = [] then session.strides
      else (session.cursor.next index).consumed :: session.strides⟩
  | .feed t => { session with cursor := session.cursor.feed t }
  | .overwrite lastInput? lastOutput? =>
    { session with cursor := session.cursor.overwrite lastInput? lastOutput? }

/-- All moves of the caller, one after another. -/
def run (index : Index) (session : Session) (events : List Cursor.Event) : Session :=
  events.foldl (handle index) session

/-! ## The guard -/

/-- The guard of a session: its cursor has to move on exactly if the last step took nothing, and no
step that took nothing comes straight after another. -/
structure Guarded (session : Session) : Prop where
  mustAdvance_iff : session.cursor.context.mustAdvance = true ↔ session.strides.head? = some 0
  alternating : session.strides.IsChain fun later earlier => later = 0 → earlier ≠ 0

theorem guarded_start (t : Text) : (start t).Guarded where
  mustAdvance_iff := by simp [start, Context.fresh]
  alternating := .nil

/-- A step keeps the guard. -/
theorem Guarded.step {session : Session} (h : session.Guarded) (index : Index) :
    (session.handle index .step).Guarded := by
  by_cases hrest : session.cursor.rest = []
  · rw [handle, if_pos hrest, Cursor.advance_eq_self hrest]
    exact h
  · rw [handle, if_neg hrest]
    refine ⟨?_, List.isChain_cons.mpr ⟨fun earlier hearlier hzero => ?_, h.alternating⟩⟩
    · rw [List.head?_cons, Option.some.injEq]
      exact (index.replacesPrevious_step session.cursor.context hrest).2
    · rintro rfl
      have hmust : session.cursor.context.mustAdvance = false :=
        Index.not_mustAdvance_of_consumed_step_eq_zero hrest hzero
      rw [h.mustAdvance_iff.mpr hearlier] at hmust
      contradiction

/-- Every move keeps the guard. -/
theorem Guarded.handle {session : Session} (h : session.Guarded) (index : Index)
    (event : Cursor.Event) : (session.handle index event).Guarded := by
  cases event with
  | step => exact h.step index
  | feed t => exact ⟨h.mustAdvance_iff, h.alternating⟩
  | overwrite lastInput? lastOutput? => exact ⟨h.mustAdvance_iff, h.alternating⟩

/-- The guard holds in every session. -/
theorem Guarded.run {session : Session} (h : session.Guarded) (index : Index)
    (events : List Cursor.Event) : (session.run index events).Guarded := by
  induction events generalizing session with
  | nil => exact h
  | cons event events ih => exact ih (h.handle index event)

end Session

/-! ## The length of a scan -/

namespace Index

/-- A scan has no more rewrites than other steps, and fewer if it has to begin with another step:
each rewrite is followed by a step of its own that moves on. -/
theorem countP_replacesPrevious_steps_le (index : Index) (context : Context) {input : Text}
    (hinput : input ≠ []) :
    (index.steps context input).countP (·.replacesPrevious) +
        (if context.mustAdvance then 1 else 0) ≤
      (index.steps context input).countP (!·.replacesPrevious) := by
  fun_induction index.steps context input with
  | case1 => contradiction
  | case2 context input hrest step ih =>
    have hfits : step.Fits context input := index.fits_step context hrest
    have happend : step.taken ++ step.rest input = input := index.append_rest_step context input
    by_cases htaken : step.taken = []
    · -- a rewrite leaves the whole text to a step that has to move on
      have hstay : step.rest input = input := by rwa [htaken, List.nil_append] at happend
      have hreplaces : step.replacesPrevious = true := by rw [hfits.replaces_iff, htaken]; rfl
      have hafter : step.context.mustAdvance = true := by rw [hfits.after_iff, htaken]; rfl
      have hbefore : context.mustAdvance = false := by
        cases hmust : context.mustAdvance with
        | false => rfl
        | true => exact absurd htaken (hfits.moves_on hmust)
      have hrewrites := ih (by rwa [hstay])
      rw [hafter, if_pos rfl] at hrewrites
      rw [hbefore, List.countP_cons_of_pos hreplaces, List.countP_cons_of_neg (by simp [hreplaces])]
      exact hrewrites
    · have hreplaces : step.replacesPrevious = false := by simp [hfits.replaces_iff, htaken]
      have hbit : (if context.mustAdvance then 1 else 0) ≤ 1 := by split <;> omega
      rw [List.countP_cons_of_neg (by simp [hreplaces]), List.countP_cons_of_pos (by simp [hreplaces])]
      by_cases hdone : step.rest input = []
      · rw [hdone, steps_nil, List.countP_nil, List.countP_nil]
        omega
      · have hrewrites := ih hdone
        omega

/-- A scan has no more steps that move on than its text has characters. -/
theorem countP_not_replacesPrevious_steps_le (index : Index) (context : Context) (input : Text) :
    (index.steps context input).countP (!·.replacesPrevious) ≤ input.length := by
  fun_induction index.steps context input with
  | case1 => simp
  | case2 context input hrest step ih =>
    have hfits : step.Fits context input := index.fits_step context hrest
    have hlength : step.taken.length + (step.rest input).length = input.length :=
      index.length_rest_step context input
    rw [List.countP_cons]
    split
    · next hmoves =>
      have hpos : 0 < step.taken.length := by
        rw [hfits.replaces_iff] at hmoves
        simpa [List.length_pos_iff] using hmoves
      omega
    · omega

/-- A scan has at most as many rewrites as its text has characters. -/
theorem countP_replacesPrevious_steps_le_length (index : Index) (context : Context)
    (input : Text) :
    (index.steps context input).countP (·.replacesPrevious) ≤ input.length := by
  by_cases hinput : input = []
  · simp [hinput]
  · have hrewrites := index.countP_replacesPrevious_steps_le context hinput
    have hmoves := index.countP_not_replacesPrevious_steps_le context input
    omega

/-- A scan has at most twice as many steps as its text has characters. -/
theorem length_steps_le (index : Index) (context : Context) (input : Text) :
    (index.steps context input).length ≤ 2 * input.length := by
  have hrewrites := index.countP_replacesPrevious_steps_le_length context input
  have hmoves := index.countP_not_replacesPrevious_steps_le context input
  rw [List.length_eq_countP_add_countP (·.replacesPrevious)]
  simp only [decide_not, Bool.decide_eq_true]
  omega

end Index

namespace Session

/-- A session that only takes steps is at the end of its text after the steps of the scan. -/
theorem rest_run_replicate_step (index : Index) (context : Context) (input : Text)
    (strides : List Nat) {n : Nat} (hn : (index.steps context input).length ≤ n) :
    (run index ⟨⟨context, input⟩, strides⟩ (List.replicate n .step)).cursor.rest = [] := by
  induction n generalizing context input strides with
  | zero =>
    show input = []
    by_contra hinput
    rw [index.steps_of_ne_nil context hinput, List.length_cons] at hn
    omega
  | succ n ih =>
    rw [List.replicate_succ, run, List.foldl_cons, handle]
    refine ih _ _ _ ?_
    by_cases hinput : input = []
    · subst hinput
      simp [Cursor.next, Step.idle, Step.rest, Text.dropBytes?]
    · rw [index.steps_of_ne_nil context hinput, List.length_cons] at hn
      exact Nat.le_of_succ_le_succ hn

/-- In every session from a fresh context, whatever is fed and overwritten in between, the cursor
has to move on exactly if the last step on a nonempty text took nothing, and of two such steps in a
row one moves on. A session that only takes steps on a text of `n` characters has read it after
`2 * n` of them; the scan has no more steps than that and at most `n` rewrites. -/
theorem guarded_and_scan_bounded (index : Index) :
    (∀ (t : Text) (events : List Cursor.Event),
      let session := (start t).run index events
      (session.cursor.context.mustAdvance = true ↔ session.strides.head? = some 0) ∧
        session.strides.IsChain fun later earlier => later = 0 → earlier ≠ 0) ∧
    ∀ input : Text,
      ((start input).run index (List.replicate (2 * input.length) .step)).cursor.rest = [] ∧
      (index.steps .fresh input).length ≤ 2 * input.length ∧
      (index.steps .fresh input).countP (·.replacesPrevious) ≤ input.length := by
  refine ⟨fun t events => ?_, fun input => ⟨?_, ?_, ?_⟩⟩
  · have h := (guarded_start t).run index events
    exact ⟨h.mustAdvance_iff, h.alternating⟩
  · exact rest_run_replicate_step index .fresh input [] (index.length_steps_le .fresh input)
  · exact index.length_steps_le .fresh input
  · exact index.countP_replacesPrevious_steps_le_length .fresh input

end Session

end Syllabary
