import Syllabary.Scan.Conversion

/-!
# The buffer of a conversion

A conversion writes into a buffer of bytes. Where a step takes nothing, the buffer is first cut back
by the size of the last output, and after every step the input is cut behind what the step took.
`Progress.finish?` is this loop with all its cuts, each of which fails where a position lies outside
the text or inside a character. No cut ever fails: the buffer always ends with the last output,
whatever the next step is shown as such, and the input always begins with what the step took.

## Main statements

* `Written.text_foldl_push`: what steps add to a buffer is the outputs that last.
* `Progress.finish?_eq_some`: the loop with its cuts ends and writes what the steps write.
* `Index.convert_eq_flatMap_lasting`: a conversion is made of the outputs that no rewrite follows.
-/

namespace Syllabary

namespace Text

/-- The text without its last `n` bytes, unless it has fewer or the cut falls inside a
character. -/
def dropLastBytes? (n : Nat) (t : Text) : Option Text :=
  if t.utf8Size < n then none
  else (t.dropBytes? (t.utf8Size - n)).map fun cut => t.take (t.length - cut.length)

/-- Cutting back by the size of the end of a text leaves what stands before it. -/
theorem dropLastBytes?_append (s t : Text) : dropLastBytes? t.utf8Size (s ++ t) = some s := by
  rw [dropLastBytes?, utf8Size_append, if_neg (by omega), Nat.add_sub_cancel, dropBytes?_append,
    Option.map_some, List.length_append, Nat.add_sub_cancel, List.take_left]

end Text

/-! ## Outputs that last -/

namespace Step

/-- The steps that no rewrite follows at once. -/
def lasting : List Step → List Step
  | [] => []
  | step :: steps =>
    if steps.head?.any Step.replacesPrevious then lasting steps else step :: lasting steps

end Step

namespace Written

/-- What is written when the last output `last` stands behind `before`. -/
def ofParts (before last : Text) : Written := ⟨(before ++ last).reverse, last.length⟩

/-- What a step leaves standing of `before` and `last`. -/
def kept (before last : Text) (step : Step) : Text :=
  if step.replacesPrevious then before else before ++ last

@[simp] theorem text_ofParts (before last : Text) : (ofParts before last).text = before ++ last :=
  List.reverse_reverse _

theorem push_ofParts (before last : Text) (step : Step) :
    (ofParts before last).push step = ofParts (kept before last step) step.output := by
  unfold push ofParts kept
  split <;> simp

/-- After every step the buffer ends with the output of the step. -/
theorem foldl_push_concat (before last : Text) (steps : List Step) (step : Step) :
    ∃ front, (steps ++ [step]).foldl push (ofParts before last) = ofParts front step.output := by
  induction steps generalizing before last with
  | nil => exact ⟨_, push_ofParts before last step⟩
  | cons first steps ih =>
    rw [List.cons_append, List.foldl_cons, push_ofParts]
    exact ih _ _

/-- Steps keep the end of the buffer unless they start with a rewrite, and add the outputs that
last. -/
theorem text_foldl_push (before last : Text) (steps : List Step) :
    (steps.foldl push (ofParts before last)).text =
      (if steps.head?.any Step.replacesPrevious then before else before ++ last) ++
        (Step.lasting steps).flatMap Step.output := by
  induction steps generalizing before last with
  | nil => simp [Step.lasting]
  | cons step steps ih =>
    rw [List.foldl_cons, push_ofParts, ih, Step.lasting]
    by_cases hnext : steps.head?.any Step.replacesPrevious
    · rw [if_pos hnext, if_pos hnext]
      rfl
    · rw [if_neg hnext, if_neg hnext, List.flatMap_cons, List.append_assoc]
      rfl

end Written

/-! ## The loop with its cuts -/

/-- How far a conversion has come. -/
structure Progress where
  /-- What is written. -/
  buffer : Text
  /-- The size in bytes of the output of the last step. -/
  lastSize : Nat
  context : Context
  /-- The text that is still to be scanned. -/
  rest : Text

namespace Progress

/-- The start of a conversion. -/
def start (input : Text) : Progress := ⟨[], 0, .fresh, input⟩

/-- What a step leaves of the buffer, unless the cut fails. -/
def kept? (progress : Progress) (step : Step) : Option Text :=
  if step.replacesPrevious then progress.buffer.dropLastBytes? progress.lastSize
  else some progress.buffer

/-- The progress after one more step, unless one of its cuts fails. -/
def next? (index : Index) (progress : Progress) : Option Progress := do
  let step := index.step progress.context progress.rest
  let kept ← progress.kept? step
  let rest ← progress.rest.dropBytes? step.taken.utf8Size
  return ⟨kept ++ step.output, step.output.utf8Size, step.context, rest⟩

theorem budget_next?_lt {index : Index} {progress later : Progress} (hrest : progress.rest ≠ [])
    (h : progress.next? index = some later) :
    later.context.budget later.rest < progress.context.budget progress.rest := by
  simp only [next?, Option.bind_eq_bind, Option.bind_eq_some_iff] at h
  obtain ⟨kept, -, rest, hcut, heq⟩ := h
  obtain rfl := Option.some.inj heq
  have hstep := index.budget_step_lt progress.context hrest
  rw [Step.rest, hcut] at hstep
  exact hstep

/-- Takes steps until the text is used up, unless a cut fails. -/
def finish? (index : Index) (progress : Progress) : Option Text :=
  if _h : progress.rest = [] then some progress.buffer
  else
    match _hnext : progress.next? index with
    | none => none
    | some later => finish? index later
termination_by progress.context.budget progress.rest
decreasing_by exact budget_next?_lt (by assumption) (by assumption)

/-- No cut fails while the buffer ends with the last output. -/
theorem next?_eq_some (index : Index) (before last : Text) (context : Context) (rest : Text) :
    next? index ⟨before ++ last, last.utf8Size, context, rest⟩ =
      some ⟨Written.kept before last (index.step context rest) ++ (index.step context rest).output,
        (index.step context rest).output.utf8Size, (index.step context rest).context,
        (index.step context rest).rest rest⟩ := by
  have hkept (step : Step) : kept? ⟨before ++ last, last.utf8Size, context, rest⟩ step =
      some (Written.kept before last step) := by
    rw [kept?, Written.kept, Text.dropLastBytes?_append]
    split <;> rfl
  have hcut : rest.dropBytes? (index.step context rest).taken.utf8Size =
      some ((index.step context rest).rest rest) :=
    Text.dropBytes?_eq_some_iff.mpr ⟨_, (index.append_rest_step context rest).symm, rfl⟩
  rw [next?, hkept, hcut]
  rfl

/-- The loop ends and has written what the steps write. -/
theorem finish?_eq_some (index : Index) (before last : Text) (context : Context) (rest : Text) :
    finish? index ⟨before ++ last, last.utf8Size, context, rest⟩ =
      some ((index.steps context rest).foldl Written.push (.ofParts before last)).text := by
  fun_induction index.steps context rest generalizing before last with
  | case1 => rw [finish?, dif_pos rfl, List.foldl_nil, Written.text_ofParts]
  | case2 context rest hrest step ih =>
    rw [finish?, dif_neg hrest, List.foldl_cons, Written.push_ofParts, ← ih]
    split
    · next hnext => rw [next?_eq_some] at hnext; contradiction
    · next later hnext =>
      rw [next?_eq_some] at hnext
      rw [← Option.some.inj hnext]

end Progress

namespace Index

/-- A conversion is made of the outputs that no rewrite follows at once. Where a rewrite cuts the
buffer back, the buffer ends with the output of the step before, so that the cut leaves what was
written before that step. The loop with its cuts never fails, and what the steps take makes up the
input. -/
theorem convert_eq_flatMap_lasting (index : Index) (input : Text) :
    index.convert input = (Step.lasting (index.steps .fresh input)).flatMap Step.output ∧
    (∀ before last rewrite after,
      index.steps .fresh input = before ++ last :: rewrite :: after →
      rewrite.replacesPrevious = true →
      ∃ kept, Step.write (before ++ [last]) = kept ++ last.output ∧
        Text.dropLastBytes? last.output.utf8Size (Step.write (before ++ [last])) = some kept ∧
        Step.write (before ++ [last, rewrite]) = kept ++ rewrite.output) ∧
    (Progress.start input).finish? index = some (index.convert input) ∧
    (index.steps .fresh input).flatMap Step.taken = input := by
  refine ⟨?_, ?_, Progress.finish?_eq_some index [] [] .fresh input,
    index.flatMap_taken_steps .fresh input⟩
  · have h := Written.text_foldl_push [] [] (index.steps .fresh input)
    rwa [List.append_nil, ite_self, List.nil_append] at h
  · intro before last rewrite after _ hrewrite
    obtain ⟨kept, hkept⟩ := Written.foldl_push_concat [] [] before last
    have hlast : Step.write (before ++ [last]) = kept ++ last.output := by
      rw [← Written.text_ofParts, ← hkept]
      rfl
    refine ⟨kept, hlast, ?_, ?_⟩
    · rw [hlast, Text.dropLastBytes?_append]
    · calc Step.write (before ++ [last, rewrite])
          = (((before ++ [last]).foldl Written.push (.ofParts [] [])).push rewrite).text := by
            rw [List.append_cons, Step.write, List.foldl_append]
            rfl
        _ = (Written.ofParts kept rewrite.output).text := by
            rw [hkept, Written.push_ofParts, Written.kept, if_pos hrewrite]
        _ = kept ++ rewrite.output := Written.text_ofParts _ _

end Index

end Syllabary
