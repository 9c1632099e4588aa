import Syllabary.Proofs.Stretches

/-!
# Look-ahead

A literal rule looks at nothing but its key. So a step by literal rules is settled as soon as the
text goes as far as its first character reaches, and more text behind it changes nothing but one
thing: a stride may lead beyond the end of the text, and then takes what there is. A step that
leaves something is therefore final, and a caller may scan a text while it still arrives.

## Main statements

* `Rule.exists_accept_of_isLiteral`: a literal rule does the same in all surroundings.
* `Index.step_eq_clip`: a step on the front of a text is the step on the text, clipped.
* `Index.Stretch.feed`: a stretch stays the same when text is added behind a rest within reach.
* `Index.step_of_reach`: what the two steps have in common, field by field.
-/

namespace Syllabary

/-- The step with no more than `n` of the characters that it takes. -/
def Step.clip (step : Step) (n : Nat) : Step := { step with taken := step.taken.take n }

namespace Step

@[simp] theorem output_clip (step : Step) (n : Nat) : (step.clip n).output = step.output := rfl

@[simp] theorem context_clip (step : Step) (n : Nat) : (step.clip n).context = step.context := rfl

@[simp] theorem replacesPrevious_clip (step : Step) (n : Nat) :
    (step.clip n).replacesPrevious = step.replacesPrevious := rfl

@[simp] theorem consumed_clip (step : Step) (n : Nat) :
    (step.clip n).consumed = min step.consumed n := by
  rw [consumed, consumed, clip, List.length_take, Nat.min_comm]

/-- A step that takes less is not clipped. -/
theorem clip_eq_self {step : Step} {n : Nat} (h : step.consumed ≤ n) : step.clip n = step := by
  rw [clip, List.take_of_length_le h]

theorem clip_passThrough (c : Char) {n : Nat} (hn : n ≠ 0) :
    (passThrough c).clip n = passThrough c :=
  clip_eq_self (Nat.one_le_iff_ne_zero.mpr hn)

/-- Where something is taken, less text shows in what is taken and nowhere else. -/
theorem accept_eq_clip {u : Text} (hu : u ≠ []) (w trigger output : Text) {length : Nat}
    (hlength : length ≠ 0) (lastOutput? : Option Text) :
    accept u trigger output length lastOutput? =
      (accept (u ++ w) trigger output length lastOutput?).clip u.length := by
  have htaken : ((u ++ w).take length).take u.length = u.take length := by
    rw [List.take_take, Nat.min_comm, ← List.take_take, List.take_left]
  have hempty {t : Text} (ht : t ≠ []) : (t.take length).isEmpty = false := by
    rw [List.isEmpty_eq_false_iff, Ne, List.take_eq_nil_iff]
    exact not_or.mpr ⟨hlength, ht⟩
  simp only [accept, clip, htaken, hempty hu, hempty (List.append_ne_nil_of_left_ne_nil hu w)]

end Step

/-- A literal rule accepts its trigger, and writes and takes the same in all surroundings. -/
theorem Rule.exists_accept_of_isLiteral {rule : Rule} (h : rule.isLiteral = true) {trigger : Text}
    (htrigger : trigger ≠ []) :
    ∃ output length, length ≠ 0 ∧ ∀ rules context input,
      rule.perform? rules context input trigger =
        some (.accept input trigger output length none) := by
  obtain ⟨key, action⟩ := rule
  cases action with
  | literal output stride? =>
    refine ⟨output, _, ?_, fun _ _ _ => rfl⟩
    cases stride? with
    | none => exact mt List.length_eq_zero_iff.mp htrigger
    | some stride => exact Nat.ne_of_gt stride.property
  | computed => simp [isLiteral] at h

namespace Index

variable {normalizer : Normalizer} {set : RuleSet} {context : Context} {u front : Text}

/-- A step that leaves something takes less than there is. -/
theorem consumed_next_lt {index : Index} {cursor : Cursor} (h : (cursor.advance index).rest ≠ []) :
    (cursor.next index).consumed < cursor.rest.length := by
  have hlength : (cursor.next index).consumed + (cursor.advance index).rest.length =
      cursor.rest.length := length_rest_step index cursor.context cursor.rest
  have hleft := List.length_pos_iff.mpr h
  omega

section

variable (hset : ∀ rule ∈ set, rule.isLiteral = true)

include hset

/-! ## Steps -/

theorem attempt_eq_clip (hu : u ≠ []) (hfront : front ≠ []) (w : Text) :
    (ofRules normalizer set).attempt context u front =
      ((ofRules normalizer set).attempt context (u ++ w) front).map (·.clip u.length) := by
  rw [attempt, attempt, Option.map_bind]
  apply Option.bind_congr
  intro rule hrule
  obtain ⟨output, length, hlength, hperform⟩ :=
    Rule.exists_accept_of_isLiteral (hset rule (mem_of_lookup? hrule).1) hfront
  rw [Function.comp_apply, hperform, hperform, Option.map_some,
    Step.accept_eq_clip hu w front output hlength]

theorem firstAccepted_eq_clip (hu : u ≠ []) (w : Text) {n : Nat} (hn : n ≤ u.length) :
    (ofRules normalizer set).firstAccepted context u n =
      ((ofRules normalizer set).firstAccepted context (u ++ w) n).map (·.clip u.length) := by
  induction n with
  | zero => rfl
  | succ n ih =>
    -- the candidates within `u` are the same in both texts
    have hfront : (u ++ w).take (n + 1) = u.take (n + 1) := List.take_append_of_le_length hn
    have hne : u.take (n + 1) ≠ [] := by simp [hu]
    rw [firstAccepted_succ, firstAccepted_succ, hfront, Option.map_or,
      attempt_eq_clip hset hu hne w, ih (Nat.le_of_succ_le hn)]

/-- A step on the front of a text that goes as far as its first character reaches is the step on
the text, clipped to the front. -/
theorem step_eq_clip {c : Char} {t : Text}
    (hreach : ∀ bound, (ofRules normalizer set).maxKeyLength? c = some bound →
      bound ≤ (c :: t).length) (w : Text) :
    (ofRules normalizer set).step context (c :: t) =
      ((ofRules normalizer set).step context (c :: t ++ w)).clip (c :: t).length := by
  have hbound : ((ofRules normalizer set).maxKeyLength? c).getD 0 ≤ (c :: t).length := by
    cases hc : (ofRules normalizer set).maxKeyLength? c with
    | none => exact Nat.zero_le _
    | some bound => exact hreach bound hc
  have hne : c :: t ≠ [] := List.cons_ne_nil c t
  have hpass : (Step.passThrough c).clip (c :: t).length = .passThrough c :=
    Step.clip_passThrough c (Nat.succ_ne_zero _)
  rw [List.cons_append, step_cons, step_cons, ← List.cons_append,
    List.take_append_of_le_length hbound,
    firstAccepted_eq_clip hset hne w (List.length_take_le' _ _)]
  nth_rewrite 1 [← hpass]
  rw [Option.getD_map]

/-! ## Scans -/

/-- A step that leaves something of a text within reach stays the same when text is added. -/
theorem next_feed {cursor : Cursor} (hrest : (cursor.advance (ofRules normalizer set)).rest ≠ [])
    (hreach : ∀ c bound, (ofRules normalizer set).maxKeyLength? c = some bound →
      bound ≤ cursor.rest.length) (w : Text) :
    (cursor.feed w).next (ofRules normalizer set) = cursor.next (ofRules normalizer set) := by
  obtain ⟨context, u⟩ := cursor
  cases u with
  | nil => exact absurd rfl hrest
  | cons c t =>
    have hpart : (Cursor.next ⟨context, c :: t⟩ (ofRules normalizer set)).consumed <
        (c :: t).length := consumed_next_lt hrest
    have hclip : Cursor.next ⟨context, c :: t⟩ (ofRules normalizer set) =
        (Cursor.next ⟨context, c :: t ++ w⟩ (ofRules normalizer set)).clip (c :: t).length :=
      step_eq_clip hset (hreach c) w
    -- the clipped step is shorter than the text, and so it is the whole step
    rw [hclip, Step.consumed_clip] at hpart
    exact (hclip.trans (Step.clip_eq_self (by omega))).symm

/-- Text that is added does not change the place behind such a step. -/
theorem advance_feed {cursor : Cursor} (hrest : (cursor.advance (ofRules normalizer set)).rest ≠ [])
    (hreach : ∀ c bound, (ofRules normalizer set).maxKeyLength? c = some bound →
      bound ≤ cursor.rest.length) (w : Text) :
    (cursor.feed w).advance (ofRules normalizer set) =
      (cursor.advance (ofRules normalizer set)).feed w := by
  have hfront : (cursor.next (ofRules normalizer set)).taken ++
      (cursor.next (ofRules normalizer set)).rest cursor.rest = cursor.rest :=
    append_rest_step _ cursor.context cursor.rest
  have hleft : (cursor.next (ofRules normalizer set)).rest (cursor.rest ++ w) =
      (cursor.next (ofRules normalizer set)).rest cursor.rest ++ w := by
    apply Step.rest_eq_of_append
    rw [← List.append_assoc, hfront]
  show Cursor.mk ((cursor.feed w).next _).context (((cursor.feed w).next _).rest (cursor.rest ++ w))
    = _
  rw [next_feed hset hrest hreach w, hleft]
  rfl

/-- Text that is added behind a stretch does not change its steps, as long as the stretch leaves
enough for the longest key. So a scan may begin before all of its text is there. -/
theorem Stretch.feed {start stop : Cursor} {steps : List Step}
    (h : (ofRules normalizer set).Stretch start steps stop) (hrest : stop.rest ≠ [])
    (hreach : ∀ c bound, (ofRules normalizer set).maxKeyLength? c = some bound →
      bound ≤ stop.rest.length) (w : Text) :
    (ofRules normalizer set).Stretch (start.feed w) steps (stop.feed w) := by
  induction h with
  | refl cursor => exact .refl _
  | @step cursor stop steps hne hnext ih =>
    -- what the stretch leaves is left by each of its steps
    have hends : stop.rest <:+ (cursor.advance (ofRules normalizer set)).rest :=
      ⟨_, hnext.flatMap_taken_append⟩
    have hadvance : (cursor.advance (ofRules normalizer set)).rest ≠ [] := by
      intro hnil
      rw [hnil, List.suffix_nil] at hends
      exact hrest hends
    have hreach' (c : Char) (bound : Nat)
        (hbound : (ofRules normalizer set).maxKeyLength? c = some bound) :
        bound ≤ cursor.rest.length :=
      calc bound ≤ stop.rest.length := hreach c bound hbound
        _ ≤ (cursor.advance (ofRules normalizer set)).rest.length := hends.length_le
        _ ≤ cursor.rest.length :=
          (rest_step_suffix _ cursor.context cursor.rest).length_le
    rw [← next_feed hset hadvance hreach' w]
    apply Stretch.step (List.append_ne_nil_of_left_ne_nil hne w)
    rw [advance_feed hset hadvance hreach' w]
    exact ih hrest hreach

end

/-! ## Early steps -/

/-- Where all rules are literal, a step may be taken as soon as the text goes as far as its first
character reaches. Then it writes the same, leaves the same context and replaces the same as the
step on any longer text, and takes as much as that step does, as far as the text goes. -/
theorem step_of_reach (hset : ∀ rule ∈ set, rule.isLiteral = true) (context : Context)
    (hu : u ≠ []) (hreach : ∀ c bound, u.head? = some c →
      (ofRules normalizer set).maxKeyLength? c = some bound → bound ≤ u.length) (w : Text) :
    let early := (ofRules normalizer set).step context u
    let whole := (ofRules normalizer set).step context (u ++ w)
    early.output = whole.output ∧ early.context = whole.context ∧
      early.replacesPrevious = whole.replacesPrevious ∧
      early.consumed = min whole.consumed u.length := by
  obtain ⟨c, t, rfl⟩ := List.exists_cons_of_ne_nil hu
  dsimp only
  rw [step_eq_clip hset (fun bound => hreach c bound rfl) w]
  exact ⟨rfl, rfl, rfl, Step.consumed_clip _ _⟩

/-- The stride leads beyond the front, and the folded character reaches as far as the front. -/
theorem step_of_reach_kk :
    let set : RuleSet := [.literal ['k', 'a'] ['か'], .literalWithLength ['k', 'k'] ['ッ'] 3]
    let early := (ofRules .unicode set).step .fresh ['K', 'k']
    let whole := (ofRules .unicode set).step .fresh (['K', 'k'] ++ ['a', 'n'])
    (ofRules .unicode set).maxKeyLength? 'K' = some 2 ∧ early.context = whole.context ∧
      whole.consumed = 3 ∧ early.consumed = 2 := by
  intro set early whole
  have hset : ∀ rule ∈ set, rule.isLiteral = true := by decide
  have hreach : (ofRules .unicode set).maxKeyLength? 'K' = some 2 := by decide +kernel
  have hwhole : whole.consumed = 3 := by decide +kernel
  obtain ⟨-, hcontext, -, hconsumed⟩ := step_of_reach hset .fresh (List.cons_ne_nil 'K' ['k'])
    (fun c bound hc hbound => by
      obtain rfl : 'K' = c := Option.some.inj hc
      exact (Option.some.inj (hreach.symm.trans hbound)).ge) ['a', 'n']
  exact ⟨hreach, hcontext, hwhole, hconsumed.trans (by rw [hwhole]; rfl)⟩

end Index

end Syllabary
