import Syllabary.Proofs.Longest

/-!
# Step boundaries

A rule is plain if it writes a fixed output for its key and takes just this key. Where all rules
are plain, a step takes the longest front part that is found, and takes it alike in every context
and before every other text that lets it be the longest. So a scan can be cut at the end of any of
its steps. What stands behind the cut has only refused the longer candidates, and the text before
it, scanned by itself, has fewer of these.

## Main statements

* `Index.length_le_taken_step`: no front part that is found is longer than what the step takes.
* `Index.step_append_eq`: a step that ends within the front of an input is the step on this front.
* `Index.steps_append_eq`: a scan falls apart at the end of each of its steps.
* `Index.convert_append_of_boundary`: so does the conversion.
-/

namespace Syllabary

/-- The rule writes a fixed output for its key and takes the key. -/
def Rule.IsPlain (rule : Rule) : Prop := ∃ output, rule.action = .literal output none

theorem Rule.isPlain_literal (key output : Text) : (literal key output).IsPlain := ⟨output, rfl⟩

/-- A plain rule does not look at its surroundings. -/
theorem Rule.IsPlain.perform?_eq {rule : Rule} (h : rule.IsPlain) (rules : RuleView)
    (context : Context) (input trigger : Text) :
    rule.perform? rules context input trigger =
      some (.accept input trigger (rule.output?.getD []) trigger.length none) := by
  obtain ⟨key, action⟩ := rule
  obtain ⟨output, haction⟩ := h
  obtain rfl : action = .literal output none := haction
  rfl

/-- Only the part of the input that is taken counts. -/
theorem Step.accept_append {s : Text} {length : Nat} (hlength : length ≤ s.length) (w : Text)
    (trigger output : Text) (lastOutput? : Option Text) :
    accept (s ++ w) trigger output length lastOutput? =
      accept s trigger output length lastOutput? := by
  unfold accept
  rw [List.take_append_of_le_length hlength]

namespace Index

variable {normalizer : Normalizer} {set : RuleSet} {context other : Context} {input front : Text}

section

variable (hset : ∀ rule ∈ set, rule.IsPlain)

include hset

/-! ## Steps -/

/-- A front part is accepted exactly if it is found. -/
theorem attempt_of_isPlain (context : Context) (input front : Text) :
    (ofRules normalizer set).attempt context input front =
      ((ofRules normalizer set).lookup? front).map fun rule =>
        .accept input front (rule.output?.getD []) front.length none := by
  rw [attempt, Option.map_eq_bind]
  apply Option.bind_congr
  intro rule hrule
  exact (hset rule (mem_of_lookup? hrule).1).perform?_eq _ context input front

/-- What comes before and behind a front part does not change how it is taken. -/
theorem attempt_append {s : Text} (hfront : front <+: s) (w : Text) :
    (ofRules normalizer set).attempt context (s ++ w) front =
      (ofRules normalizer set).attempt other s front := by
  rw [attempt_of_isPlain hset, attempt_of_isPlain hset]
  simp only [Step.accept_append hfront.length_le]

/-- A step takes the front part that decides about it. -/
theorem taken_of_decides {step : Step}
    (h : (ofRules normalizer set).Decides context input front step) : step.taken = front := by
  have haccepted := h.accepted
  rw [attempt_of_isPlain hset, Option.map_eq_some_iff] at haccepted
  obtain ⟨rule, -, rfl⟩ := haccepted
  exact (List.prefix_iff_eq_take.mp h.isFront).symm

/-- No front part that is found is longer than what the step takes. -/
theorem length_le_taken_step (hne : front ≠ []) (hfront : front <+: input)
    (hfound : (ofRules normalizer set).attempt context input front ≠ none) :
    front.length ≤ ((ofRules normalizer set).step context input).taken.length := by
  obtain ⟨c, t, rfl⟩ :=
    List.exists_cons_of_ne_nil fun h => hne (List.prefix_nil.mp (h ▸ hfront))
  rcases exists_decides_or_passThrough normalizer set context c t with ⟨longest, hdecides⟩ | hpass
  · rw [taken_of_decides hset hdecides]
    by_contra hlt
    exact hfound (hdecides.longest front hfront (Nat.lt_of_not_le hlt))
  · exact absurd (hpass.1 front hne hfront) hfound

/-- Every step takes something. -/
theorem taken_step_ne_nil (hinput : input ≠ []) :
    ((ofRules normalizer set).step context input).taken ≠ [] := by
  apply taken_step_ne_nil_of_decides hinput
  intro front step hdecides
  rw [taken_of_decides hset hdecides]
  exact hdecides.ne_nil

/-- A step that ends within the front of an input is the step on this front by itself, in any
context. -/
theorem step_append_eq {s w : Text} (hs : s ≠ [])
    (htaken : ((ofRules normalizer set).step context (s ++ w)).taken.length ≤ s.length) :
    (ofRules normalizer set).step context (s ++ w) = (ofRules normalizer set).step other s := by
  obtain ⟨c, t, rfl⟩ := List.exists_cons_of_ne_nil hs
  -- candidates that reach beyond the front are refused, since the step would take them
  have hbeyond (k : Nat) (hlt : (c :: t).length < k) (hk : k ≤ (c :: t ++ w).length) :
      (ofRules normalizer set).attempt context (c :: t ++ w) ((c :: t ++ w).take k) = none := by
    by_contra hfound
    have hlength : ((c :: t ++ w).take k).length = k := List.length_take_of_le hk
    have hle := length_le_taken_step hset (List.ne_nil_of_length_pos (by omega))
      (List.take_prefix k _) hfound
    omega
  have hlonger : (c :: t).length ≤ (c :: t ++ w).length := (List.prefix_append _ w).length_le
  have hwithin : (ofRules normalizer set).firstAccepted context (c :: t ++ w) (c :: t).length =
      (ofRules normalizer set).firstAccepted other (c :: t) (c :: t).length := by
    apply firstAccepted_congr
    intro k hk
    rw [List.take_append_of_le_length (Nat.succ_le_of_lt hk)]
    exact attempt_append hset (List.take_prefix _ _) w
  calc (ofRules normalizer set).step context (c :: t ++ w)
      = ((ofRules normalizer set).firstAccepted context (c :: t ++ w)
          (c :: t ++ w).length).getD (.passThrough c) := step_ofRules_cons context c (t ++ w)
    _ = ((ofRules normalizer set).firstAccepted other (c :: t) (c :: t).length).getD
          (.passThrough c) := by rw [firstAccepted_eq_of_le hlonger hbeyond, hwithin]
    _ = (ofRules normalizer set).step other (c :: t) := (step_ofRules_cons other c t).symm

/-! ## Scans -/

/-- The steps of a scan do not depend on the context it starts from. -/
theorem steps_eq_of_isPlain (context other : Context) (input : Text) :
    (ofRules normalizer set).steps context input = (ofRules normalizer set).steps other input := by
  by_cases hinput : input = []
  · rw [hinput, steps_nil, steps_nil]
  · have hstep : (ofRules normalizer set).step context input =
        (ofRules normalizer set).step other input := by
      apply step_congr _ hinput
      intro front _ hfront
      rw [attempt_of_isPlain hset, attempt_of_isPlain hset]
    rw [steps_of_ne_nil _ context hinput, steps_of_ne_nil _ other hinput, hstep]

/-- A scan whose first steps take the front of the input is the scan of this front and then the
scan of what is left. -/
theorem steps_append_eq {u v : Text} {before after : List Step}
    (hsteps : (ofRules normalizer set).steps context (u ++ v) = before ++ after)
    (htaken : before.flatMap Step.taken = u) (other : Context) :
    (ofRules normalizer set).steps other u = before ∧
      (ofRules normalizer set).steps other v = after := by
  induction before generalizing context other u with
  | nil =>
    obtain rfl : [] = u := htaken
    refine ⟨steps_nil _ other, ?_⟩
    rw [steps_eq_of_isPlain hset other context]
    exact hsteps
  | cons step before ih =>
    rw [List.flatMap_cons] at htaken
    have hinput : u ++ v ≠ [] := by
      intro hnil
      rw [hnil, steps_nil] at hsteps
      contradiction
    rw [steps_of_ne_nil _ context hinput, List.cons_append, List.cons.injEq] at hsteps
    obtain ⟨hstep, hlater⟩ := hsteps
    have hpart : step.taken ≠ [] := hstep ▸ taken_step_ne_nil hset hinput
    have hu : u ≠ [] := by
      rw [← htaken]
      exact List.append_ne_nil_of_left_ne_nil hpart _
    have hsame : (ofRules normalizer set).step other u = step := by
      rw [← hstep]
      refine (step_append_eq hset hu ?_).symm
      rw [hstep, ← htaken, List.length_append]
      omega
    -- what the step takes is the front of `u`, so that it leaves the same behind in both texts
    have hfront : step.rest u = before.flatMap Step.taken := Step.rest_eq_of_append htaken
    have hwhole : step.rest (u ++ v) = before.flatMap Step.taken ++ v := by
      apply Step.rest_eq_of_append
      rw [← List.append_assoc, htaken]
    rw [hstep, hwhole] at hlater
    obtain ⟨hbefore, -⟩ := ih hlater rfl step.context
    obtain ⟨-, hafter⟩ := ih hlater rfl other
    exact ⟨by rw [steps_of_ne_nil _ other hu, hsame, hfront, hbefore], hafter⟩

/-- Where plain rules are all there is, and the end of a step of the scan of `u ++ v` falls between
the two texts, the scans of the two are the parts of this scan, and the conversions of the two make
up the conversion of the whole. -/
theorem convert_append_of_boundary {u v : Text} {before after : List Step}
    (hsteps : (ofRules normalizer set).steps .fresh (u ++ v) = before ++ after)
    (hboundary : before.flatMap Step.taken = u) :
    (ofRules normalizer set).steps .fresh u = before ∧
      (ofRules normalizer set).steps .fresh v = after ∧
      (ofRules normalizer set).convert (u ++ v) =
        (ofRules normalizer set).convert u ++ (ofRules normalizer set).convert v := by
  obtain ⟨hu, hv⟩ := steps_append_eq hset hsteps hboundary .fresh
  have hconvert (t : Text) :
      (ofRules normalizer set).convert t = (ofRules normalizer set).outputs .fresh t :=
    convert_eq_outputs (fun _ _ hinput => taken_step_ne_nil hset hinput) t
  refine ⟨hu, hv, ?_⟩
  rw [hconvert, hconvert, hconvert, outputs, outputs, outputs, hsteps, hu, hv, List.flatMap_append]

end

/-- The longest key reaches over the boundary but is not found. -/
theorem convert_append_of_boundary_kana :
    let set : RuleSet := [.literal ['k', 'a'] ['か'], .literal ['n', 'a'] ['な'],
      .literal ['k', 'a', 'n', 'i'] ['蟹']]
    (∀ rule ∈ set, rule.IsPlain) ∧
      (∃ before after, (ofRules .unicode set).steps .fresh (['K', 'a'] ++ ['n', 'a']) =
          before ++ after ∧ before.flatMap Step.taken = ['K', 'a']) ∧
      (ofRules .unicode set).convert (['K', 'a'] ++ ['n', 'a']) =
        (ofRules .unicode set).convert ['K', 'a'] ++ (ofRules .unicode set).convert ['n', 'a'] := by
  intro set
  have hset : ∀ rule ∈ set, rule.IsPlain := by simp [set, Rule.isPlain_literal]
  obtain ⟨after, hsteps⟩ : ∃ after, (ofRules .unicode set).steps .fresh (['K', 'a'] ++ ['n', 'a']) =
      [(ofRules .unicode set).step .fresh (['K', 'a'] ++ ['n', 'a'])] ++ after :=
    ⟨_, steps_of_ne_nil _ _ (by simp)⟩
  have hfirst : [(ofRules .unicode set).step .fresh (['K', 'a'] ++ ['n', 'a'])].flatMap
      Step.taken = ['K', 'a'] := by decide +kernel
  exact ⟨hset, ⟨_, _, hsteps, hfirst⟩, (convert_append_of_boundary hset hsteps hfirst).2.2⟩

end Index

end Syllabary
