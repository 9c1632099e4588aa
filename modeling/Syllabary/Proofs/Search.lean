import Syllabary.Proofs.Reach
import Syllabary.Scan.Step

/-!
# Searching without the index

A step looks no further than the reach of the first character of the input. The search that this
module sets against it knows the list of rules only: it tries every front part of the input, the
whole input first, and asks for each whether the last rule that claims it, or else its lowercase,
accepts. Both find the same. What is found as it stands is no longer than the reach of its first
character. What is found in lower case is no shorter than the text in the input and begins with the
folded first character, so it is within the reach as well, however lowercasing changes the text
behind its first character.

## Main statements

* `Index.length_le_maxKeyLength?_of_lookup?`: a text that is found is within the reach.
* `Index.step_ofRules_eq_exhaustiveStep`: a step is the step of the exhaustive search.
-/

namespace Syllabary

open Unicode (lowercase foldChar)

/-! ## The exhaustive search -/

/-- The nonempty front parts of a text, from the whole text down to its first character. -/
def Text.fronts (t : Text) : List Text :=
  (List.range t.length).reverse.map fun n => t.take (n + 1)

/-- The occurrence of a trigger at the front of an input. -/
def Context.occurrence (context : Context) (rules : RuleView) (input trigger : Text) :
    Occurrence :=
  ⟨rules, trigger, input.drop trigger.length, context.lastInput, context.lastOutput⟩

/-- A literal rule accepts every occurrence. A computed rule accepts unless its operation rejects,
or asks to take nothing where the step has to move on. -/
def Rule.accepts (rule : Rule) (context : Context) (occurrence : Occurrence) : Bool :=
  match rule.action with
  | .literal .. => true
  | .computed _ operation =>
    match operation occurrence with
    | .reject => false
    | .accept _ length _ => !(length == 0 && context.mustAdvance)

namespace RuleSet

/-- The last rule that claims the text, or else the last one that claims its lowercase. -/
def lookup? (normalizer : Normalizer) (set : RuleSet) (t : Text) : Option Rule :=
  (set.owner? normalizer t).or (set.owner? normalizer (lowercase t))

/-- The step that the exhaustive search takes on an input with a first character: it applies the
rule of the longest front part whose rule accepts. Operations are shown `rules`. -/
def exhaustiveStep (normalizer : Normalizer) (set : RuleSet) (rules : RuleView)
    (context : Context) (c : Char) (t : Text) : Step :=
  let input := c :: t
  let found? := (Text.fronts input).findSome? fun trigger =>
    (set.lookup? normalizer trigger).bind fun rule =>
      if rule.accepts context (context.occurrence rules input trigger) then
        rule.perform? rules context input trigger
      else none
  found?.getD (.passThrough c)

end RuleSet

/-- Accepting is what makes a rule apply. -/
theorem Rule.isSome_perform? (rule : Rule) (rules : RuleView) (context : Context)
    (input trigger : Text) :
    (rule.perform? rules context input trigger).isSome =
      rule.accepts context (context.occurrence rules input trigger) := by
  unfold Rule.perform? Rule.accepts Context.occurrence
  cases rule.action with
  | literal output stride? => rfl
  | computed declared? operation =>
    dsimp only
    cases operation _ with
    | reject => rfl
    | accept output? length lastOutput? =>
      dsimp only
      cases hmust : context.mustAdvance <;> by_cases hzero : length = 0 <;> simp [hzero]

namespace Index

variable {normalizer : Normalizer} {set : RuleSet}

theorem lookup?_ofRules (t : Text) :
    (ofRules normalizer set).lookup? t = set.lookup? normalizer t := by
  rw [lookup?_eq_or, get?_ofRules, get?_ofRules, RuleSet.lookup?]

/-- A rule that is found claims the text or its lowercase. -/
theorem mem_of_lookup? {t : Text} {rule : Rule}
    (h : (ofRules normalizer set).lookup? t = some rule) :
    rule ∈ set ∧ (rule.Claims normalizer t ∨ rule.Claims normalizer (lowercase t)) := by
  rw [lookup?_ofRules, RuleSet.lookup?, Option.or_eq_some_iff] at h
  rcases h with h | ⟨-, h⟩
  · exact (RuleSet.mem_of_owner? h).imp_right Or.inl
  · exact (RuleSet.mem_of_owner? h).imp_right Or.inr

/-- A text is found if a rule claims its lowercase. -/
theorem exists_lookup?_of_claims {t : Text} {rule : Rule} (hrule : rule ∈ set)
    (hclaims : rule.Claims normalizer (lowercase t)) :
    ∃ found, (ofRules normalizer set).lookup? t = some found := by
  rw [← Option.ne_none_iff_exists', lookup?_ofRules, RuleSet.lookup?, Ne, Option.or_eq_none_iff]
  rintro ⟨-, hnone⟩
  exact RuleSet.owner?_eq_none_iff.mp hnone rule hrule hclaims

/-! ## Nothing that is found lies beyond the reach -/

theorem mem_keys_of_get? {t : Text} {rule : Rule}
    (h : (ofRules normalizer set).get? t = some rule) :
    t ∈ (ofRules normalizer set).keys := by
  rw [mem_keys_iff_get?_ne_none, h]
  exact Option.some_ne_none rule

/-- Where all keys are in lower case, a text is found in lower case or not at all. -/
theorem lookup?_eq_get?_lowercase
    (hkeys : ∀ key ∈ (ofRules normalizer set).keys, lowercase key = key) (t : Text) :
    (ofRules normalizer set).lookup? t = (ofRules normalizer set).get? (lowercase t) := by
  rw [lookup?_eq_or]
  cases hget : (ofRules normalizer set).get? t with
  | none => rw [Option.none_or]
  | some rule => rw [Option.some_or, hkeys t (mem_keys_of_get? hget), hget]

/-- A text is found with the key that is its lowercase, unless it is another key itself. -/
theorem lookup?_of_lowercase {t key : Text} {rule : Rule}
    (hget : (ofRules normalizer set).get? key = some rule) (hlower : lowercase t = key)
    (hkey : t ∈ (ofRules normalizer set).keys → t = key) :
    (ofRules normalizer set).lookup? t = some rule := by
  rw [lookup?_eq_or, hlower, hget]
  by_cases hmem : t ∈ (ofRules normalizer set).keys
  · rw [hkey hmem, hget, Option.some_or]
  · rw [mem_keys_iff_get?_ne_none, not_not] at hmem
    rw [hmem, Option.none_or]

/-- A text that is found, as it stands or in lower case, is no longer than the bound that its first
character sets. -/
theorem length_le_maxKeyLength?_of_lookup? {c : Char} {t : Text} {rule : Rule}
    (h : (ofRules normalizer set).lookup? (c :: t) = some rule) :
    ∃ bound, (ofRules normalizer set).maxKeyLength? c = some bound ∧ (c :: t).length ≤ bound := by
  rw [lookup?_eq_or, Option.or_eq_some_iff] at h
  rcases h with h | ⟨-, h⟩
  · exact le_maxKeyLength? (mem_keys_of_get? h) (Or.inl rfl)
  · -- the key that is found is the lowercase, which may be longer than the text
    obtain ⟨bound, hbound, hle⟩ :=
      le_maxKeyLength? (mem_keys_of_get? h) (Or.inr (Unicode.head?_lowercase c t))
    exact ⟨bound, hbound, (Unicode.length_le_length_lowercase (c :: t)).trans hle⟩

/-- Front parts beyond the reach of the first character are not found. -/
theorem lookup?_take_eq_none {c : Char} {t : Text} {k : Nat}
    (hbeyond : ((ofRules normalizer set).maxKeyLength? c).getD 0 < k) (hk : k ≤ (c :: t).length) :
    (ofRules normalizer set).lookup? ((c :: t).take k) = none := by
  -- `k` is positive, so the front part begins with `c`, whose reach bounds all that is found
  obtain ⟨k, rfl⟩ := Nat.exists_eq_add_of_le' (Nat.zero_lt_of_lt hbeyond)
  rw [List.take_succ_cons, Option.eq_none_iff_forall_ne_some]
  intro rule hrule
  obtain ⟨bound, hbound, hle⟩ := length_le_maxKeyLength?_of_lookup? hrule
  rw [hbound, Option.getD_some] at hbeyond
  rw [List.length_cons, List.length_take] at hle
  rw [List.length_cons] at hk
  omega

/-! ## The two searches agree -/

theorem firstAccepted_eq_findSome? (index : Index) (context : Context) (input : Text) (n : Nat) :
    index.firstAccepted context input n =
      ((List.range n).reverse.map fun k => input.take (k + 1)).findSome?
        (index.attempt context input) := by
  induction n with
  | zero => rfl
  | succ n ih =>
    rw [firstAccepted_succ, ih, List.range_succ, List.reverse_append, List.reverse_singleton,
      List.singleton_append, List.map_cons, List.findSome?_cons]
    cases index.attempt context input (input.take (n + 1)) <;> rfl

/-- Candidates that are refused may be left out from above. -/
theorem firstAccepted_eq_of_le {index : Index} {context : Context} {input : Text} {m n : Nat}
    (hle : m ≤ n)
    (hnone : ∀ k, m < k → k ≤ n → index.attempt context input (input.take k) = none) :
    index.firstAccepted context input n = index.firstAccepted context input m := by
  induction n, hle using Nat.le_induction with
  | base => rfl
  | succ n hmn ih =>
    rw [firstAccepted_succ, hnone (n + 1) (by omega) le_rfl, Option.none_or]
    exact ih fun k hmk hkn => hnone k hmk (by omega)

/-- Two searches that do the same with candidates of the same length find the same. -/
theorem firstAccepted_congr {index other : Index} {context context' : Context}
    {input input' : Text} {n : Nat}
    (h : ∀ k < n, index.attempt context input (input.take (k + 1)) =
      other.attempt context' input' (input'.take (k + 1))) :
    index.firstAccepted context input n = other.firstAccepted context' input' n := by
  induction n with
  | zero => rfl
  | succ n ih =>
    rw [firstAccepted_succ, firstAccepted_succ, h n (Nat.lt_succ_self n)]
    rw [ih fun k hk => h k (Nat.lt_succ_of_lt hk)]

/-- A step searches as far as the first character reaches; without a reach it finds nothing. -/
theorem step_cons (index : Index) (context : Context) (c : Char) (t : Text) :
    index.step context (c :: t) =
      (index.firstAccepted context (c :: t)
        ((c :: t).take ((index.maxKeyLength? c).getD 0)).length).getD (.passThrough c) := by
  rw [step]
  cases index.maxKeyLength? c <;> rfl

/-- The bound of a step may be left out. -/
theorem step_ofRules_cons (context : Context) (c : Char) (t : Text) :
    (ofRules normalizer set).step context (c :: t) =
      ((ofRules normalizer set).firstAccepted context (c :: t) (c :: t).length).getD
        (.passThrough c) := by
  rw [step_cons]
  congr 1
  refine (firstAccepted_eq_of_le (List.length_take_le' _ _) fun k hbeyond hk => ?_).symm
  rw [List.length_take] at hbeyond
  rw [attempt, lookup?_take_eq_none (by omega) hk, Option.bind_none]

/-- Trying a candidate is asking whether the last rule that claims it accepts. -/
theorem attempt_ofRules (context : Context) (input trigger : Text) :
    (ofRules normalizer set).attempt context input trigger =
      (set.lookup? normalizer trigger).bind fun rule =>
        if rule.accepts context
            (context.occurrence (ofRules normalizer set).view input trigger) then
          rule.perform? (ofRules normalizer set).view context input trigger
        else none := by
  rw [attempt, lookup?_ofRules]
  refine Option.bind_congr fun rule _ => ?_
  rw [← Rule.isSome_perform?]
  cases rule.perform? (ofRules normalizer set).view context input trigger <;> rfl

theorem exists_cons_of_mem_fronts {c : Char} {t trigger : Text}
    (h : trigger ∈ Text.fronts (c :: t)) : ∃ s, trigger = c :: s := by
  obtain ⟨n, -, rfl⟩ := List.mem_map.mp h
  exact ⟨t.take n, List.take_succ_cons⟩

/-- Every step on a nonempty input is the one that the exhaustive search takes, and the first
character of the input reaches as far as every front part for which there is a rule. -/
theorem step_ofRules_eq_exhaustiveStep (normalizer : Normalizer) (set : RuleSet)
    (context : Context) (c : Char) (t : Text) :
    (ofRules normalizer set).step context (c :: t) =
        set.exhaustiveStep normalizer (ofRules normalizer set).view context c t ∧
      ∀ trigger ∈ Text.fronts (c :: t), ∀ rule, set.lookup? normalizer trigger = some rule →
        ∃ bound, (ofRules normalizer set).maxKeyLength? c = some bound ∧
          trigger.length ≤ bound := by
  constructor
  · rw [step_ofRules_cons, firstAccepted_eq_findSome?, RuleSet.exhaustiveStep]
    simp only [Text.fronts, ← attempt_ofRules]
  · intro trigger htrigger rule hrule
    obtain ⟨s, rfl⟩ := exists_cons_of_mem_fronts htrigger
    rw [← lookup?_ofRules] at hrule
    exact length_le_maxKeyLength?_of_lookup? hrule

/-- The key is longer than the text for which it is found. -/
example :
    (ofRules ⟨id, id⟩ [.literal ['i', '\u0307', 'x'] ['y']]).step .fresh ['İ', 'x', 'z'] =
      ⟨['y'], ['İ', 'x'], ⟨['İ', 'x'], ['y'], false⟩, false⟩ := by
  decide +kernel

/-- The sigma ends the front part of the input and not the word. -/
example :
    (ofRules ⟨id, id⟩ [.literal ['α', 'ς'] ['y']]).step .fresh ['Α', 'Σ', 'Α'] =
      ⟨['y'], ['Α', 'Σ'], ⟨['Α', 'Σ'], ['y'], false⟩, false⟩ := by
  decide +kernel

end Index

end Syllabary
