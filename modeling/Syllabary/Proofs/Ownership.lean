import Mathlib.Data.Finset.Card
import Mathlib.Data.Finset.Dedup
import Syllabary.Index

/-!
# Who owns a text

A rule claims its key in every form that the normalizer gives. The index is filled in three moves:
rules of a repeated key are dropped, the rest is numbered anew, and the claims overwrite each other.
None of them shows from outside: the owner of a text is the last rule of the set that claims it,
whatever the two normal forms are.

## Main statements

* `Index.get?_ofRules`: the index answers with the last rule that claims the text.
* `Index.isIndexOf_ofRules`: all that a rule set decides about the keys of its index.
-/

namespace Syllabary

open Std (TreeMap)

/-- A rule claims its key and the two normal forms of the key. -/
def Rule.Claims (normalizer : Normalizer) (rule : Rule) (t : Text) : Prop :=
  t = rule.key ∨ t = normalizer.composed rule.key ∨ t = normalizer.decomposed rule.key

instance (normalizer : Normalizer) (rule : Rule) (t : Text) :
    Decidable (rule.Claims normalizer t) :=
  inferInstanceAs (Decidable (_ ∨ _ ∨ _))

theorem Rule.mem_forms_iff_claims {normalizer : Normalizer} {rule : Rule} {t : Text} :
    t ∈ normalizer.forms rule.key ↔ rule.Claims normalizer t :=
  Normalizer.mem_forms

/-- What a rule claims depends on its key alone. -/
theorem Rule.claims_congr {normalizer : Normalizer} {rule other : Rule} {t : Text}
    (h : rule.key = other.key) : rule.Claims normalizer t ↔ other.Claims normalizer t := by
  rw [Rule.Claims, Rule.Claims, h]

namespace RuleSet

/-! ## The last claim -/

/-- The last rule of a set that claims the text. -/
def owner? (normalizer : Normalizer) (set : RuleSet) (t : Text) : Option Rule :=
  set.findRev? fun rule => rule.Claims normalizer t

section

variable {normalizer : Normalizer} {set later : RuleSet} {rule : Rule} {t : Text}

/-- Claims of the later rules come first. -/
theorem owner?_append :
    owner? normalizer (set ++ later) t =
      (owner? normalizer later t).or (owner? normalizer set t) := by
  simp only [owner?, List.findRev?_eq_find?_reverse, List.reverse_append, List.find?_append]

theorem owner?_singleton :
    owner? normalizer [rule] t = if rule.Claims normalizer t then some rule else none := by
  by_cases h : rule.Claims normalizer t <;> simp [owner?, h]

theorem owner?_cons :
    owner? normalizer (rule :: set) t =
      (owner? normalizer set t).or (if rule.Claims normalizer t then some rule else none) := by
  rw [← List.singleton_append, owner?_append, owner?_singleton]

theorem owner?_eq_none_iff :
    owner? normalizer set t = none ↔ ∀ rule ∈ set, ¬ rule.Claims normalizer t := by
  simp [owner?]

/-- Rules own nothing if later rules claim all that they claim. -/
theorem owner?_append_of_claimed
    (h : ∀ rule ∈ set, rule.Claims normalizer t → ∃ other ∈ later, other.Claims normalizer t) :
    owner? normalizer (set ++ later) t = owner? normalizer later t := by
  rw [owner?_append]
  cases howner : owner? normalizer later t with
  | some owner => rw [Option.some_or]
  | none =>
    rw [Option.none_or, owner?_eq_none_iff]
    intro rule hrule hclaims
    obtain ⟨other, hother, hclaimed⟩ := h rule hrule hclaims
    exact owner?_eq_none_iff.mp howner other hother hclaimed

theorem owner?_cons_of_claimed
    (h : rule.Claims normalizer t → ∃ later ∈ set, later.Claims normalizer t) :
    owner? normalizer (rule :: set) t = owner? normalizer set t :=
  owner?_append_of_claimed (List.forall_mem_singleton.mpr h)

/-- Rules that do not claim a text may be left out in search of its owner. -/
theorem owner?_filter {p : Rule → Bool}
    (h : ∀ rule ∈ set, rule.Claims normalizer t → p rule = true) :
    owner? normalizer (set.filter p) t = owner? normalizer set t := by
  induction set with
  | nil => rfl
  | cons rule set ih =>
    obtain ⟨hrule, hset⟩ := List.forall_mem_cons.mp h
    rw [List.filter_cons]
    split
    · rw [owner?_cons, owner?_cons, ih hset]
    · next hout =>
      rw [owner?_cons, if_neg (mt hrule hout), Option.or_none, ih hset]

theorem owner?_concat :
    owner? normalizer (set ++ [rule]) t =
      if rule.Claims normalizer t then some rule else owner? normalizer set t := by
  rw [owner?_append, owner?_singleton]
  split <;> simp

/-- The owner claims the text and no rule after it does. -/
theorem owner?_eq_some_iff :
    owner? normalizer set t = some rule ↔
      ∃ before after, set = before ++ rule :: after ∧ rule.Claims normalizer t ∧
        ∀ later ∈ after, ¬ later.Claims normalizer t := by
  induction set with
  | nil => simp [owner?]
  | cons first set ih =>
    rw [owner?_cons, Option.or_eq_some_iff, ih, owner?_eq_none_iff]
    constructor
    · rintro (⟨before, after, rfl, hrule, hafter⟩ | ⟨hset, hfirst⟩)
      · exact ⟨first :: before, after, rfl, hrule, hafter⟩
      · rw [Option.ite_none_right_eq_some, Option.some.injEq] at hfirst
        obtain ⟨hclaims, rfl⟩ := hfirst
        exact ⟨[], set, rfl, hclaims, hset⟩
    · rintro ⟨before, after, heq, hrule, hafter⟩
      cases before with
      | nil =>
        simp only [List.nil_append, List.cons.injEq] at heq
        obtain ⟨rfl, rfl⟩ := heq
        exact Or.inr ⟨hafter, if_pos hrule⟩
      | cons _ before =>
        simp only [List.cons_append, List.cons.injEq] at heq
        obtain ⟨rfl, rfl⟩ := heq
        exact Or.inl ⟨before, after, rfl, hrule, hafter⟩

theorem mem_of_owner? (h : owner? normalizer set t = some rule) :
    rule ∈ set ∧ rule.Claims normalizer t := by
  obtain ⟨before, after, rfl, hclaims, -⟩ := owner?_eq_some_iff.mp h
  exact ⟨List.mem_append_right before List.mem_cons_self, hclaims⟩

/-- The only rule that claims a text owns it. -/
theorem owner?_eq_some_of_unique (hmem : rule ∈ set) (hclaims : rule.Claims normalizer t)
    (hunique : ∀ other ∈ set, other.Claims normalizer t → other = rule) :
    owner? normalizer set t = some rule := by
  have hne : owner? normalizer set t ≠ none := fun hnone =>
    owner?_eq_none_iff.mp hnone rule hmem hclaims
  obtain ⟨owner, howner⟩ := Option.ne_none_iff_exists'.mp hne
  obtain ⟨hmem', hclaims'⟩ := mem_of_owner? howner
  rw [howner, hunique owner hmem' hclaims']

end

end RuleSet

namespace Index

variable {normalizer : Normalizer} {set : RuleSet} {t : Text}

/-! ## Rules in force -/

theorem mem_map_key_inForce {key : Text} :
    key ∈ (inForce set).map Rule.key ↔ key ∈ set.map Rule.key := by
  induction set with
  | nil => rfl
  | cons rule set ih =>
    rw [inForce_cons]
    split
    · next h =>
      rw [ih, List.map_cons, List.mem_cons]
      constructor
      · exact Or.inr
      · rintro (rfl | hkey)
        · exact h
        · exact hkey
    · rw [List.map_cons, List.mem_cons, ih, List.map_cons, List.mem_cons]

/-- No two rules in force have one key. -/
theorem nodup_map_key_inForce : ((inForce set).map Rule.key).Nodup := by
  induction set with
  | nil => exact List.nodup_nil
  | cons rule set ih =>
    rw [inForce_cons]
    split
    · exact ih
    · next h =>
      rw [List.map_cons, List.nodup_cons, mem_map_key_inForce]
      exact ⟨h, ih⟩

/-- A dropped rule owned nothing: the rule that replaced it has the same key and so the same
claims. -/
theorem owner?_inForce :
    RuleSet.owner? normalizer (inForce set) t = RuleSet.owner? normalizer set t := by
  induction set with
  | nil => rfl
  | cons rule set ih =>
    rw [inForce_cons]
    split
    · next h =>
      obtain ⟨later, hlater, hkey⟩ := List.mem_map.mp h
      rw [ih, RuleSet.owner?_cons_of_claimed fun hclaims => ?_]
      exact ⟨later, hlater, (Rule.claims_congr hkey).mpr hclaims⟩
    · rw [RuleSet.owner?_cons, RuleSet.owner?_cons, ih]

/-! ## Slots -/

theorem slotsOf_concat (rules : List Rule) (rule : Rule) :
    slotsOf normalizer (rules ++ [rule]) =
      claim (slotsOf normalizer rules) (normalizer.forms rule.key) rules.length := by
  simp only [slotsOf, List.zipIdx_append, List.foldl_append, List.zipIdx_cons, List.zipIdx_nil,
    List.foldl_cons, List.foldl_nil, Nat.zero_add]

/-- The rule at the slot of a text is the last one of the list that claims it. -/
theorem getElem?_slotsOf_bind (rules : List Rule) :
    ((slotsOf normalizer rules)[t]?.bind fun place => rules[place]?) =
      RuleSet.owner? normalizer rules t := by
  induction rules using List.reverseRecOn with
  | nil => simp [slotsOf, RuleSet.owner?]
  | append_singleton rules rule ih =>
    rw [slotsOf_concat, getElem?_claim, RuleSet.owner?_concat, ← ih]
    simp only [Rule.mem_forms_iff_claims]
    by_cases h : rule.Claims normalizer t
    · rw [if_pos h, if_pos h, Option.bind_some, List.getElem?_concat_length]
    · -- the slot lies among the places of the earlier rules, so the new rule is not read
      rw [if_neg h, if_neg h]
      refine Option.bind_congr fun place hplace => ?_
      have hlt : place < 0 + rules.length := lt_of_getElem?_foldl_claim (by simp) hplace
      rw [List.getElem?_append_left (by omega)]

/-- The index answers with the last rule that claims the text. -/
theorem get?_ofRules : (ofRules normalizer set).get? t = set.owner? normalizer t := by
  have hget : (ofRules normalizer set).get? t =
      (slotsOf normalizer (inForce set))[t]?.bind fun place => (inForce set)[place]? := by
    simp only [get?, ofRules, List.getElem?_toArray]
  rw [hget, getElem?_slotsOf_bind, owner?_inForce]

/-- A slot always leads to a rule, so that a text without an owner has no slot. -/
theorem getElem?_slots_ofRules_eq_none_iff :
    (ofRules normalizer set).slots[t]? = none ↔ (ofRules normalizer set).get? t = none := by
  constructor
  · intro hslot
    rw [get?, hslot, Option.bind_none]
  · intro hget
    cases hslot : (ofRules normalizer set).slots[t]? with
    | none => rfl
    | some place =>
      rw [get?, hslot, Option.bind_some, Array.getElem?_eq_none_iff] at hget
      have hlt := slots_lt hslot
      rw [ruleCount] at hlt
      omega

/-- A text is a key exactly if it has an owner. -/
theorem mem_keys_iff_get?_ne_none :
    t ∈ (ofRules normalizer set).keys ↔ (ofRules normalizer set).get? t ≠ none := by
  rw [keys, TreeMap.mem_keys, TreeMap.mem_iff_isSome_getElem?, ← Option.ne_none_iff_isSome, Ne,
    getElem?_slots_ofRules_eq_none_iff]

/-- The keys of the index are the forms of the keys of the rules. -/
theorem mem_keys_ofRules :
    t ∈ (ofRules normalizer set).keys ↔ ∃ rule ∈ set, rule.Claims normalizer t := by
  rw [mem_keys_iff_get?_ne_none, get?_ofRules, Ne, RuleSet.owner?_eq_none_iff]
  simp only [not_forall, not_not, exists_prop]

theorem ruleCount_ofRules :
    (ofRules normalizer set).ruleCount = (set.map Rule.key).toFinset.card := by
  have hcount : (ofRules normalizer set).ruleCount = ((inForce set).map Rule.key).length := by
    simp only [ruleCount, ofRules, List.size_toArray, List.length_map]
  rw [hcount, ← List.toFinset_card_of_nodup nodup_map_key_inForce]
  congr 1
  ext key
  rw [List.mem_toFinset, List.mem_toFinset, mem_map_key_inForce]

/-! ## The index of a rule set -/

/-- What a rule set decides about the keys and the owners of its index. -/
structure IsIndexOf (index : Index) (normalizer : Normalizer) (set : RuleSet) : Prop where
  /-- The owner of a text is the last rule that claims it. -/
  get?_eq_some_iff (t : Text) (rule : Rule) :
    index.get? t = some rule ↔
      ∃ before after, set = before ++ rule :: after ∧ rule.Claims normalizer t ∧
        ∀ later ∈ after, ¬ later.Claims normalizer t
  /-- A text has no owner exactly if no rule claims it. -/
  get?_eq_none_iff (t : Text) :
    index.get? t = none ↔ ∀ rule ∈ set, ¬ rule.Claims normalizer t
  /-- The keys are the forms of the keys of the rules. -/
  mem_keys_iff (t : Text) : t ∈ index.keys ↔ ∃ rule ∈ set, rule.Claims normalizer t
  /-- No key is listed twice. -/
  nodup_keys : index.keys.Nodup
  /-- The size is the number of keys. -/
  size_eq : index.size = index.keys.length
  /-- As many rules are kept as there are different keys in the set. -/
  ruleCount_eq : index.ruleCount = (set.map Rule.key).toFinset.card
  /-- Every slot lies among the rules that are kept. -/
  slot_lt (t : Text) (place : Nat) : index.slots[t]? = some place → place < index.ruleCount

/-- The index of a rule set holds the union of the forms of all keys, each owned by the last rule
that claims it, for any two normal forms. -/
theorem isIndexOf_ofRules (normalizer : Normalizer) (set : RuleSet) :
    (ofRules normalizer set).IsIndexOf normalizer set where
  get?_eq_some_iff t rule := by rw [get?_ofRules, RuleSet.owner?_eq_some_iff]
  get?_eq_none_iff t := by rw [get?_ofRules, RuleSet.owner?_eq_none_iff]
  mem_keys_iff _ := mem_keys_ofRules
  nodup_keys := TreeMap.nodup_keys
  size_eq := TreeMap.length_keys.symm
  ruleCount_eq := ruleCount_ofRules
  slot_lt _ _ := slots_lt

end Index

end Syllabary
