import Std.Data.TreeMap
import Std.Data.TreeSet
import Syllabary.Rule.Basic
import Syllabary.Unicode.Case
import Syllabary.Unicode.Normalizer

/-!
# The index of a rule set

An index holds the rules in force, the place of the rule that owns each text, and for every
character the length of the longest key that it leads. A key is indexed under its own spelling and
under both normal forms; where two rules claim one text, the later rule owns it.

## Main statements

* `inForce_cons`: a rule is in force exactly if no later rule has its key.
* `slots_lt`: every slot names a rule in force, so that `get?` never misses for want of a rule.
-/

namespace Syllabary

open Std (TreeMap TreeSet)

/-- A rule set made ready for scanning. -/
structure Index where
  /-- The rules in force, in the order of their registration. -/
  rules : Array Rule
  /-- The place in `rules` of the owner of each text. -/
  slots : TreeMap Text Nat
  /-- The length of the longest key with this leading character. -/
  reach : TreeMap Char Nat

namespace Index

/-- Adds a rule in front of the rules in force, unless one of the keys after it is its own. -/
def settle (rule : Rule) (later : List Rule × TreeSet Text) : List Rule × TreeSet Text :=
  if rule.key ∈ later.2 then later else (rule :: later.1, later.2.insert rule.key)

/-- The rules that no later rule of the same key replaces. -/
def inForce (set : RuleSet) : List Rule := (set.foldr settle ([], ∅)).1

/-- Gives every form of a key to the rule at one place. -/
def claim (slots : TreeMap Text Nat) (forms : List Text) (place : Nat) : TreeMap Text Nat :=
  forms.foldl (fun slots form => slots.insert form place) slots

/-- The owners of all texts: the rules claim the forms of their keys one after another. -/
def slotsOf (normalizer : Normalizer) (rules : List Rule) : TreeMap Text Nat :=
  rules.zipIdx.foldl (fun slots (rule, place) => claim slots (normalizer.forms rule.key) place) ∅

/-- Lets the leading character of a key reach as far as the key. -/
def extend (reach : TreeMap Char Nat) : Text → TreeMap Char Nat
  | [] => reach
  | c :: t => reach.insert c (max (reach.getD c 0) (t.length + 1))

/-- The length of the longest key for every leading character. -/
def reachOf (keys : List Text) : TreeMap Char Nat := keys.foldl extend ∅

/-- The index of a rule set. -/
def ofRules (normalizer : Normalizer) (set : RuleSet) : Index :=
  let rules := inForce set
  let slots := slotsOf normalizer rules
  { rules := rules.toArray, slots, reach := reachOf slots.keys }

/-- The rule that owns exactly this text. -/
def get? (index : Index) (key : Text) : Option Rule :=
  index.slots[key]?.bind fun place => index.rules[place]?

/-- The rule that owns the text, or else the rule that owns its lowercase. -/
def lookup? (index : Index) (key : Text) : Option Rule :=
  index.get? key <|> index.get? (Unicode.lowercase key)

/-- The greater of two numbers, where either may be missing. -/
def greater? : Option Nat → Option Nat → Option Nat
  | some a, some b => some (max a b)
  | some a, none => some a
  | none, b? => b?

/-- The length of the longest key that the character leads, as it is or folded. -/
def maxKeyLength? (index : Index) (c : Char) : Option Nat :=
  greater? index.reach[c]? index.reach[Unicode.foldChar c]?

/-- The texts that are owned by a rule, in the order of their code points. -/
def keys (index : Index) : List Text := index.slots.keys

/-- The number of texts that are owned by a rule. -/
def size (index : Index) : Nat := index.slots.size

/-- Whether no text is owned by a rule. -/
def isEmpty (index : Index) : Bool := index.slots.isEmpty

/-- The number of rules in force. -/
def ruleCount (index : Index) : Nat := index.rules.size

/-- What operations may ask of the index. -/
def view (index : Index) : RuleView where
  get? key := (index.get? key).map Rule.summary
  lookup? key := (index.lookup? key).map Rule.summary
  maxKeyLength? := index.maxKeyLength?

theorem lookup?_eq_or (index : Index) (key : Text) :
    index.lookup? key = (index.get? key).or (index.get? (Unicode.lowercase key)) := by
  rw [lookup?, Option.orElse_eq_orElse, Option.orElse_eq_or]

theorem mem_foldr_settle {set : RuleSet} {key : Text} :
    key ∈ (set.foldr settle ([], ∅)).2 ↔ key ∈ set.map Rule.key := by
  induction set with
  | nil => simp
  | cons rule set ih =>
    simp only [List.foldr_cons, settle, List.map_cons, List.mem_cons]
    split
    · next h =>
      rw [ih]
      constructor
      · exact Or.inr
      · rintro (rfl | hk)
        · exact ih.mp h
        · exact hk
    · rw [TreeSet.mem_insert, Std.LawfulEqOrd.compare_eq_iff_eq, ih, eq_comm]

@[simp] theorem inForce_nil : inForce [] = [] := rfl

/-- A rule is in force exactly if no later rule has its key. -/
theorem inForce_cons (rule : Rule) (set : RuleSet) :
    inForce (rule :: set) =
      if rule.key ∈ set.map Rule.key then inForce set else rule :: inForce set := by
  simp only [inForce, List.foldr_cons, settle, mem_foldr_settle]
  split <;> rfl

theorem getElem?_claim {slots : TreeMap Text Nat} {forms : List Text} {place : Nat} {key : Text} :
    (claim slots forms place)[key]? = if key ∈ forms then some place else slots[key]? := by
  induction forms generalizing slots with
  | nil => simp [claim]
  | cons form forms ih =>
    have hstep : claim slots (form :: forms) place =
        claim (slots.insert form place) forms place := rfl
    rw [hstep, ih, TreeMap.getElem?_insert]
    by_cases hk : key ∈ forms
    · simp [hk]
    · by_cases hf : form = key
      · simp [hf]
      · simp [hk, hf, Ne.symm hf]

/-- Every slot that comes from numbering a list of rules from `start` on names one of them. -/
theorem lt_of_getElem?_foldl_claim {normalizer : Normalizer} {rules : List Rule} {start : Nat}
    {slots : TreeMap Text Nat} {key : Text} {place : Nat}
    (hslots : ∀ p, slots[key]? = some p → p < start + rules.length)
    (h : ((rules.zipIdx start).foldl
      (fun slots (rule, p) => claim slots (normalizer.forms rule.key) p) slots)[key]? =
        some place) :
    place < start + rules.length := by
  induction rules generalizing start slots with
  | nil => exact hslots place h
  | cons rule rules ih =>
    rw [List.zipIdx_cons, List.foldl_cons] at h
    have hlen : start + 1 + rules.length = start + (rule :: rules).length := by
      simp only [List.length_cons]; omega
    rw [← hlen]
    refine ih (fun p hp => ?_) h
    rw [getElem?_claim] at hp
    split at hp
    · simp only [Option.some.injEq] at hp; omega
    · rw [hlen]; exact hslots p hp

/-- Every slot names a rule in force. -/
theorem slots_lt {normalizer : Normalizer} {set : RuleSet} {key : Text} {place : Nat}
    (h : (ofRules normalizer set).slots[key]? = some place) :
    place < (ofRules normalizer set).ruleCount := by
  have : place < 0 + (inForce set).length := lt_of_getElem?_foldl_claim (by simp) h
  simpa [ofRules, ruleCount] using this

end Index

end Syllabary
