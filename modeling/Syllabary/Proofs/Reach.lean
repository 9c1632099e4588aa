import Mathlib.Order.Bounds.Defs
import Syllabary.Proofs.Ownership

/-!
# How far a character reaches

The reach of a character is the length of the longest key that it leads. A scan asks for the reach
of the first character of its input, as it is and folded, and tries no candidate beyond it.

The reach is collected from a list of all keys, one key after another. Since it keeps the greater of
two lengths, the order of the list does not show.

## Main statements

* `Index.getElem?_reachOf`: the reach of a character is the greatest length of the keys it leads.
* `Index.getElem?_reachOf_congr`: the order of the keys does not show in the reach.
* `Index.maxKeyLength?_ofRules`: the bound of a scan is the greatest length of the keys led by the
  character or by its folded form.
* `Index.le_maxKeyLength?`: no such key is longer than the bound.
* `Index.isGreatest_bound`: the bound is exact, for every order of the keys.
-/

namespace Syllabary

open Unicode (foldChar)

namespace Index

/-! ## The greater of two numbers that may be missing -/

@[simp] theorem greater?_none_left (b? : Option Nat) : greater? none b? = b? := by
  cases b? <;> rfl

@[simp] theorem greater?_none_right (a? : Option Nat) : greater? a? none = a? := by
  cases a? <;> rfl

@[simp] theorem greater?_some_some (a b : Nat) : greater? (some a) (some b) = some (max a b) := rfl

theorem greater?_assoc (a? b? c? : Option Nat) :
    greater? (greater? a? b?) c? = greater? a? (greater? b? c?) := by
  cases a? <;> cases b? <;> cases c? <;> simp [Nat.max_assoc]

theorem max?_cons_eq_greater? (n : Nat) (ns : List Nat) :
    (n :: ns).max? = greater? (some n) ns.max? := by
  rw [List.max?_cons]
  cases ns.max? <;> rfl

theorem max?_append_eq_greater? (ms ns : List Nat) :
    (ms ++ ns).max? = greater? ms.max? ns.max? := by
  induction ms with
  | nil => simp
  | cons m ms ih =>
    rw [List.cons_append, max?_cons_eq_greater?, ih, max?_cons_eq_greater?, greater?_assoc]

/-- The greatest number of a list depends on its members only. -/
theorem max?_congr {ms ns : List Nat} (h : ∀ n, n ∈ ms ↔ n ∈ ns) : ms.max? = ns.max? := by
  cases hn : ns.max? with
  | none =>
    rw [List.max?_eq_none_iff] at hn ⊢
    exact List.eq_nil_iff_forall_not_mem.mpr fun n hm => by simpa [hn] using (h n).mp hm
  | some n =>
    rw [List.max?_eq_some_iff] at hn ⊢
    exact ⟨(h n).mpr hn.1, fun m hm => hn.2 m ((h m).mp hm)⟩

theorem le_max? {n : Nat} {ns : List Nat} (h : n ∈ ns) : ∃ m, ns.max? = some m ∧ n ≤ m := by
  cases hm : ns.max? with
  | none => rw [List.max?_eq_none_iff] at hm; simp [hm] at h
  | some m => exact ⟨m, rfl, (List.max?_eq_some_iff.mp hm).2 n h⟩

/-! ## Reach -/

/-- The lengths of the keys that a character leads. -/
def lengthsLedBy (c : Char) (keys : List Text) : List Nat :=
  (keys.filter fun key => key.head? = some c).map List.length

theorem lengthsLedBy_cons (c : Char) (key : Text) (keys : List Text) :
    lengthsLedBy c (key :: keys) = lengthsLedBy c [key] ++ lengthsLedBy c keys := by
  simp only [lengthsLedBy, ← List.map_append, ← List.filter_append, List.singleton_append]

/-- A key extends the reach of its first character and of no other. -/
theorem getElem?_extend (reach : Std.TreeMap Char Nat) (key : Text) (c : Char) :
    (extend reach key)[c]? = greater? reach[c]? (lengthsLedBy c [key]).max? := by
  cases key with
  | nil => simp [extend, lengthsLedBy]
  | cons d t =>
    rw [extend, Std.TreeMap.getElem?_insert]
    by_cases h : d = c
    · subst h
      have hreach : reach.getD d 0 = reach[d]?.getD 0 := Std.TreeMap.getD_eq_getD_getElem?
      rw [hreach]
      cases reach[d]? <;> simp [lengthsLedBy]
    · simp [lengthsLedBy, h]

theorem getElem?_foldl_extend (keys : List Text) (reach : Std.TreeMap Char Nat) (c : Char) :
    (keys.foldl extend reach)[c]? = greater? reach[c]? (lengthsLedBy c keys).max? := by
  induction keys generalizing reach with
  | nil => simp [lengthsLedBy]
  | cons key keys ih =>
    rw [List.foldl_cons, ih, getElem?_extend, greater?_assoc, ← max?_append_eq_greater?,
      ← lengthsLedBy_cons]

/-- The reach of a character is the greatest length of the keys that it leads. -/
theorem getElem?_reachOf (keys : List Text) (c : Char) :
    (reachOf keys)[c]? = (lengthsLedBy c keys).max? := by
  rw [reachOf, getElem?_foldl_extend]
  simp

/-- The reach depends on which keys there are, and neither on their order nor on repetitions. -/
theorem getElem?_reachOf_congr {keys other : List Text} (h : ∀ key, key ∈ keys ↔ key ∈ other)
    (c : Char) : (reachOf keys)[c]? = (reachOf other)[c]? := by
  rw [getElem?_reachOf, getElem?_reachOf]
  refine max?_congr fun n => ?_
  simp only [lengthsLedBy, List.mem_map, List.mem_filter, h]

variable {normalizer : Normalizer} {set : RuleSet}

/-- The bound of a scan is the greatest length of the keys that the character leads, as it is or
folded. -/
theorem maxKeyLength?_ofRules (c : Char) :
    (ofRules normalizer set).maxKeyLength? c =
      (((ofRules normalizer set).keys.filter fun key =>
        key.head? = some c ∨ key.head? = some (foldChar c)).map List.length).max? := by
  have hreach (d : Char) :
      (ofRules normalizer set).reach[d]? = (lengthsLedBy d (ofRules normalizer set).keys).max? :=
    getElem?_reachOf _ d
  rw [maxKeyLength?, hreach, hreach, ← max?_append_eq_greater?]
  refine max?_congr fun n => ?_
  simp only [lengthsLedBy, List.mem_append, List.mem_map, List.mem_filter, decide_eq_true_eq]
  constructor
  · rintro (⟨key, ⟨hkey, hhead⟩, hlength⟩ | ⟨key, ⟨hkey, hhead⟩, hlength⟩)
    · exact ⟨key, ⟨hkey, Or.inl hhead⟩, hlength⟩
    · exact ⟨key, ⟨hkey, Or.inr hhead⟩, hlength⟩
  · rintro ⟨key, ⟨hkey, hhead | hhead⟩, hlength⟩
    · exact Or.inl ⟨key, ⟨hkey, hhead⟩, hlength⟩
    · exact Or.inr ⟨key, ⟨hkey, hhead⟩, hlength⟩

/-- No key led by the character, as it is or folded, is longer than the bound. -/
theorem le_maxKeyLength? {c : Char} {key : Text} (hkey : key ∈ (ofRules normalizer set).keys)
    (hhead : key.head? = some c ∨ key.head? = some (foldChar c)) :
    ∃ bound, (ofRules normalizer set).maxKeyLength? c = some bound ∧ key.length ≤ bound := by
  rw [maxKeyLength?_ofRules]
  refine le_max? (List.mem_map.mpr ⟨key, List.mem_filter.mpr ⟨hkey, ?_⟩, rfl⟩)
  exact decide_eq_true hhead

/-! ## The bound is exact -/

/-- The keys that begin with the character or with its folded form. -/
def keysLedBy (index : Index) (c : Char) : Set Text :=
  {key ∈ index.keys | key.head? = some c ∨ key.head? = some (foldChar c)}

theorem mem_ledLengths {index : Index} {c : Char} {n : Nat} :
    n ∈ (index.keys.filter fun key =>
        key.head? = some c ∨ key.head? = some (foldChar c)).map List.length ↔
      n ∈ List.length '' index.keysLedBy c := by
  simp only [List.mem_map, List.mem_filter, decide_eq_true_eq, Set.mem_image, keysLedBy,
    Set.mem_ofPred_eq]

/-- The bound does not change if the reach is collected from the keys in another order. -/
theorem maxKeyLength?_reachOf {listing : List Text}
    (hlisting : listing.Perm (ofRules normalizer set).keys) (c : Char) :
    { ofRules normalizer set with reach := reachOf listing }.maxKeyLength? c =
      (ofRules normalizer set).maxKeyLength? c := by
  have hreach (d : Char) : (reachOf listing)[d]? = (ofRules normalizer set).reach[d]? :=
    getElem?_reachOf_congr (fun key => hlisting.mem_iff) d
  rw [maxKeyLength?, maxKeyLength?, hreach, hreach]

/-- In whichever order the keys are listed when the reach is collected, the bound is the greatest
length of the keys that begin with the character or with its folded form, and there is no bound
exactly if there are no such keys. The keys are the texts that a rule claims, in any of their
forms. -/
theorem isGreatest_bound (normalizer : Normalizer) (set : RuleSet) {listing : List Text}
    (hlisting : listing.Perm (ofRules normalizer set).keys) (c : Char) :
    let index := { ofRules normalizer set with reach := reachOf listing }
    (∀ n, index.maxKeyLength? c = some n ↔ IsGreatest (List.length '' index.keysLedBy c) n) ∧
      (index.maxKeyLength? c = none ↔ index.keysLedBy c = ∅) ∧
      index.maxKeyLength? c = (ofRules normalizer set).maxKeyLength? c ∧
      ∀ key, key ∈ index.keysLedBy c ↔ (∃ rule ∈ set, rule.Claims normalizer key) ∧
        (key.head? = some c ∨ key.head? = some (foldChar c)) := by
  intro index
  have hbound : index.maxKeyLength? c = (ofRules normalizer set).maxKeyLength? c :=
    maxKeyLength?_reachOf hlisting c
  -- the keys do not depend on the reach
  have hkeys : index.keysLedBy c = (ofRules normalizer set).keysLedBy c := rfl
  refine ⟨fun n => ?_, ?_, hbound, fun key => ?_⟩
  · rw [hbound, hkeys, maxKeyLength?_ofRules, List.max?_eq_some_iff]
    simp only [mem_ledLengths]
    rfl
  · rw [hbound, hkeys, maxKeyLength?_ofRules, List.max?_eq_none_iff, ← Set.image_eq_empty,
      Set.eq_empty_iff_forall_notMem, List.eq_nil_iff_forall_not_mem]
    exact forall_congr' fun n => not_congr mem_ledLengths
  · rw [hkeys, keysLedBy, Set.mem_ofPred_eq, mem_keys_ofRules]

/-- The capital leads a key of one character and is folded to the letter that leads the decomposed
form of the other rule, which is longer. -/
theorem isGreatest_bound_capital_a :
    let base := ofRules .unicode [.literal ['A'] ['x'], .literal ['ā'] ['y']]
    let index := { base with reach := reachOf base.keys.reverse }
    base.keys = [['A'], ['a', '\u0304'], ['ā']] ∧ index.maxKeyLength? 'A' = some 2 ∧
      IsGreatest (List.length '' index.keysLedBy 'A') 2 ∧ index.keysLedBy 'b' = ∅ := by
  intro base index
  have hexact (c : Char) := isGreatest_bound .unicode
    [.literal ['A'] ['x'], .literal ['ā'] ['y']] (List.reverse_perm _) c
  have hbound : index.maxKeyLength? 'A' = some 2 :=
    (hexact 'A').2.2.1.trans (by decide +kernel)
  have hnone : index.maxKeyLength? 'b' = none := (hexact 'b').2.2.1.trans (by decide +kernel)
  exact ⟨by decide +kernel, hbound, ((hexact 'A').1 2).mp hbound, (hexact 'b').2.1.mp hnone⟩

end Index

end Syllabary
