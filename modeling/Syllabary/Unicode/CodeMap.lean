/-!
# Maps on code points

Properties of characters are given as rows `(first, last, value)`: the code points from `first` to
`last` have this value. `CodeMap.ofRows` arranges ascending rows in a balanced search tree.

## Main statements

* `CodeMap.mem_of_find?_ofRows`: whatever a lookup finds stands in the rows, so a fact about every
  value that a lookup can give is a fact about the rows.
-/

namespace Syllabary.Unicode

/-- A map on code points, kept as a search tree over disjoint ranges. -/
inductive CodeMap (α : Type) where
  /-- No code point has a value. -/
  | empty
  /-- The code points from `first` to `last` have the value `value`; smaller ones are looked up on
  the left and greater ones on the right. -/
  | node (left : CodeMap α) (first last : Nat) (value : α) (right : CodeMap α)

namespace CodeMap

variable {α : Type}

/-- The value of a code point. -/
def find? (code : Nat) : CodeMap α → Option α
  | empty => none
  | node left first last value right =>
    if code < first then left.find? code
    else if last < code then right.find? code
    else some value

/-- Takes up to `2 ^ height - 1` rows into a tree of at most this height, and gives back the rows
that are left. -/
def build : Nat → List (Nat × Nat × α) → CodeMap α × List (Nat × Nat × α)
  | 0, rows => (empty, rows)
  | height + 1, rows =>
    match build height rows with
    | (left, []) => (left, [])
    | (left, (first, last, value) :: rows) =>
      match build height rows with
      | (right, rest) => (node left first last value right, rest)

/-- The map of a list of rows, which stand in ascending order and do not overlap. -/
def ofRows (rows : List (Nat × Nat × α)) : CodeMap α :=
  (build (rows.length.log2 + 1) rows).1

/-- The map of a list of single code points with their values, in ascending order. -/
def ofPoints (points : List (Nat × α)) : CodeMap α :=
  ofRows (points.map fun (code, value) => (code, code, value))

/-- The rows of a tree, in ascending order. -/
def rows : CodeMap α → List (Nat × Nat × α)
  | empty => []
  | node left first last value right => left.rows ++ (first, last, value) :: right.rows

/-- Building loses no row and makes none up. -/
theorem rows_build (height : Nat) (l : List (Nat × Nat × α)) :
    (build height l).1.rows ++ (build height l).2 = l := by
  induction height generalizing l with
  | zero => simp [build, rows]
  | succ height ih =>
    have hl := ih l
    simp only [build]
    split
    · next left h => simpa [h] using hl
    · next left first last value rest h =>
      have hr := ih rest
      rw [h] at hl
      simp only [rows, List.append_assoc, List.cons_append]
      rw [hr]
      exact hl

theorem mem_rows_of_find? {m : CodeMap α} {code : Nat} {value : α} (h : m.find? code = some value) :
    ∃ first last, (first, last, value) ∈ m.rows ∧ first ≤ code ∧ code ≤ last := by
  induction m with
  | empty => simp [find?] at h
  | node left first last v right ihl ihr =>
    simp only [find?] at h
    split at h
    · obtain ⟨f, l, hm, hb⟩ := ihl h
      exact ⟨f, l, by simp [rows, hm], hb⟩
    · split at h
      · obtain ⟨f, l, hm, hb⟩ := ihr h
        exact ⟨f, l, by simp [rows, hm], hb⟩
      · next h₁ h₂ =>
        cases h
        exact ⟨first, last, by simp [rows], by omega, by omega⟩

/-- A value that is found stands in the rows, in a range that covers the code point. -/
theorem mem_of_find?_ofRows {l : List (Nat × Nat × α)} {code : Nat} {value : α}
    (h : (ofRows l).find? code = some value) :
    ∃ first last, (first, last, value) ∈ l ∧ first ≤ code ∧ code ≤ last := by
  obtain ⟨first, last, hm, hb⟩ := mem_rows_of_find? h
  refine ⟨first, last, ?_, hb⟩
  rw [← rows_build (l.length.log2 + 1) l]
  exact List.mem_append_left _ hm

/-- A value that is found for a single code point stands in the points with this code point. -/
theorem mem_of_find?_ofPoints {l : List (Nat × α)} {code : Nat} {value : α}
    (h : (ofPoints l).find? code = some value) : (code, value) ∈ l := by
  obtain ⟨first, last, hm, hf, hl⟩ := mem_of_find?_ofRows h
  obtain ⟨⟨c, v⟩, hp, he⟩ := List.mem_map.mp hm
  simp only [Prod.mk.injEq] at he
  obtain ⟨rfl, rfl, rfl⟩ := he
  have : c = code := Nat.le_antisymm hf hl
  exact this ▸ hp

end CodeMap

end Syllabary.Unicode
