/-!
# Text

A text is the list of its characters, and every length of the library counts characters. The size
in UTF-8 is a measure on it: `dropBytes?` cuts a text at a byte position, and the cut exists
exactly where a character begins or the text ends (`dropBytes?_eq_some_iff`).
-/

namespace Syllabary

/-- A text, character by character. -/
abbrev Text := List Char

namespace Text

/-- The number of bytes that the text takes in UTF-8. -/
def utf8Size : Text → Nat
  | [] => 0
  | c :: t => c.utf8Size + utf8Size t

/-- The position in bytes behind the first `n` characters, or behind all of them if there are
fewer. -/
def byteOffset (t : Text) (n : Nat) : Nat := utf8Size (t.take n)

/-- The text with `new` in the place of the first `old`, if there is one. -/
def replaceFirst (old new : Text) : Text → Text
  | [] => if old.isEmpty then new else []
  | c :: t =>
    if old.isPrefixOf (c :: t) then new ++ (c :: t).drop old.length
    else c :: replaceFirst old new t

/-- What follows the first `n` bytes, unless the text is shorter or the cut falls inside a
character. -/
def dropBytes? : Nat → Text → Option Text
  | 0, t => some t
  | _ + 1, [] => none
  | n + 1, c :: t => if c.utf8Size ≤ n + 1 then dropBytes? (n + 1 - c.utf8Size) t else none

/-- What is said of the characters of a text is decided along the text, not over all characters. -/
scoped instance decidableForall (t : Text) (p : Char → Prop) [DecidablePred p] :
    Decidable (∀ c ∈ t, p c) :=
  List.decidableBAll p t

@[simp] theorem utf8Size_nil : utf8Size [] = 0 := rfl

@[simp] theorem utf8Size_cons (c : Char) (t : Text) :
    utf8Size (c :: t) = c.utf8Size + utf8Size t := rfl

@[simp] theorem utf8Size_append (s t : Text) : utf8Size (s ++ t) = utf8Size s + utf8Size t := by
  induction s with
  | nil => simp
  | cons c s ih => simp [ih, Nat.add_assoc]

/-- A text that does not occur is not replaced. -/
theorem replaceFirst_of_not_infix {old t : Text} (new : Text) (h : ¬ old <:+: t) :
    replaceFirst old new t = t := by
  induction t with
  | nil =>
    have hold : old.isEmpty = false := by
      cases old with
      | nil => exact absurd (List.infix_refl []) h
      | cons c old => rfl
    simp [replaceFirst, hold]
  | cons c t ih =>
    have hprefix : old.isPrefixOf (c :: t) = false := by
      rw [← Bool.not_eq_true, List.isPrefixOf_iff_prefix]
      exact fun hprefix => h hprefix.isInfix
    have ht : ¬ old <:+: t := fun hinfix => h (List.infix_cons hinfix)
    rw [replaceFirst, hprefix, if_neg Bool.false_ne_true, ih ht]

/-- A cut gives a suffix, and the part before it has exactly the size asked for. -/
theorem dropBytes?_eq_some_iff {n : Nat} {t rest : Text} :
    dropBytes? n t = some rest ↔ ∃ before : Text, t = before ++ rest ∧ utf8Size before = n := by
  induction t generalizing n with
  | nil =>
    cases n with
    | zero =>
      simp only [dropBytes?, Option.some.injEq]
      constructor
      · rintro rfl
        exact ⟨[], rfl, rfl⟩
      · rintro ⟨before, h, -⟩
        exact (List.append_eq_nil_iff.mp h.symm).2.symm
    | succ n =>
      simp only [dropBytes?, reduceCtorEq, false_iff, not_exists, not_and]
      intro before h
      obtain ⟨rfl, -⟩ := List.append_eq_nil_iff.mp h.symm
      simp
  | cons c t ih =>
    have hc := c.utf8Size_pos
    cases n with
    | zero =>
      simp only [dropBytes?, Option.some.injEq]
      constructor
      · rintro rfl
        exact ⟨[], rfl, rfl⟩
      · rintro ⟨before, h, hs⟩
        cases before with
        | nil => exact h
        | cons d before => have := d.utf8Size_pos; simp at hs; omega
    | succ n =>
      simp only [dropBytes?]
      split
      · next hle =>
        rw [ih]
        constructor
        · rintro ⟨before, rfl, hs⟩
          exact ⟨c :: before, rfl, by simp only [utf8Size_cons]; omega⟩
        · rintro ⟨before, h, hs⟩
          cases before with
          | nil => simp at hs
          | cons d before =>
            simp only [List.cons_append, List.cons.injEq] at h
            obtain ⟨rfl, rfl⟩ := h
            exact ⟨before, rfl, by simp only [utf8Size_cons] at hs; omega⟩
      · next hle =>
        simp only [reduceCtorEq, false_iff, not_exists, not_and]
        rintro before h hs
        cases before with
        | nil => simp at hs
        | cons d before =>
          simp only [List.cons_append, List.cons.injEq] at h
          obtain ⟨rfl, rfl⟩ := h
          simp only [utf8Size_cons] at hs
          omega

/-- A cut behind the first of two texts leaves the second. -/
theorem dropBytes?_append (s t : Text) : dropBytes? s.utf8Size (s ++ t) = some t :=
  dropBytes?_eq_some_iff.mpr ⟨s, rfl, rfl⟩

end Text

end Syllabary
