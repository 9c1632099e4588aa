import Syllabary.Text

/-!
# Parsers

A parser reads a value from the front of a text and leaves the rest, or fails. A failed alternative
reads nothing.

## Main statements

* `bind_apply` and its siblings: what a composed parser does with a text.
* `Reads.many_eq`: a repetition reads all values up to where no further one is read.
-/

namespace Syllabary.Toml

/-- Reads a value from the front of a text. -/
abbrev Parser := StateT Text Option

namespace Parser

/-- The value that is read from the whole of a text. -/
def readAll? {α : Type} (p : Parser α) (t : Text) : Option α :=
  match p t with
  | some (a, []) => some a
  | _ => none

/-- The next character, which stays unread. -/
def peek : Parser (Option Char) := fun t => some (t.head?, t)

/-- Succeeds at the end of the text. -/
def atEnd : Parser Unit := fun t => if t.isEmpty then some ((), t) else none

/-- Reads a character of a class. -/
def satisfy (p : Char → Bool) : Parser Char
  | [] => none
  | c :: t => if p c then some (c, t) else none

/-- Reads this character. -/
def char (c : Char) : Parser Unit := discard (satisfy (· == c))

/-- Reads this text. -/
def text (s : Text) : Parser Unit := fun t =>
  if s.isPrefixOf t then some ((), t.drop s.length) else none

/-- Reads characters of a class as long as there are any. -/
def takeWhile (p : Char → Bool) : Parser Text := fun t => some (t.takeWhile p, t.dropWhile p)

/-- Reads characters of a class, one at least. -/
def takeWhile1 (p : Char → Bool) : Parser Text := do
  let taken ← takeWhile p
  guard (!taken.isEmpty)
  return taken

/-- Reads values as often as it can, up to a number of times. -/
def manyWithin {α : Type} (p : Parser α) : Nat → Text → List α × Text
  | 0, t => ([], t)
  | n + 1, t =>
    match p t with
    | none => ([], t)
    | some (a, rest) =>
      let (as, rest) := manyWithin p n rest
      (a :: as, rest)

/-- Reads values as often as it can. Each of them is to take a character at least, so there are no
more of them than characters. -/
def many {α : Type} (p : Parser α) : Parser (List α) := fun t => some (manyWithin p t.length t)

/-- Reads values with separators between them, one value at least. -/
def separatedBy {α : Type} (p : Parser α) (separator : Parser Unit) : Parser (List α) := do
  let first ← p
  let others ← many (separator *> p)
  return first :: others

variable {α β : Type} {t rest : Text}

/-! ## Composed parsers on a text -/

@[simp] theorem pure_apply (a : α) (t : Text) : (pure a : Parser α) t = some (a, t) := rfl

@[simp] theorem bind_apply (p : Parser α) (f : α → Parser β) (t : Text) :
    (p >>= f) t = (p t).bind fun read => f read.1 read.2 := rfl

@[simp] theorem map_apply (f : α → β) (p : Parser α) (t : Text) :
    (f <$> p) t = (p t).map fun read => (f read.1, read.2) := by
  show (p t).bind _ = _
  cases p t <;> rfl

@[simp] theorem seqRight_apply (p : Parser α) (q : Parser β) (t : Text) :
    (p *> q) t = (p t).bind fun read => q read.2 := rfl

@[simp] theorem seqLeft_apply (p : Parser α) (q : Parser β) (t : Text) :
    (p <* q) t = (p t).bind fun read => (q read.2).map fun after => (read.1, after.2) := by
  show (p t).bind (fun read => (q read.2).bind _) = _
  congr 1
  funext read
  cases q read.2 <;> rfl

@[simp] theorem orElse_apply (p q : Parser α) (t : Text) : (p <|> q) t = (p t).or (q t) := by
  show (p t <|> q t) = _
  cases p t <;> rfl

@[simp] theorem discard_apply (p : Parser α) (t : Text) :
    discard p t = (p t).map fun read => ((), read.2) := by
  show (p t).bind _ = _
  cases p t <;> rfl

@[simp] theorem optional_apply (p : Parser α) (t : Text) :
    optional p t = some (((p t).map fun read => (some read.1, read.2)).getD (none, t)) := by
  show (some <$> p <|> pure none : Parser (Option α)) t = _
  rw [orElse_apply, map_apply]
  cases p t <;> rfl

@[simp] theorem guard_apply (h : Prop) [Decidable h] (t : Text) :
    (guard h : Parser Unit) t = if h then some ((), t) else none := by
  show (if h then pure () else failure : Parser Unit) t = _
  split <;> rfl

@[simp] theorem char_cons (c d : Char) (t : Text) :
    char c (d :: t) = if d = c then some ((), t) else none := by
  simp only [char, discard_apply, satisfy, beq_iff_eq]
  split <;> rfl

theorem char_eq_none {c : Char} (h : t.head? ≠ some c) : char c t = none := by
  cases t with
  | nil => rfl
  | cons d t => rw [char_cons, if_neg fun hd => h (congrArg some hd)]

theorem text_eq_none {s : Text} (h : ∀ after, t ≠ s ++ after) : text s t = none := by
  refine if_neg fun hprefix => ?_
  obtain ⟨after, hafter⟩ := List.isPrefixOf_iff_prefix.mp hprefix
  exact h after hafter.symm

/-- Characters of a class are read up to the first other one. -/
theorem takeWhile_append {holds : Char → Bool} {s : Text} (hs : ∀ c ∈ s, holds c)
    (hrest : ∀ c ∈ rest.head?, holds c = false) :
    takeWhile holds (s ++ rest) = some (s, rest) := by
  have htake : rest.takeWhile holds = [] := by
    cases rest with
    | nil => rfl
    | cons c rest => simp [hrest c rfl]
  have hdrop : rest.dropWhile holds = rest := by
    cases rest with
    | nil => rfl
    | cons c rest => simp [hrest c rfl]
  rw [takeWhile, List.takeWhile_append_of_pos hs, List.dropWhile_append_of_pos hs, htake, hdrop,
    List.append_nil]

theorem takeWhile1_apply (holds : Char → Bool) (t : Text) :
    takeWhile1 holds t =
      if (t.takeWhile holds).isEmpty then none
      else some (t.takeWhile holds, t.dropWhile holds) := by
  show (guard (!(t.takeWhile holds).isEmpty) >>= fun _ => pure (t.takeWhile holds) : Parser Text)
    (t.dropWhile holds) = _
  rw [bind_apply, guard_apply]
  cases (t.takeWhile holds).isEmpty <;> rfl

theorem takeWhile1_append {holds : Char → Bool} {s : Text} (hne : s ≠ []) (hs : ∀ c ∈ s, holds c)
    (hrest : ∀ c ∈ rest.head?, holds c = false) :
    takeWhile1 holds (s ++ rest) = some (s, rest) := by
  obtain ⟨htake, hdrop⟩ := Prod.mk.inj (Option.some.inj (takeWhile_append hs hrest))
  rw [takeWhile1_apply, htake, hdrop, if_neg (mt List.isEmpty_iff.mp hne)]

theorem takeWhile1_cons_eq_none {holds : Char → Bool} {c : Char} (hc : holds c = false)
    (t : Text) : takeWhile1 holds (c :: t) = none := by
  simp [takeWhile1_apply, hc]

/-! ## Repetitions -/

/-- The parser reads these values one after another, each from a character at least. -/
inductive Reads (p : Parser α) : Text → List α → Text → Prop where
  | done (t : Text) : Reads p t [] t
  | step {a : α} {as : List α} {t after rest : Text} (hread : p t = some (a, after))
    (hlt : after.length < t.length) (hafter : Reads p after as rest) : Reads p t (a :: as) rest

variable {p : Parser α} {as : List α} {after : Text}

theorem Reads.append {as' : List α} (h : Reads p t as after) (h' : Reads p after as' rest) :
    Reads p t (as ++ as') rest := by
  induction h with
  | done => exact h'
  | step hread hlt _ ih => exact .step hread hlt (ih h')

theorem Reads.single {a : α} (hread : p t = some (a, rest)) (hlt : rest.length < t.length) :
    Reads p t [a] rest :=
  .step hread hlt (.done rest)

/-- Texts that are read one by one, whatever allowed text follows, are read in a row. -/
theorem Reads.flatMap {w : β → Text} {value : β → α} (allowed : Text → Prop)
    (hread : ∀ b rest, allowed rest → p (w b ++ rest) = some (value b, rest))
    (hne : ∀ b, w b ≠ []) (hallowed : ∀ b rest, allowed (w b ++ rest)) (bs : List β)
    (hrest : allowed rest) : Reads p (bs.flatMap w ++ rest) (bs.map value) rest := by
  induction bs with
  | nil => exact .done rest
  | cons b bs ih =>
    have hnext : allowed (bs.flatMap w ++ rest) := by
      cases bs with
      | nil => exact hrest
      | cons b' bs => simpa using hallowed b' _
    have hpos := List.length_pos_iff.mpr (hne b)
    rw [List.flatMap_cons, List.append_assoc]
    exact .step (hread b _ hnext) (by simp only [List.length_append]; omega) ih

/-- A repetition reads all the values up to where no further one is read. Its bound on their number
is never met, because each of them takes a character. -/
theorem Reads.many_eq (h : Reads p t as rest) (hend : p rest = none) :
    many p t = some (as, rest) := by
  suffices ∀ n, t.length ≤ n → manyWithin p n t = (as, rest) by rw [many, this _ (Nat.le_refl _)]
  induction h with
  | done t =>
    intro n _
    cases n with
    | zero => rfl
    | succ n => simp [manyWithin, hend]
  | step hread hlt _ ih =>
    intro n hn
    cases n with
    | zero => omega
    | succ n => simp [manyWithin, hread, ih hend n (by omega)]

theorem Reads.separatedBy_eq {separator : Parser Unit} {first : α}
    (h : Reads (separator *> p) after as rest) (hfirst : p t = some (first, after))
    (hend : (separator *> p) rest = none) :
    separatedBy p separator t = some (first :: as, rest) := by
  simp only [separatedBy, bind_apply, hfirst, Option.bind_some, h.many_eq hend, pure_apply]

end Parser

end Syllabary.Toml
