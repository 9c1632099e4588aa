import Syllabary.Text
import Syllabary.Unicode.CaseData
import Syllabary.Unicode.CodeMap

/-!
# Lowercase

Two ways to ignore case. `foldChar` takes a character to one character, the first of its lowercase.
`lowercase` takes a text to its full lowercase, where U+0130 becomes two characters and a capital
sigma depends on its neighbours: at the end of a word it becomes the final sigma.

## Main statements

* `foldChar_eq_or_mem`: a character folds to itself or as its row in `lowercasePoints` says.
* `startsWithFolded_iff`: starting with a text in any case is starting with it after folding.
* `head?_lowercase`: the lowercase of a text starts with the folded first character.
* `length_le_length_lowercase`: the lowercase of a text is no shorter than the text.
* `lowercase_eq_map_iff`: where lowercasing a text is folding its characters.
-/

namespace Syllabary.Unicode

/-- The lowercase of single characters. -/
def lowercaseMap : CodeMap Nat := .ofPoints lowercasePoints

/-- Case folding: the first character of the lowercase. -/
def foldChar (c : Char) : Char :=
  match lowercaseMap.find? c.toNat with
  | some code => Char.ofNat code
  | none => c

/-- The full lowercase of a character outside any context. -/
def lowercaseChar (c : Char) : Text :=
  if c = 'İ' then [foldChar c, '\u0307'] else [foldChar c]

/-- The cased characters. -/
def casedMap : CodeMap Unit := .ofRows casedRows

/-- The characters that are skipped in search of a neighbouring letter. -/
def caseIgnorableMap : CodeMap Unit := .ofRows caseIgnorableRows

/-- Whether the character is a cased letter. -/
def isCased (c : Char) : Bool := (casedMap.find? c.toNat).isSome

/-- Whether the character is skipped in search of a neighbouring letter. -/
def isCaseIgnorable (c : Char) : Bool := (caseIgnorableMap.find? c.toNat).isSome

/-- Whether the first character that is not skipped is a cased letter. -/
def meetsCased (t : Text) : Bool :=
  match t.dropWhile isCaseIgnorable with
  | [] => false
  | c :: _ => isCased c

/-- Whether a sigma ends its word: a letter stands before it and none after it. The text before is
given from its end. -/
def endsWord (beforeReversed after : Text) : Bool :=
  meetsCased beforeReversed && !meetsCased after

/-- The lowercase of a character between the text before it, given from its end, and the text after
it. -/
def lowercaseBetween (beforeReversed : Text) (c : Char) (after : Text) : Text :=
  if c = 'Σ' then (if endsWord beforeReversed after then ['ς'] else ['σ']) else lowercaseChar c

/-- The full lowercase of a text. -/
def lowercase (t : Text) : Text :=
  go [] t
where
  /-- The lowercase of a text that stands after another one, given from its end. -/
  go (beforeReversed : Text) : Text → Text
    | [] => []
    | c :: after => lowercaseBetween beforeReversed c after ++ go (c :: beforeReversed) after

/-- The first character, folded. -/
def firstFolded? (t : Text) : Option Char := t.head?.map foldChar

/-- The last character, folded. -/
def lastFolded? (t : Text) : Option Char := t.getLast?.map foldChar

/-- Whether the text starts with `start`, character by character and in any case. -/
def startsWithFolded : (t start : Text) → Bool
  | _, [] => true
  | [], _ :: _ => false
  | c :: t, d :: start => foldChar c == foldChar d && startsWithFolded t start

theorem foldChar_eq_or_mem (c : Char) :
    foldChar c = c ∨ ∃ code, (c.toNat, code) ∈ lowercasePoints ∧ foldChar c = Char.ofNat code := by
  unfold foldChar
  split
  · next code h => exact Or.inr ⟨code, CodeMap.mem_of_find?_ofPoints h, rfl⟩
  · exact Or.inl rfl

@[simp] theorem lowercase_nil : lowercase [] = [] := rfl

@[simp] theorem head?_lowercaseChar (c : Char) : (lowercaseChar c).head? = some (foldChar c) := by
  unfold lowercaseChar
  split <;> rfl

theorem length_lowercaseChar_pos (c : Char) : 0 < (lowercaseChar c).length := by
  unfold lowercaseChar
  split <;> simp

theorem length_lowercaseBetween_pos (beforeReversed : Text) (c : Char) (after : Text) :
    0 < (lowercaseBetween beforeReversed c after).length := by
  unfold lowercaseBetween
  split
  · split <;> simp
  · exact length_lowercaseChar_pos c

/-- A capital sigma folds as if it did not end its word. -/
theorem foldChar_capitalSigma : foldChar 'Σ' = 'σ' := by decide +kernel

/-- The lowercase of a text starts as folding says. This holds of a capital sigma too, since a word
that ends with it has a letter before it. -/
theorem head?_lowercase (c : Char) (t : Text) : (lowercase (c :: t)).head? = some (foldChar c) := by
  have hfirst : (lowercaseBetween [] c t).head? = some (foldChar c) := by
    unfold lowercaseBetween
    split
    · next h => rw [if_neg (by simp [endsWord, meetsCased]), h, foldChar_capitalSigma]; rfl
    · exact head?_lowercaseChar c
  rw [lowercase, lowercase.go, List.head?_append, hfirst, Option.some_or]

theorem length_le_length_lowercase_go (beforeReversed t : Text) :
    t.length ≤ (lowercase.go beforeReversed t).length := by
  induction t generalizing beforeReversed with
  | nil => simp
  | cons c t ih =>
    have hfirst := length_lowercaseBetween_pos beforeReversed c t
    have hrest := ih (c :: beforeReversed)
    rw [lowercase.go, List.length_append, List.length_cons]
    omega

/-- Lowercasing never makes a text shorter. -/
theorem length_le_length_lowercase (t : Text) : t.length ≤ (lowercase t).length :=
  length_le_length_lowercase_go [] t

theorem lowercase_ne_nil {t : Text} (ht : t ≠ []) : lowercase t ≠ [] := by
  have hle := length_le_length_lowercase t
  have hpos := List.length_pos_iff.mpr ht
  exact List.ne_nil_of_length_pos (by omega)

/-! ## Where folding is lowercasing -/

/-- A capital sigma ends its word somewhere in the text, which stands after another one, given from
its end. -/
def HasFinalSigma (beforeReversed t : Text) : Prop :=
  ∃ before after, t = before ++ 'Σ' :: after ∧
    endsWord (before.reverse ++ beforeReversed) after = true

theorem not_hasFinalSigma_nil (beforeReversed : Text) : ¬ HasFinalSigma beforeReversed [] := by
  rintro ⟨before, after, heq, -⟩
  simp at heq

theorem hasFinalSigma_cons {beforeReversed t : Text} {c : Char} :
    HasFinalSigma beforeReversed (c :: t) ↔
      (c = 'Σ' ∧ endsWord beforeReversed t = true) ∨ HasFinalSigma (c :: beforeReversed) t := by
  constructor
  · rintro ⟨before, after, heq, hends⟩
    cases before with
    | nil =>
      obtain ⟨rfl, rfl⟩ := List.cons.inj heq
      exact Or.inl ⟨rfl, hends⟩
    | cons d before =>
      obtain ⟨rfl, rfl⟩ := List.cons.inj heq
      refine Or.inr ⟨before, after, rfl, ?_⟩
      rwa [List.reverse_cons, List.append_assoc, List.singleton_append] at hends
  · rintro (⟨rfl, hends⟩ | ⟨before, after, rfl, hends⟩)
    · exact ⟨[], t, rfl, hends⟩
    · refine ⟨c :: before, after, rfl, ?_⟩
      rwa [List.reverse_cons, List.append_assoc, List.singleton_append]

instance decidableHasFinalSigma :
    (beforeReversed t : Text) → Decidable (HasFinalSigma beforeReversed t)
  | beforeReversed, [] => isFalse (not_hasFinalSigma_nil beforeReversed)
  | beforeReversed, c :: t =>
    have := decidableHasFinalSigma (c :: beforeReversed) t
    decidable_of_iff _ hasFinalSigma_cons.symm

/-- Apart from U+0130 and a capital sigma that ends its word a character lowers to what it folds
to. -/
theorem lowercaseBetween_eq_iff {beforeReversed t rest rest' : Text} {c : Char}
    (hrest : rest'.length ≤ rest.length) :
    lowercaseBetween beforeReversed c t ++ rest = foldChar c :: rest' ↔
      c ≠ 'İ' ∧ ¬ (c = 'Σ' ∧ endsWord beforeReversed t = true) ∧ rest = rest' := by
  unfold lowercaseBetween
  by_cases hsigma : c = 'Σ'
  · rw [if_pos hsigma, hsigma, foldChar_capitalSigma]
    by_cases hends : endsWord beforeReversed t = true
    · simp [hends]
    · simp [hends]
  · rw [if_neg hsigma, lowercaseChar]
    by_cases hdotted : c = 'İ'
    · -- the lowercase of U+0130 is longer than one character
      rw [if_pos hdotted]
      refine ⟨fun h => ?_, fun h => absurd hdotted h.1⟩
      have hlength := congrArg List.length h
      simp only [List.length_append, List.length_cons, List.length_nil] at hlength
      omega
    · rw [if_neg hdotted]
      simp [hsigma, hdotted]

theorem lowercase_go_eq_map_iff {beforeReversed t : Text} :
    lowercase.go beforeReversed t = t.map foldChar ↔
      'İ' ∉ t ∧ ¬ HasFinalSigma beforeReversed t := by
  induction t generalizing beforeReversed with
  | nil => simp [lowercase.go, not_hasFinalSigma_nil]
  | cons c t ih =>
    have hlength : (t.map foldChar).length ≤ (lowercase.go (c :: beforeReversed) t).length := by
      rw [List.length_map]
      exact length_le_length_lowercase_go _ t
    rw [lowercase.go, List.map_cons, lowercaseBetween_eq_iff hlength, ih, hasFinalSigma_cons,
      List.mem_cons, not_or, not_or, ne_comm, and_and_and_comm, and_assoc]

/-- Lowercasing a text is folding its characters, unless there is U+0130, whose lowercase has two
characters, or a capital sigma that ends its word and becomes the final sigma. -/
theorem lowercase_eq_map_iff {t : Text} :
    lowercase t = t.map foldChar ↔ 'İ' ∉ t ∧ ¬ HasFinalSigma [] t :=
  lowercase_go_eq_map_iff

/-- A text starts with another one in any case exactly if this holds of the folded texts. -/
theorem startsWithFolded_iff {t start : Text} :
    startsWithFolded t start = true ↔ start.map foldChar <+: t.map foldChar := by
  induction start generalizing t with
  | nil => simp [startsWithFolded]
  | cons d start ih =>
    cases t with
    | nil => simp [startsWithFolded]
    | cons c t =>
      simp only [startsWithFolded, Bool.and_eq_true, beq_iff_eq, ih, List.map_cons,
        List.cons_prefix_cons]
      exact and_congr_left fun _ => eq_comm

end Syllabary.Unicode
