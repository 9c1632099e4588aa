import Syllabary.Text
import Syllabary.Unicode.CodeMap
import Syllabary.Unicode.CombiningClassData
import Syllabary.Unicode.CompositionData
import Syllabary.Unicode.DecompositionData

/-!
# Canonical normalization

`nfd` decomposes every character and puts runs of marks in the order of their combining classes.
`nfc` then joins each starter with the marks that it reaches.

## Main statements

* `insertMark_perm` and `nfd_perm`: ordering moves characters and changes none.
-/

namespace Syllabary.Unicode

/-- Canonical combining classes other than zero. -/
def combiningClassMap : CodeMap Nat := .ofRows combiningClassRows

/-- Full canonical decompositions. -/
def decompositionMap : CodeMap (List Nat) := .ofPoints decompositionPoints

/-- What may follow a character in a primary composite. -/
def compositionMap : CodeMap (List (Nat × Nat)) := .ofPoints compositionPoints

/-- The canonical combining class; it is zero for starters. -/
def combiningClass (c : Char) : Nat := (combiningClassMap.find? c.toNat).getD 0

namespace Hangul

/-! Syllables are numbered by leading consonant, vowel and trailing consonant, where the trailing
consonant number zero is none. -/

/-- The first syllable. -/
def syllableBase : Nat := 0xAC00
/-- The first leading consonant. -/
def leadBase : Nat := 0x1100
/-- The first vowel. -/
def vowelBase : Nat := 0x1161
/-- One before the first trailing consonant. -/
def tailBase : Nat := 0x11A7
/-- The number of leading consonants. -/
def leadCount : Nat := 19
/-- The number of vowels. -/
def vowelCount : Nat := 21
/-- The number of trailing consonants, none included. -/
def tailCount : Nat := 28

/-- The parts of a syllable, or `none` if the character is no syllable. -/
def decompose? (c : Char) : Option Text :=
  let n := c.toNat - syllableBase
  if syllableBase ≤ c.toNat ∧ n < leadCount * vowelCount * tailCount then
    let lead := Char.ofNat (leadBase + n / (vowelCount * tailCount))
    let vowel := Char.ofNat (vowelBase + n % (vowelCount * tailCount) / tailCount)
    if n % tailCount = 0 then some [lead, vowel]
    else some [lead, vowel, Char.ofNat (tailBase + n % tailCount)]
  else none

/-- The syllable of a leading consonant and a vowel, or of an open syllable and a trailing
consonant. -/
def compose? (a b : Char) : Option Char :=
  let lead := a.toNat - leadBase
  let vowel := b.toNat - vowelBase
  let open_ := a.toNat - syllableBase
  let tail := b.toNat - tailBase
  if leadBase ≤ a.toNat ∧ lead < leadCount ∧ vowelBase ≤ b.toNat ∧ vowel < vowelCount then
    some (Char.ofNat (syllableBase + (lead * vowelCount + vowel) * tailCount))
  else if syllableBase ≤ a.toNat ∧ open_ < leadCount * vowelCount * tailCount ∧
      open_ % tailCount = 0 ∧ tailBase < b.toNat ∧ tail < tailCount then
    some (Char.ofNat (a.toNat + tail))
  else none

end Hangul

/-- The full canonical decomposition of a character. -/
def decomposeChar (c : Char) : Text :=
  match Hangul.decompose? c with
  | some parts => parts
  | none =>
    match decompositionMap.find? c.toNat with
    | some codes => codes.map Char.ofNat
    | none => [c]

/-- Puts a character in front of an ordered text: a mark moves behind the marks of lower class. -/
def insertMark (c : Char) : Text → Text
  | [] => [c]
  | d :: t =>
    if 0 < combiningClass d ∧ combiningClass d < combiningClass c then d :: insertMark c t
    else c :: d :: t

/-- Canonical order: in every run of marks the combining classes do not fall, and marks of one class
keep their order. -/
def orderMarks (t : Text) : Text := t.foldr insertMark []

/-- The canonically decomposed form. -/
def nfd (t : Text) : Text := orderMarks (t.flatMap decomposeChar)

/-- The primary composite of two characters. -/
def composite? (a b : Char) : Option Char :=
  match Hangul.compose? a b with
  | some c => some c
  | none => do
    let followers ← compositionMap.find? a.toNat
    let code ← followers.lookup b.toNat
    pure (Char.ofNat code)

/-- Whether a starter still reaches a character across the marks kept between them: the last of
these, if any, has a lower class. -/
def reaches (kept : Text) (c : Char) : Bool :=
  match kept.getLast? with
  | none => true
  | some mark => combiningClass mark < combiningClass c

/-- Composes what follows a starter with it; `kept` are the marks in between that stay. -/
def composeAfter (starter : Char) (kept : Text) : Text → Text
  | [] => starter :: kept
  | c :: t =>
    match if reaches kept c then composite? starter c else none with
    | some joined => composeAfter joined kept t
    | none =>
      if combiningClass c = 0 then starter :: (kept ++ composeAfter c [] t)
      else composeAfter starter (kept ++ [c]) t

/-- Composes a text in canonical order from its first starter on. -/
def composeMarks : Text → Text
  | [] => []
  | c :: t => if combiningClass c = 0 then composeAfter c [] t else c :: composeMarks t

/-- The canonically composed form. -/
def nfc (t : Text) : Text := composeMarks (nfd t)

theorem insertMark_perm (c : Char) (t : Text) : (insertMark c t).Perm (c :: t) := by
  induction t with
  | nil => exact .refl _
  | cons d t ih =>
    simp only [insertMark]
    split
    · exact (ih.cons d).trans (.swap c d t)
    · exact .refl _

theorem orderMarks_perm (t : Text) : (orderMarks t).Perm t := by
  induction t with
  | nil => exact .refl _
  | cons c t ih => exact (insertMark_perm c (orderMarks t)).trans (ih.cons c)

/-- The decomposed form has the characters of the decompositions, in canonical order. -/
theorem nfd_perm (t : Text) : (nfd t).Perm (t.flatMap decomposeChar) := orderMarks_perm _

end Syllabary.Unicode
