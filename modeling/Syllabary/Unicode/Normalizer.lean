import Syllabary.Unicode.Normalization

/-!
# Normalizers

The two normal forms that a text can be written in, taken as one value, so that what is said of keys
and their forms holds for any pair of functions.
-/

namespace Syllabary

/-- A composed and a decomposed form of every text. -/
structure Normalizer where
  composed : Text → Text
  decomposed : Text → Text

namespace Normalizer

/-- The canonical forms of Unicode. -/
def unicode : Normalizer := ⟨Unicode.nfc, Unicode.nfd⟩

/-- The text with its two normal forms, in this order and without repetition. -/
def forms (normalizer : Normalizer) (t : Text) : List Text :=
  [t, normalizer.composed t, normalizer.decomposed t].eraseDups

@[simp] theorem mem_forms {normalizer : Normalizer} {s t : Text} :
    s ∈ normalizer.forms t ↔ s = t ∨ s = normalizer.composed t ∨ s = normalizer.decomposed t := by
  simp [forms]

end Normalizer

end Syllabary
