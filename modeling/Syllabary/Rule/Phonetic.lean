import Syllabary.Rule.Basic
import Syllabary.Unicode.Case

/-!
# Phonetic rules

What a table of fixed outputs cannot say by itself: doubled consonants, long vowels written with a
diacritic or as a run of vowels, vowels that a quote sets apart, and the doubled nasal.
-/

namespace Syllabary

open Unicode (foldChar firstFolded? lastFolded? startsWithFolded lowercase)

/-- The long forms of a Latin vowel, with circumflex and with macron. -/
def longVowels? : Char → Option (Char × Char)
  | 'a' => some ('â', 'ā')
  | 'e' => some ('ê', 'ē')
  | 'i' => some ('î', 'ī')
  | 'o' => some ('ô', 'ō')
  | 'u' => some ('û', 'ū')
  | 'A' => some ('Â', 'Ā')
  | 'E' => some ('Ê', 'Ē')
  | 'I' => some ('Î', 'Ī')
  | 'O' => some ('Ô', 'Ō')
  | 'U' => some ('Û', 'Ū')
  | _ => none

namespace Rule

/-- A doubled consonant writes the marker and takes the first consonant only, so that the second one
opens the next syllable. -/
def geminate (consonant : Char) (marker : Text) : Rule :=
  literalWithLength [consonant, consonant] marker 1

/-- The rule for the same syllable with a long vowel: the key ends in `vowel`, the output in
`mark`. -/
def lengthened (key output : Text) (stride? : Option Stride) (mark : Text) (vowel : Char) : Rule :=
  ⟨key.dropLast ++ [vowel], .literal (output ++ mark) stride?⟩

/-- The rules for the long vowels of a literal rule whose key ends in a vowel, circumflex first. -/
def longVowelVariants (rule : Rule) (mark : Text) : List Rule :=
  match rule.action, rule.key.getLast?.bind longVowels? with
  | .literal output stride?, some (circumflex, macron) =>
    [lengthened rule.key output stride? mark circumflex,
      lengthened rule.key output stride? mark macron]
  | _, _ => []

/-- A vowel that becomes `mark` where it repeats the last vowel of the trigger before it and the
same vowel does not follow once more. Letter case is ignored. -/
def prolongedVowel (vowel : Char) (output mark : Text) : Rule :=
  let vowel := foldChar vowel
  computedWithOutput [vowel] output fun occurrence =>
    if lastFolded? occurrence.lastInput = some vowel ∧
        firstFolded? occurrence.following ≠ some vowel then
      .emit mark 1
    else .declared 1

/-- A quote and a vowel, which spell a vowel that repeats the last one of the trigger before;
anywhere else the rule is rejected. -/
def quotedVowel (vowel : Char) (output : Text) : Rule :=
  let vowel := foldChar vowel
  computedWithOutput ['\x27', vowel] output fun occurrence =>
    if lastFolded? occurrence.lastInput = some vowel then .declared occurrence.trigger.length
    else .reject

/-- A doubled nasal at the end of a syllable. Before an onset, in any letter case, it is rejected,
so that the second nasal opens the next syllable. -/
def syllabicNasal (key nasal : Text) (onsets : List Text) : Rule :=
  let onsets := onsets.map lowercase
  computedWithOutput key nasal fun occurrence =>
    if onsets.any (startsWithFolded occurrence.following) then .reject
    else .declared occurrence.trigger.length

end Rule

namespace RuleSet

/-- A doubled consonant rule for each of the consonants. -/
def geminates (consonants : Text) (marker : Text) : RuleSet :=
  consonants.map fun consonant => .geminate consonant marker

/-- Every rule, followed by its variants for long vowels. -/
def longVowelVariants (set : RuleSet) (mark : Text) : RuleSet :=
  set.transform fun rule => rule :: rule.longVowelVariants mark

end RuleSet

end Syllabary
