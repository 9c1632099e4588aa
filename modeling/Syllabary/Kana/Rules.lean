import Syllabary.Kana.Mark
import Syllabary.Kana.Script
import Syllabary.Kana.Table
import Syllabary.Rule.Phonetic

/-!
# Kana rules

From a table come two rule sets. One writes hiragana for katakana and romaji, the other katakana for
hiragana and romaji. The parts of a set stand in the order of precedence, the strongest last.
-/

namespace Syllabary.Kana

/-- The mark of a long vowel. -/
def prolongedSoundMark : Text := ['ー']

/-- The consonants that are doubled by a small letter. A doubled `n` is the syllabic nasal. -/
def geminateConsonants : Text :=
  ['b', 'c', 'd', 'f', 'g', 'h', 'j', 'k', 'm', 'p', 'r', 's', 't', 'v', 'w', 'y', 'z']

/-- What makes a syllable together with the second of two nasals. -/
def syllableOnsets : List Text :=
  [['a'], ['i'], ['u'], ['e'], ['o'], ['y', 'a'], ['y', 'u'], ['y', 'e'], ['y', 'o']]

/-- The text of a row in a script. -/
def Row.inScript (row : Row) (script : Script) : Text := script.pick row.hiragana row.katakana

/-- Writes the target of every row for its source. -/
def extraRules (rows : List ExtraRow) : RuleSet :=
  rows.map fun row => .literal row.source row.target

/-- Writes hiragana for the katakana of every row. -/
def katakanaRows (rows : List Row) : RuleSet :=
  rows.map fun row => .literal row.katakana row.hiragana

/-- Writes katakana for the hiragana of every row. -/
def hiraganaRows (rows : List Row) : RuleSet :=
  rows.map fun row => .literal row.hiragana row.katakana

/-- Writes kana of a script for the romaji of every row. -/
def romajiRows (rows : List Row) (script : Script) : RuleSet :=
  rows.map fun row => .literal row.romaji (row.inScript script)

/-- Writes the kana of every row for its romaji. -/
def punctuationRules (rows : List PunctuationRow) : RuleSet :=
  rows.map fun row => .literal row.romaji row.kana

/-- The rules of a halfwidth letter: by itself, and with the marks that it takes. -/
def HalfwidthRow.rules (row : HalfwidthRow) : RuleSet :=
  let bare : Rule := .literal row.katakana row.hiragana
  let withVoiced := (halfwidthVoiced row.katakana).map (.literal · (voiced row.hiragana))
  let withSemiVoiced :=
    (halfwidthSemiVoiced row.katakana).map (.literal · (semiVoiced row.hiragana))
  match row.voicing with
  | .plain => [bare]
  | .voiced => bare :: withVoiced
  | .semiVoiced => bare :: (withVoiced ++ withSemiVoiced)

/-- Writes hiragana for katakana of both widths. -/
def katakanaToHiragana (table : Table) : RuleSet :=
  .concat
    [katakanaRows table.kana, katakanaRows table.smallKana, extraRules table.katakanaExtra,
      katakanaRows table.rareKatakana, table.halfwidth.flatMap HalfwidthRow.rules]

/-- Writes katakana for hiragana. -/
def hiraganaToKatakana (table : Table) : RuleSet :=
  .concat
    [hiraganaRows table.kana, hiraganaRows table.smallKana, extraRules table.hiraganaExtra]

/-- Vowels behind a quote. -/
def quotedVowels (script : Script) : RuleSet :=
  script.vowels.map fun vowel => .quotedVowel vowel.latin vowel.kana

/-- Vowels that prolong the vowel before them. -/
def prolongedVowels (script : Script) : RuleSet :=
  script.vowels.map fun vowel => .prolongedVowel vowel.latin vowel.kana prolongedSoundMark

/-- The syllabic nasal, spelled with two letters. -/
def doubledNasal (script : Script) : Rule :=
  .syllabicNasal ['n', 'n'] script.nasal syllableOnsets

/-- Writes kana of a script for romaji with short vowels. -/
def shortRomaji (table : Table) (script : Script) : RuleSet :=
  .concat
    [romajiRows table.kana script, romajiRows table.digraphs script,
      punctuationRules table.punctuation, .geminates geminateConsonants script.geminateMarker,
      quotedVowels script, romajiRows table.ime script, [doubledNasal script]]

/-- Writes kana of a script for romaji. -/
def romajiToKana (table : Table) (script : Script) : RuleSet :=
  (shortRomaji table script).longVowelVariants prolongedSoundMark

/-- Writes a script for the other one and for romaji. Katakana also reads a repeated vowel as a long
one. -/
def Table.rules (table : Table) : Script → RuleSet
  | .hiragana => .concat [katakanaToHiragana table, romajiToKana table .hiragana]
  | .katakana =>
    .concat [hiraganaToKatakana table, romajiToKana table .katakana, prolongedVowels .katakana]

end Syllabary.Kana
