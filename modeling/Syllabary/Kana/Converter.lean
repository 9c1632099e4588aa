import Syllabary.Kana.DefaultTable
import Syllabary.Kana.Rules
import Syllabary.Mappings
import Syllabary.Scan.Conversion

/-!
# Kana converters

A converter holds one index for each script. Rules of a user are laid over the rules of the default
table in both scripts.
-/

namespace Syllabary.Kana

/-- Converts texts to either script. -/
structure Converter where
  hiragana : Index
  katakana : Index

namespace Converter

/-- The rule set of a script for a table with further rules over it. -/
def ruleSet (table : Table) (custom : RuleSet) (script : Script) : RuleSet :=
  .concat [table.rules script, custom]

/-- The converter of a table with further rules over it. -/
def overlay (table : Table) (custom : RuleSet) : Converter where
  hiragana := .ofRules .unicode (ruleSet table custom .hiragana)
  katakana := .ofRules .unicode (ruleSet table custom .katakana)

/-- The converter of a table. -/
def ofTable (table : Table) : Converter := overlay table []

/-- The converter of the default table. -/
def default : Converter := ofTable .default

/-- The converter of the default table with the mappings of a document over it. -/
def customized (mappings : Text) : Except MappingsError Converter := do
  return overlay .default (← RuleSet.ofToml mappings)

/-- The index for a script. -/
def index (converter : Converter) : Script → Index
  | .hiragana => converter.hiragana
  | .katakana => converter.katakana

/-- The text in hiragana. -/
def toHiragana (converter : Converter) (t : Text) : Text := converter.hiragana.convert t

/-- The text in katakana. -/
def toKatakana (converter : Converter) (t : Text) : Text := converter.katakana.convert t

end Converter

end Syllabary.Kana
