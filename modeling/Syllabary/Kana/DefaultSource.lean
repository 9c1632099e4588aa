import Syllabary.Kana.DefaultTable
import Syllabary.Toml.Writing

/-!
# The text of the default kana table

A table is kept as a document with an entry for every section. The text of the default table is what
is written for its rows, with the remarks that stand among them. A table of one's own can be given
as changes to this text.
-/

namespace Syllabary.Kana

/-! ## Writing tables -/

/-- The names of the sections need no quotes. -/
theorem Section.bare_name (s : Section) : s.name ≠ [] ∧ s.name.all Toml.isBare := by
  cases s <;> decide

/-- The field for a voicing, which is left out for plain letters. -/
def Voicing.fields : Voicing → List Text
  | plain => []
  | voiced => ["voiced".toList]
  | semiVoiced => ["semi-voiced".toList]

/-- The fields of a row in their order. -/
def HalfwidthRow.fields (row : HalfwidthRow) : List Text := row.texts ++ row.voicing.fields

/-- The remarks in the document of a table. -/
structure Remarks where
  /-- What stands above a section. -/
  aboveSection : Section → List Toml.Remark
  /-- What stands above a row, which is given by its number. -/
  aboveRow : Section → Nat → List Toml.Remark

namespace Table

/-- The rows of a section as a document gives them. -/
def fields (table : Table) : Section → List (List Text)
  | .kana => table.kana.map Row.texts
  | .smallKana => table.smallKana.map Row.texts
  | .digraphs => table.digraphs.map Row.texts
  | .rareKatakana => table.rareKatakana.map Row.texts
  | .ime => table.ime.map Row.texts
  | .halfwidth => table.halfwidth.map HalfwidthRow.fields
  | .punctuation => table.punctuation.map PunctuationRow.texts
  | .katakanaExtra => table.katakanaExtra.map ExtraRow.texts
  | .hiraganaExtra => table.hiraganaExtra.map ExtraRow.texts

/-- The entry of a section. -/
def entry (table : Table) (remarks : Remarks) (s : Section) : Toml.Entry where
  remarks := remarks.aboveSection s
  name := s.name
  bare := s.bare_name
  rows := (table.fields s).zipIdx.map fun (texts, n) => ⟨remarks.aboveRow s n, texts⟩

/-- The document of a table. -/
def toToml (table : Table) (remarks : Remarks) : Text :=
  Toml.write (Section.all.map (table.entry remarks))

end Table

/-! ## The default table -/

/-- The remarks on the default table. -/
def defaultRemarks : Remarks where
  aboveSection
    | .kana => [
        .note " Kana tables for romaji, hiragana and katakana conversion.",
        .note "",
        .note " Rows are [hiragana, katakana, romaji]. Within a section later rows override",
        .note " earlier ones for the same key, and each rule set lists its sections in a",
        .note " fixed order (see rules.rs), so alternative spellings come first.",
        .blank]
    | .smallKana => [.blank]
    | .digraphs => [.blank]
    | .rareKatakana => [.blank, .note " Katakana without a precomposed hiragana counterpart."]
    | .ime => [.blank, .note " Romaji accepted for IME-style typing only."]
    | .halfwidth => [
        .blank,
        .note " Halfwidth katakana as [hiragana, katakana, voicing]. Voicing is \"voiced\"",
        .note " for letters taking the voiced sound mark and \"semi-voiced\" for letters taking",
        .note " both marks. Marked forms are derived with the combining and halfwidth marks."]
    | .punctuation => [.blank, .note " Romaji punctuation as [romaji, kana]."]
    | .katakanaExtra => [.blank, .note " Katakana-only marks and digraphs as [katakana, hiragana]."]
    | .hiraganaExtra => [.blank, .note " Hiragana-only marks and digraphs as [hiragana, katakana]."]
  aboveRow
    | .kana, 0 => [
        .note " Small letters outside digraphs, overridden by the plain syllables below."]
    | .kana, 3 => [.blank, .note " Syllabic nasal."]
    | .kana, 5 => [
        .blank, .note " Alternative spellings, listed first so kana keep their usual romaji."]
    | .kana, 19 => [.blank, .note " Standard syllables."]
    | .digraphs, 0 => [.note " Alternative spellings."]
    | .digraphs, 19 => [.blank, .note " Standard digraphs."]
    | .digraphs, 71 => [.blank, .note " Digraphs replacing archaic letters."]
    | _, _ => []

/-- The default table as a document. -/
def defaultSource : Text := Table.default.toToml defaultRemarks

/-- The table that is read from the document after replacements, each of the first occurrence. -/
def Table.ofReplacements (replacements : List (Text × Text)) : Except TableError Table :=
  ofToml (replacements.foldl (fun source pair => Text.replaceFirst pair.1 pair.2 source)
    defaultSource)

end Syllabary.Kana
