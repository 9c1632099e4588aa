import Syllabary.Kana.DefaultSource
import Syllabary.Proofs.WrittenDocuments

/-!
# Written tables are read back

A document that is written for a table gives this table again, whatever remarks are put into it.
Only a table with an empty text is refused, as it is refused from any document. So the tables that
can be read are exactly those that pass the check, and the text of the default table is a document
of the default table.

## Main statements

* `ofToml_toToml`: what is read from the document of a table.
* `exists_ofToml_eq_ok_iff`: a table can be read from a document exactly if it passes the check.
* `ofToml_defaultSource`: the text of the default table gives the default table.
* `ofReplacements_of_not_infix`: so does the text after replacements that find nothing.
-/

namespace Syllabary.Kana

variable {α : Type}

/-! ## Rows -/

/-- The value that a document gives for a row with these fields. -/
def rowValue (fields : List Text) : Toml.Value := .array (fields.map .string)

theorem ofValue?_row (row : Row) : Row.ofValue? (rowValue row.texts) = some row := rfl

theorem ofValue?_halfwidthRow (row : HalfwidthRow) :
    HalfwidthRow.ofValue? (rowValue row.fields) = some row := by
  obtain ⟨hiragana, katakana, voicing⟩ := row
  cases voicing <;> rfl

theorem ofValue?_punctuationRow (row : PunctuationRow) :
    PunctuationRow.ofValue? (rowValue row.texts) = some row := rfl

theorem ofValue?_extraRow (row : ExtraRow) : ExtraRow.ofValue? (rowValue row.texts) = some row :=
  rfl

/-- Rows of one kind are read back if each of them is. -/
theorem mapM_rowValue {ofValue? : Toml.Value → Option α} {fields : α → List Text}
    (hof : ∀ row, ofValue? (rowValue (fields row)) = some row) (rows : List α) :
    ((rows.map fields).map rowValue).mapM ofValue? = some rows := by
  induction rows with
  | nil => rfl
  | cons row rows ih =>
    simp only [List.map_cons, List.mapM_cons, hof row, ih]
    rfl

/-! ## Tables -/

namespace Table

variable (table : Table) (remarks : Remarks)

/-- What is read from a document of the table. -/
def root : Toml.Table := Section.all.map fun s => (s.name, .array ((table.fields s).map rowValue))

theorem value_entry (s : Section) :
    (table.entry remarks s).value = .array ((table.fields s).map rowValue) := by
  have hfst : (table.fields s).zipIdx.map Prod.fst = table.fields s := List.zipIdx_map_fst ..
  have hrows : (table.entry remarks s).rows.map Toml.WrittenRow.value =
      ((table.fields s).zipIdx.map Prod.fst).map rowValue := by
    rw [entry, List.map_map, List.map_map]
    rfl
  rw [Toml.Entry.value, hrows, hfst]

theorem read?_toToml : Toml.read? (table.toToml remarks) = some table.root := by
  have hnames : (Section.all.map (table.entry remarks)).map Toml.Entry.name =
      Section.all.map Section.name := by
    rw [List.map_map]
    rfl
  have hnodup : (Section.all.map Section.name).Nodup := by decide
  rw [toToml, Toml.read?_write (hnames ▸ hnodup), List.map_map, root]
  simp only [Function.comp_def, value_entry]
  rfl

theorem lookup_root (s : Section) :
    table.root.lookup s.name = some (.array ((table.fields s).map rowValue)) := by
  cases s <;> rfl

theorem ofDocument?_root : ofDocument? table.root = some table := by
  simp only [ofDocument?, rows?, lookup_root, fields, mapM_rowValue ofValue?_row,
    mapM_rowValue ofValue?_halfwidthRow, mapM_rowValue ofValue?_punctuationRow,
    mapM_rowValue ofValue?_extraRow]
  rfl

/-- A written table is read back, unless it has an empty text, which is refused. -/
theorem ofToml_toToml : ofToml (table.toToml remarks) = (do table.check; return table) := by
  rw [ofToml, read?_toToml, Option.bind_some, ofDocument?_root]

theorem ofToml_eq_ok_iff {t : Text} {table : Table} :
    ofToml t = .ok table ↔ (Toml.read? t).bind ofDocument? = some table ∧ table.check = .ok () := by
  unfold ofToml
  split
  · next h => simp [h]
  · next read h =>
    rw [h, Option.some.injEq]
    cases hcheck : read.check with
    | error e =>
      constructor
      · exact fun hread => nomatch hread
      · rintro ⟨rfl, hok⟩
        exact nomatch hcheck.symm.trans hok
    | ok _ =>
      constructor
      · intro hread
        obtain rfl : read = table := Except.ok.inj hread
        exact ⟨rfl, hcheck⟩
      · exact fun hread => congrArg Except.ok hread.1

/-- A table can be read from a document exactly if it passes the check. -/
theorem exists_ofToml_eq_ok_iff : (∃ t, ofToml t = .ok table) ↔ table.check = .ok () := by
  constructor
  · rintro ⟨t, ht⟩
    exact (ofToml_eq_ok_iff.mp ht).2
  · intro hcheck
    exact ⟨table.toToml ⟨fun _ => [], fun _ _ => []⟩, by rw [ofToml_toToml, hcheck]; rfl⟩

/-! ## The default table -/

theorem check_default : default.check = .ok () := by
  rw [check_eq_ok_iff]
  intro s
  cases s <;> decide +kernel

/-- The text of the default table gives the default table. -/
theorem ofToml_defaultSource : ofToml defaultSource = .ok default := by
  rw [defaultSource, ofToml_toToml, check_default]
  rfl

/-- Replacements that find nothing in the text leave the default table. -/
theorem ofReplacements_of_not_infix {replacements : List (Text × Text)}
    (h : ∀ pair ∈ replacements, ¬ pair.1 <:+: defaultSource) :
    ofReplacements replacements = .ok default := by
  have hsource : replacements.foldl (fun source pair => Text.replaceFirst pair.1 pair.2 source)
      defaultSource = defaultSource := by
    induction replacements with
    | nil => rfl
    | cons pair replacements ih =>
      obtain ⟨hfirst, hothers⟩ := List.forall_mem_cons.mp h
      rw [List.foldl_cons, Text.replaceFirst_of_not_infix _ hfirst, ih hothers]
  rw [ofReplacements, hsource, ofToml_defaultSource]

end Table

end Syllabary.Kana
