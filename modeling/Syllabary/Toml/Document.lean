import Syllabary.Toml.Value

/-!
# Documents

A document is a sequence of statements. A header opens a table, and the values after it are entered
there. Reading gives the root table, or nothing where the text breaks a rule of the language.
-/

namespace Syllabary.Toml

open Syllabary.Toml.Parser

/-- A value without values inside. -/
def scalar : Parser Value :=
  .string <$> string <|>
    .dateTime <$> dateTime <|>
    .number <$> number <|>
    .integer <$> integer <|>
    (text "true".toList *> pure (.boolean true)) <|>
    (text "false".toList *> pure (.boolean false))

/-- An array. Spacing and comments may stand around its values, and a comma after the last. -/
def array (value : Parser Value) : Parser (List Value) := do
  char '['
  let items ← separatedBy (spacing *> value <* spacing) (char ',') <|> pure []
  unless items.isEmpty do
    discard (optional (char ','))
  spacing
  char ']'
  return items

/-- A path and its value. -/
def assignment (value : Parser Value) : Parser (Path × Value) := do
  let path ← path
  char '='
  blanks
  return (path, ← value)

/-- A table in braces, on one line but for the values inside. -/
def inlineTable (value : Parser Value) : Parser Table := do
  char '{'
  blanks
  let entries ← separatedBy (assignment value <* blanks) (char ',') <|> pure []
  char '}'
  match entries.foldlM (fun table (path, value) => Table.assign table path value) [] with
  | none => failure
  | some table => return table

/-- A value with at most this many levels of arrays and tables in braces. -/
def valueWithin : Nat → Parser Value
  | 0 => scalar
  | depth + 1 =>
    scalar <|> .array <$> array (valueWithin depth) <|>
      .table .inline <$> inlineTable (valueWithin depth)

/-- A value. -/
def value : Parser Value := valueWithin (depthLimit - 1)

/-- A statement of a document. -/
inductive Statement where
  | assign (path : Path) (value : Value)
  | openTable (path : Path)
  | openElement (path : Path)

/-- A header or an assignment. -/
def statement : Parser Statement :=
  (do
    text ['[', '[']
    let path ← path
    text [']', ']']
    return .openElement path) <|>
  (do
    char '['
    let path ← path
    char ']'
    return .openTable path) <|>
  (do
    let (path, value) ← assignment value
    return .assign path value)

/-- A line with a statement, a comment or nothing. -/
def line : Parser (Option Statement) := do
  blanks
  match ← peek with
  | none => failure
  | some '\r' | some '\n' => newline *> pure none
  | some '#' => lineEnd *> pure none
  | some _ => some <$> statement <* lineEnd

/-- The statements of a document. A byte order mark may stand before them. -/
def statements : Parser (List Statement) := do
  discard (optional (char '\uFEFF'))
  let lines ← many line
  blanks
  return lines.filterMap id

/-- The root table with the place where values are entered. -/
structure Document where
  root : Table
  place : List Text

/-- Carries out a statement. -/
def Document.apply (document : Document) : Statement → Option Document
  | .assign path value => do
    let root ← Table.changeAt false (fun _ table => table.assign path value) document.place .header
      document.root
    return { document with root }
  | .openTable path => do
    return ⟨← document.root.openTable path, path.tables ++ [path.name]⟩
  | .openElement path => do
    return ⟨← document.root.openElement path, path.tables ++ [path.name]⟩

/-- The root table of a document. -/
def read? (t : Text) : Option Table := do
  let list ← statements.readAll? t
  let document ← list.foldlM Document.apply ⟨[], []⟩
  return document.root

end Syllabary.Toml
