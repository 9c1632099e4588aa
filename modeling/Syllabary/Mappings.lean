import Std.Data.TreeMap
import Syllabary.Rule.Basic
import Syllabary.Toml.Document

/-!
# Mappings

A document may list literal rules under `mappings`: a key with its output, or with a table of
output and length. Keys are distinct and come in the order of their code points. The rules are
refused if there are none or if one of them is empty somewhere, and then the first faulty key is
named.

## Main statements

* `rule?_eq_ok_iff`: an entry gives a rule exactly if its key and output are not empty and its
  length is not zero.
-/

namespace Syllabary

open Std (TreeMap)

/-- What a key is mapped to. -/
structure Mapping where
  output : Text
  /-- The number of characters to take in place of the key's. -/
  length? : Option Nat
deriving DecidableEq

/-- Mappings by key. -/
abbrev Mappings := TreeMap Text Mapping

/-- Why mappings give no rules. -/
inductive MappingsError where
  /-- The text is no document, or its mappings are not of the form described above. -/
  | malformed
  /-- There are no mappings. -/
  | empty
  | emptyKey
  | emptyOutput (key : Text)
  | zeroLength (key : Text)
deriving DecidableEq

namespace MappingsError

/-- The text that tells a user what is wrong. -/
def message : MappingsError → Text
  | .malformed => "TOML parse error".toList
  | .empty => "[mappings] table is empty".toList
  | .emptyKey => "empty key".toList
  | .emptyOutput key => "empty output for key: ".toList ++ key
  | .zeroLength key => "zero length for key: ".toList ++ key

end MappingsError

namespace Mapping

/-- The rule of a key. Key, output and length are checked in this order. -/
def rule? (key : Text) (mapping : Mapping) : Except MappingsError Rule :=
  if key = [] then .error .emptyKey
  else if mapping.output = [] then .error (.emptyOutput key)
  else
    match mapping.length? with
    | none => .ok (.literal key mapping.output)
    | some length =>
      if length = 0 then .error (.zeroLength key)
      else .ok (.literalWithLength key mapping.output length)

/-- An entry gives a rule exactly if its key and output are not empty and its length is not zero. -/
theorem rule?_eq_ok_iff {key : Text} {mapping : Mapping} {rule : Rule} :
    mapping.rule? key = .ok rule ↔
      (key ≠ [] ∧ mapping.output ≠ [] ∧ mapping.length? ≠ some 0) ∧
        rule = ⟨key, .literal mapping.output (mapping.length?.map .ofNat)⟩ := by
  obtain ⟨output, length?⟩ := mapping
  unfold rule?
  split
  · next h => simp [h]
  · next hkey =>
    split
    · next h => simp only at h; simp [h]
    · next hout =>
      cases length? with
      | none => simp [hkey, hout, Rule.literal, eq_comm]
      | some length =>
        simp only
        split
        · next h => simp [h]
        · next hlen => simp [hkey, hout, hlen, Rule.literalWithLength, eq_comm]

/-- A mapping as a document gives it. A table may hold further fields, which do not count. -/
def ofValue? : Toml.Value → Option Mapping
  | .string output => some ⟨output, none⟩
  | .table _ entries => do
    let .string output ← entries.lookup "output".toList | none
    match entries.lookup "length".toList with
    | none => return ⟨output, none⟩
    | some (.integer length) =>
      if 0 ≤ length then return ⟨output, some length.toNat⟩ else none
    | some _ => none
  | _ => none

end Mapping

namespace Mappings

/-- The rules of all mappings, in the order of their keys. -/
def rules (mappings : Mappings) : Except MappingsError RuleSet :=
  if mappings.isEmpty then .error .empty
  else mappings.toList.mapM fun (key, mapping) => mapping.rule? key

/-- The entries under `mappings`. A date or time counts as a table of one entry, which holds its
written form under a key of its own. -/
def entries? : Toml.Value → Option Toml.Table
  | .table _ entries => some entries
  | .dateTime d => some [("$__toml_private_datetime".toList, .string d.render)]
  | _ => none

/-- The mappings of a document. -/
def ofDocument? (root : Toml.Table) : Option Mappings := do
  let entries ← entries? (← root.lookup "mappings".toList)
  let mappings ← entries.mapM fun (key, value) => do return (key, ← Mapping.ofValue? value)
  return .ofList mappings

end Mappings

/-- The rules that a document lists under `mappings`. -/
def RuleSet.ofToml (t : Text) : Except MappingsError RuleSet :=
  match (Toml.read? t).bind Mappings.ofDocument? with
  | none => .error .malformed
  | some mappings => mappings.rules

end Syllabary
