import UrlRouting.Toml.Statement

/-! # Documents

A document is a table that is written as a text in TOML 1.0. `parse?` is its table, or nothing if
the text breaks a rule anywhere: of its spelling, or of which tables and fields may be added to
which. A byte order mark in front is skipped. -/

namespace UrlRouting.Toml

/-- A document read so far: its fields, and the path of the table that the next field goes to. -/
structure Draft where
  fields : Fields
  current : List String

/-- The draft after one more statement. -/
def Draft.add? (draft : Draft) : Statement → Option Draft
  | .table key => do
    return ⟨← draft.fields.openTable key, key.path ++ [key.name]⟩
  | .element key => do
    return ⟨← draft.fields.openElement key, key.path ++ [key.name]⟩
  | .assign key value => do
    return ⟨← draft.fields.update (Fields.assign key.name value key.path) draft.current,
      draft.current⟩

/-- The characters of a text without a byte order mark in front. -/
def withoutMark (source : String) : List Char :=
  match source.toList with
  | '\ufeff' :: rest => rest
  | text => text

/-- The fields of the document that a text is. -/
def parse? (source : String) : Option (List (String × Value)) := do
  let (lines, _) ← lines (withoutMark source)
  let draft ← (lines.filterMap id).foldlM Draft.add? ⟨[], []⟩
  return closeFields draft.fields

end UrlRouting.Toml
