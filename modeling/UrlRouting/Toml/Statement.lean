import UrlRouting.Toml.Table
import UrlRouting.Toml.Text

/-! # Statements

A document is a list of lines, each of which says at most one thing: the header of a table, the
header of one more table of an array, or the value of a field. A value can go over several lines
only inside arrays and long texts. Arrays and inline tables nest fewer than `nesting` deep, and a
dotted name has fewer than `nesting` parts. -/

namespace UrlRouting.Toml

open Reader

/-- The bound on nesting. -/
def nesting : Nat := 80

/-- One thing that a document says. -/
inductive Statement where
  /-- the header `[key]` -/
  | table (key : Key)
  /-- the header `[[key]]` -/
  | element (key : Key)
  | assign (key : Key) (value : Value)

/-! ### Values -/

/-- A dotted name, with any blanks around its parts. -/
def key : Reader Key := do
  let names ← sepBy1 (blanks *> name <* blanks) (char '.')
  match names.reverse with
  | last :: path => if names.length < nesting then return ⟨path.reverse, last⟩ else failure
  | [] => failure

/-- A boolean. -/
def boolean : Reader Bool := word "true" *> pure true <|> word "false" *> pure false

/-- A value that holds no others. -/
def atom : Reader Value :=
  .text <$> text <|> .boolean <$> boolean <|> .moment <$> moment <|> .number <$> number

/-- An array of what `item` reads; a comma after the last item is allowed. -/
def array (item : Reader Value) : Reader Value := do
  char '['
  let items ← sepBy (gap *> item <* gap) (char ',')
  unless items.isEmpty do discard (optional (char ','))
  gap
  char ']'
  return .array items

/-- A name with what `item` reads. -/
def assignment (item : Reader Value) : Reader (Key × Value) := do
  let key ← key
  char '='
  blanks
  return (key, ← item)

/-- A table on one line, with fields of what `item` reads. -/
def inlineTable (item : Reader Value) : Reader Value := do
  char '\x7b'
  let fields ← sepBy (assignment item <* blanks) (char ',')
  blanks
  char '\x7d'
  let add (fields : Fields) : Key × Value → Option Fields
    | (key, value) => fields.assign key.name value key.path
  match fields.foldlM add [] with
  | some fields => return .table (closeFields fields)
  | none => failure

/-- A value with at most `depth` arrays and inline tables around anything in it. -/
def value : Nat → Reader Value
  | 0 => atom
  | depth + 1 => atom <|> array (value depth) <|> inlineTable (value depth)

/-! ### Lines -/

/-- A header or an assignment. -/
def statement : Reader Statement :=
  .element <$> (word "[[" *> key <* word "]]") <|> .table <$> (char '[' *> key <* char ']') <|>
    (fun (key, value) => .assign key value) <$> assignment (value (nesting - 1))

/-- A line, with what it says. -/
def line : Reader (Option Statement) := notAtEnd *> blanks *> optional statement <* lineEnd

/-- All lines of a text. -/
def lines : Reader (List (Option Statement)) := many line <* atEnd

end UrlRouting.Toml
