import UrlRouting.Toml.Value

/-! # Tables under construction

A document fills its tables piece by piece, and which pieces may still be added to a table depends
on how it came about: by a header of its own (`[a]`), on the way to a header further down (the `a`
of `[a.b]`), or on the way of a dotted name (the `a` of `a.b = 1`). Values that are written out,
inline tables and arrays among them, are closed.

* `Fields.update`: change the fields at the end of a path of header names. It passes through tables
  of all kinds and through the last table of an array of tables.
* `Fields.assign`: set the field of a dotted name. It passes through tables without a header of
  their own, and through the last table of an array of tables; the table that gets the field must
  come from dotted names itself.
* `Fields.openTable`, `Fields.openElement`: what the headers `[a]` and `[[a]]` do. -/

namespace UrlRouting.Toml

/-- How a table came about. -/
inductive Origin where
  /-- by a header of its own -/
  | header
  /-- on the way to a header -/
  | implied
  /-- on the way of a dotted name -/
  | dotted
  deriving DecidableEq

/-- A field under construction. -/
inductive Node where
  | closed (value : Value)
  | table (origin : Origin) (fields : List (String × Node))
  /-- an array of tables, the last of which is still open -/
  | elements (before : List (List (String × Node))) (last : List (String × Node))

/-- The fields of a table under construction. -/
abbrev Fields := List (String × Node)

/-- A dotted name: the names on the way, and the last one. -/
structure Key where
  path : List String
  name : String
  deriving DecidableEq

namespace Fields

/-- The field of a name. -/
def find? (fields : Fields) (name : String) : Option Node := fields.lookup name

/-- The fields with another node under a name, which is added at the end if it is new. -/
def put (fields : Fields) (name : String) (node : Node) : Fields :=
  if (fields.find? name).isSome then
    fields.map fun field => if field.1 = name then (name, node) else field
  else fields ++ [(name, node)]

/-- The fields changed at the end of a path. -/
def update (change : Fields → Option Fields) : List String → Fields → Option Fields
  | [], fields => change fields
  | name :: path, fields =>
    match fields.find? name with
    | none => do return fields.put name (.table .implied (← update change path []))
    | some (.closed _) => none
    | some (.table origin below) => do
      return fields.put name (.table origin (← update change path below))
    | some (.elements before last) => do
      return fields.put name (.elements before (← update change path last))

/-- The fields with one more at the end of a dotted name. -/
def assign (name : String) (value : Value) : List String → Fields → Option Fields
  | [], fields =>
    if (fields.find? name).isSome then none else some (fields.put name (.closed value))
  | part :: path, fields =>
    match fields.find? part with
    | none => do return fields.put part (.table .dotted (← assign name value path []))
    | some (.closed _) | some (.table .header _) => none
    | some (.table .implied below) =>
      if path.isEmpty then none
      else do return fields.put part (.table .implied (← assign name value path below))
    | some (.table .dotted below) => do
      return fields.put part (.table .dotted (← assign name value path below))
    | some (.elements before last) =>
      if path.isEmpty then none
      else do return fields.put part (.elements before (← assign name value path last))

/-- The fields with a table opened by its header. -/
def openTable (key : Key) : Fields → Option Fields :=
  update (fun fields =>
    match fields.find? key.name with
    | none => some (fields.put key.name (.table .header []))
    | some (.table .implied below) => some (fields.put key.name (.table .header below))
    | some _ => none) key.path

/-- The fields with one more table in an array of tables. -/
def openElement (key : Key) : Fields → Option Fields :=
  update (fun fields =>
    match fields.find? key.name with
    | none => some (fields.put key.name (.elements [] []))
    | some (.elements before last) => some (fields.put key.name (.elements (before ++ [last]) []))
    | some _ => none) key.path

end Fields

/-! ### Closing -/

mutual

/-- The value of a finished node. -/
def Node.close : Node → Value
  | .closed value => value
  | .table _ fields => .table (closeFields fields)
  | .elements before last => .array (closeElements before ++ [.table (closeFields last)])

/-- The values of finished fields. -/
def closeFields : List (String × Node) → List (String × Value)
  | [] => []
  | (name, node) :: rest => (name, node.close) :: closeFields rest

/-- The values of the finished tables of an array. -/
def closeElements : List (List (String × Node)) → List Value
  | [] => []
  | fields :: rest => .table (closeFields fields) :: closeElements rest

end

end UrlRouting.Toml
