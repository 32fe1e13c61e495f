import UrlRouting.Value

/-! # Policies

What to do with a URL that no entry fits: hand it over to another program if it has a scheme,
pass it over, or report it.

A policy is read from structured data of any format. `Shape` is all that is seen of such data: a
table by its keys, a list by its items. In a table each field has its key; in a list the fields come
by position. A missing field has its default; keys and items beyond the fields do not matter.

* `Policy.decode?`: the policy in some data, if every field that is there is a boolean.
* `Policy.ofValue?`: the policy in a value, where a list with more items than fields is refused. -/

namespace UrlRouting

/-- What to do with a URL that no entry fits. -/
structure Policy where
  /-- pass it over in silence -/
  passOver : Bool := false
  /-- hand it over to another program if it has a scheme -/
  handOver : Bool := true
  deriving DecidableEq

/-- What is seen of structured data with items of type `α`. -/
inductive Shape (α : Type) where
  | table (get? : String → Option α)
  | list (items : List α)
  | other

namespace Policy

instance : Inhabited Policy := ⟨{}⟩

/-- The field that an optional item sets; the default if there is no item. -/
def field? {α : Type} (bool? : α → Option Bool) (default : Bool) : Option α → Option Bool
  | none => some default
  | some item => bool? item

/-- The policy with two optional fields. -/
def ofFields? {α : Type} (bool? : α → Option Bool) (passOver handOver : Option α) :
    Option Policy := do
  let standard : Policy := {}
  return ⟨← field? bool? standard.passOver passOver, ← field? bool? standard.handOver handOver⟩

/-- The policy in some data. -/
def decode? {α : Type} (bool? : α → Option Bool) : Shape α → Option Policy
  | .table get? => ofFields? bool? (get? "ignore_unmatched") (get? "open_external_fallback")
  | .list items => ofFields? bool? items[0]? items[1]?
  | .other => none

/-- The policy in a value. -/
def ofValue? (value : Value) : Option Policy :=
  decode? Value.bool? <| match value with
    | .object fields => .table (List.lookup · fields)
    | .array items => if items.length ≤ 2 then .list items else .other
    | _ => .other

end Policy

end UrlRouting
