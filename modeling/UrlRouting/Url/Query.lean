import UrlRouting.Parameters
import UrlRouting.Text.Cut
import UrlRouting.Url.Percent

/-! # Queries

A query is a list of `name=value` items between ampersands. An item without an equals sign has an
empty value, one with several is cut at the first; an item whose name is empty is dropped, an empty
item among them. Names and values are decoded separately: a plus sign is a space, and percent
escapes stand for octets. If the octets are no UTF-8 text, the escapes are left as they are written.

* `Query.pairs`: the names and values of a query, in order.
* `Query.parameters`: what a query sets; the last value of a repeated name counts. -/

namespace UrlRouting.Url.Query

/-- The UTF-8 octets of a text. -/
def octets (cs : List Char) : List UInt8 := cs.flatMap String.utf8EncodeChar

/-- A name or a value, decoded. -/
def component (raw : List Char) : String :=
  let spaced := raw.map fun c => if c = '+' then ' ' else c
  (String.fromUTF8? (Percent.decode (octets spaced)).toByteArray).getD (.ofList spaced)

/-- The name and the value of an item; none if the name is empty. -/
def pair? (item : List Char) : Option (String × String) :=
  let (name, value?) := Text.cut '=' item
  let name := component name
  if name = "" then none else some (name, component (value?.getD []))

/-- The names and values of a query, in order. -/
def pairs (query : String) : List (String × String) := (query.toList.splitOn '&').filterMap pair?

/-- The parameters that a query sets. -/
def parameters (query : String) : Parameters := .ofTexts (pairs query)

end UrlRouting.Url.Query
