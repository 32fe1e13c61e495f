import UrlRouting.Url.Path
import UrlRouting.Url.Query

/-! # Requests

A request is the part of a URL that a router looks at: the path and the query. The fragment, from
the first `#` on, is dropped; the query starts after the first `?` of what is left.

* `Request.ofUrl`: the request of a URL.
* `Request.segments`, `Request.parameters`: what a router reads off it. -/

namespace UrlRouting

open Url

/-- A path with an optional query. -/
structure Request where
  path : String
  query : Option String
  deriving DecidableEq

namespace Request

/-- The request of a URL. -/
def ofUrl (url : String) : Request :=
  let (path, query) := Text.cut '?' (Text.cut '#' url.toList).1
  ⟨.ofList path, query.map .ofList⟩

/-- The segments of the path. -/
def segments (request : Request) : List String := Path.split request.path

/-- The names and values of the query, in order; none without a query. -/
def pairs (request : Request) : List (String × String) := (request.query.map Query.pairs).getD []

/-- The parameters that the query sets. -/
def parameters (request : Request) : Parameters := .ofTexts request.pairs

end Request

end UrlRouting
