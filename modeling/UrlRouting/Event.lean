import UrlRouting.RoutingError

/-! # Log events

What routers and dispatchers write into the log. Each event has a level, a message, and named
fields. -/

namespace UrlRouting

/-- How much an event matters. -/
inductive Level where
  | trace
  | debug
  | warn
  deriving DecidableEq

/-- The name of a level. -/
def Level.label : Level → String
  | .trace => "TRACE"
  | .debug => "DEBUG"
  | .warn => "WARN"

/-- An event of the log. -/
inductive Event where
  /-- an entry was added as the `index`-th of its router -/
  | registered (format : String) (size : Nat) (kind : Kind) (index : Nat)
  /-- an entry with a handler was compared with the request -/
  | tried (format : String) (hit : Bool)
  /-- the rest of the request went to a mounted router -/
  | delegated (format : String) (rest : String)
  | resolved (url : String) (format : String) (kind : Kind)
  | unresolved (url : String)
  | handingOver (url : String)
  /-- a URL that fits no entry was passed over -/
  | passedOver (url : String) (error : RoutingError)
  deriving DecidableEq

namespace Event

/-- The level of an event. -/
def level : Event → Level
  | .tried .. | .delegated .. => .trace
  | .registered .. | .resolved .. | .unresolved .. | .handingOver .. => .debug
  | .passedOver .. => .warn

/-- The message of an event. -/
def message : Event → String
  | .registered .. => "registered route"
  | .tried .. => "tried route"
  | .delegated .. => "delegating to child router"
  | .resolved .. => "route matched"
  | .unresolved .. => "no route matched"
  | .handingOver .. => "opening external url"
  | .passedOver .. => "ignoring unmatched url"

/-- The fields of an event. -/
def fields : Event → List (String × Value)
  | .registered format size kind index =>
    [("format", .string format), ("segments", .int size), ("kind", .string kind.label),
      ("index", .int index)]
  | .tried format hit => [("pattern", .string format), ("hit", .bool hit)]
  | .delegated format rest => [("prefix", .string format), ("sub_path", .string rest)]
  | .resolved url format kind =>
    [("path", .string url), ("pattern", .string format), ("kind", .string kind.label)]
  | .unresolved url => [("path", .string url)]
  | .handingOver url => [("url", .string url)]
  | .passedOver url error => [("url", .string url), ("error", .string error.message)]

end Event

end UrlRouting
