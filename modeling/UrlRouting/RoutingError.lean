import UrlRouting.Entry

/-! # Routing errors

The ways in which resolving a URL, or acting on what it resolves to, can fail, and the message of
each. -/

namespace UrlRouting

/-- Why a URL led nowhere. -/
inductive RoutingError where
  /-- no entry fits the URL -/
  | unmatched (url : String)
  /-- the view cannot be constructed -/
  | misconfigured (view : ViewId) (reason : String)
  /-- there is no program to hand the URL over to -/
  | noReceiver (url : String)
  deriving DecidableEq

namespace RoutingError

/-- Whether no entry fits the URL. -/
def isUnmatched : RoutingError → Bool
  | .unmatched _ => true
  | _ => false

/-- The message of an error. -/
def message : RoutingError → String
  | .unmatched url => "no route matches `" ++ url ++ "`"
  | .misconfigured view reason =>
    "route target `" ++ view.name ++ "` is misconfigured: " ++ reason
  | .noReceiver url => "opening external URL `" ++ url ++ "` is not supported"

end RoutingError

end UrlRouting
