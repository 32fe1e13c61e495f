import UrlRouting.Policy
import UrlRouting.Router.Resolve
import UrlRouting.Url.Scheme

/-! # Dispatchers

A dispatcher acts on URLs: it resolves them in a router, runs the callbacks itself, and leaves views
and foreign URLs to a host. A URL that no entry fits is handed over to another program, passed over,
or reported, as the policy says. An error of the host is reported as it is, whatever the policy.

Running a callback and calling the host are the effects of a dispatcher. They are recorded in the
order in which they happen, together with the result and the log: `Run`. -/

namespace UrlRouting

/-- Who shows views and hands URLs over to other programs; both can fail. -/
structure Host where
  showView : ViewId → Parameters → Presentation → Except RoutingError Unit
  handOver : String → Except RoutingError Unit

/-- How a host that knows no other program hands over a URL: it refuses. -/
def Host.refuse (url : String) : Except RoutingError Unit := .error (.noReceiver url)

/-- What a dispatcher does to the world. -/
inductive Effect where
  /-- run a callback -/
  | call (callback : Callback) (params : Parameters)
  /-- ask the host to show a view -/
  | showView (view : ViewId) (params : Parameters) (presentation : Presentation)
  /-- ask the host to hand over a URL -/
  | handOver (url : String)
  deriving DecidableEq

/-- What became of a URL. -/
inductive Outcome where
  /-- a callback ran -/
  | called
  /-- the host showed a view -/
  | shown (view : ViewId)
  /-- another program got the URL -/
  | handedOver
  | passedOver
  deriving DecidableEq

/-- A result with the effects and the log events that led to it. -/
structure Run (α : Type) where
  result : Except RoutingError α
  effects : List Effect
  events : List Event

/-- A router with a host and a policy. -/
structure Dispatcher where
  router : Router
  host : Host
  policy : Policy

namespace Dispatcher

/-- Hand over a URL to another program. -/
def handOver (dispatcher : Dispatcher) (url : String) : Run Unit :=
  ⟨dispatcher.host.handOver url, [.handOver url], [.handingOver url]⟩

/-- Act on what a URL resolves to. -/
def actOn (dispatcher : Dispatcher) (found : Resolution) : Run Outcome :=
  match found.handler with
  | .callback callback => ⟨.ok .called, [.call callback found.params], []⟩
  | .view view =>
    ⟨(dispatcher.host.showView view found.params found.presentation).map fun _ => .shown view,
      [.showView view found.params found.presentation], []⟩

/-- Act on a URL that does not resolve. -/
def giveUp (dispatcher : Dispatcher) (url : String) (error : RoutingError) : Run Outcome :=
  if dispatcher.policy.handOver && Url.hasScheme url then
    let run := dispatcher.handOver url
    ⟨run.result.map fun _ => .handedOver, run.effects, run.events⟩
  else if dispatcher.policy.passOver then ⟨.ok .passedOver, [], [.passedOver url error]⟩
  else ⟨.error error, [], []⟩

/-- Act on a URL, called with some parameters. -/
def dispatch (dispatcher : Dispatcher) (url : String) (extra : Parameters) : Run Outcome :=
  let run := match dispatcher.router.resolve url extra with
    | .ok found => dispatcher.actOn found
    | .error error => dispatcher.giveUp url error
  { run with events := dispatcher.router.resolveEvents url ++ run.events }

end Dispatcher

end UrlRouting
