import UrlRouting.Request
import UrlRouting.Router.Trail

/-! # Resolving URLs

`Router.resolve` finds what handles a URL and with which parameters. The path alone decides what
handles it. The parameters come in layers, each hiding those before it: the default parameters of
the mounts on the way and of the leaf, the query, what the mounts and the leaf bind, and at last the
parameters given with the call.

A router hands its layers down to the router that it mounts (`Layers`). Each mount on the way adds
to two of them, its default parameters and what it binds; the leaf at the end stacks them up with
its own. -/

namespace UrlRouting

/-- What a URL resolves to. -/
structure Resolution where
  handler : Handler
  params : Parameters
  presentation : Presentation
  template : Template
  deriving DecidableEq

/-- The layers of parameters handed down to a mounted router. -/
structure Layers where
  /-- the default parameters of the mounts on the way, the outermost at the bottom -/
  defaults : Parameters
  query : Parameters
  /-- what the mounts on the way bind, the outermost at the bottom -/
  bindings : Parameters

namespace Layers

/-- The layers of a router that is not mounted. -/
def ofQuery (query : Parameters) : Layers := ⟨∅, query, ∅⟩

/-- The layers that a mount hands down, taken for some segments. -/
def below (layers : Layers) (mount : Entry (Mount Router)) (segments : List String) : Layers where
  defaults := .overlay [layers.defaults, mount.presentation.defaults]
  query := layers.query
  bindings := .overlay [layers.bindings, mount.template.bindings segments]

/-- The parameters of a leaf, taken for some segments. -/
def params (layers : Layers) (leaf : Entry Handler) (segments : List String) : Parameters :=
  .overlay [layers.defaults, leaf.presentation.defaults, layers.query, layers.bindings,
    leaf.template.bindings segments]

end Layers

/-- What a trail resolves to, with the layers handed down to its first router. -/
def Trail.resolution? : Trail → Layers → Option Resolution
  | .hit visit leaf, layers =>
    some ⟨leaf.target, layers.params leaf visit.segments, leaf.presentation, leaf.template⟩
  | .miss _, _ => none
  | .via visit mount rest, layers => rest.resolution? (layers.below mount visit.segments)

namespace Router

/-- What the segments of a request resolve to, one router deep. -/
theorem resolution?_trail (router : Router) (segments : List String) (layers : Layers) :
    (router.trail segments).resolution? layers =
      ((router.leaves.find? (·.template.fits segments)).map fun leaf =>
        ⟨leaf.target, layers.params leaf segments, leaf.presentation, leaf.template⟩).or
      ((router.mounts.find? (·.template.leads segments)).bind fun mount =>
        (mount.target.child.trail (Url.Path.split (mount.template.rest segments))).resolution?
          (layers.below mount segments)) := by
  rw [trail_eq]
  cases router.leaves.find? (·.template.fits segments) with
  | some leaf => rfl
  | none => cases router.mounts.find? (·.template.leads segments) <;> rfl

/-- What handles a URL, called with some parameters. -/
def resolve (router : Router) (url : String) (extra : Parameters) :
    Except RoutingError Resolution :=
  let request := Request.ofUrl url
  match (router.trail request.segments).resolution? (.ofQuery request.parameters) with
  | some found => .ok { found with params := .overlay [found.params, extra] }
  | none => .error (.unmatched url)

/-- What resolving a URL writes into the log. -/
def resolveEvents (router : Router) (url : String) : List Event :=
  let trail := router.trail (Request.ofUrl url).segments
  trail.events ++
    match trail.leaf? with
    | some leaf => [.resolved url leaf.template.format leaf.target.kind]
    | none => [.unresolved url]

end Router

end UrlRouting
