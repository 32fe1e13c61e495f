import UrlRouting.Event

/-! # Routers

A router is a list of entries in the order of their registration; through its mounts it is the root
of a tree of routers. Its leaves are the entries with handlers, its mounts those with a further
router, each in their order.

* `Router.add`: a router with one more entry at the end.
* `Router.induction`: what holds of a router as soon as it holds of the routers mounted in it holds
  of every router. -/

namespace UrlRouting

/-- A list of entries, the first registered first. -/
inductive Router where
  | ofRoutes (routes : List (Entry (Target Router)))

/-- An entry of a router. -/
abbrev Route := Entry (Target Router)

namespace Router

/-- The entries of a router. -/
def routes : Router → List Route
  | .ofRoutes routes => routes

/-- The router without entries. -/
def empty : Router := .ofRoutes []

instance : Inhabited Router := ⟨empty⟩

/-- The number of entries. -/
def size (router : Router) : Nat := router.routes.length

/-- Whether there is no entry. -/
def isEmpty (router : Router) : Bool := router.routes.isEmpty

/-- The entries with handlers. -/
def leaves (router : Router) : List (Entry Handler) := router.routes.filterMap Entry.leaf?

/-- The entries with mounted routers. -/
def mounts (router : Router) : List (Entry (Mount Router)) := router.routes.filterMap Entry.mount?

/-- The router with one more entry at the end. -/
def add (router : Router) (route : Route) : Router := .ofRoutes (router.routes ++ [route])

/-- What adding an entry writes into the log. -/
def additionEvent (router : Router) (route : Route) : Event :=
  .registered route.template.format route.template.size route.target.kind router.size

@[simp] theorem routes_ofRoutes (routes : List Route) : (ofRoutes routes).routes = routes := rfl

@[simp] theorem ofRoutes_routes (router : Router) : ofRoutes router.routes = router := by
  cases router; rfl

@[simp] theorem routes_add (router : Router) (route : Route) :
    (router.add route).routes = router.routes ++ [route] := rfl

/-! ### Induction -/

mutual

/-- What passes from the mounted routers to a router holds of every router. -/
theorem induction {P : Router → Prop}
    (h : ∀ router : Router, (∀ entry ∈ router.mounts, P entry.target.child) → P router) :
    ∀ router, P router
  | .ofRoutes routes => h _ (induction_mounts h routes)

theorem induction_mounts {P : Router → Prop}
    (h : ∀ router : Router, (∀ entry ∈ router.mounts, P entry.target.child) → P router) :
    ∀ routes : List Route, ∀ entry ∈ routes.filterMap Entry.mount?, P entry.target.child
  | [] => by simp
  | ⟨_, .handler _, _⟩ :: rest => induction_mounts h rest
  | ⟨_, .mount ⟨_, child⟩, _⟩ :: rest =>
    List.forall_mem_cons.2 ⟨induction h child, induction_mounts h rest⟩

end

end Router

end UrlRouting
