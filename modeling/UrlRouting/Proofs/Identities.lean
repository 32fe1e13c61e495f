import UrlRouting.Router.Resolve

/-! # Routers without identities

Callbacks and mounts are known by identity. The mounts do not show in what a URL resolves to; the
callbacks do.

* `Router.forget`: a router without its identities; `Router.resolve_forget` says that resolving does
  not look at them.
* `Router.callbacks`: the callbacks of a router and of all routers below it, the only ones that it
  resolves to.
* `Router.recurs_of_forget_eq`: two routers of one shape without a common callback resolve alike, but
  for callbacks. -/

namespace UrlRouting

/-! ### Without identities -/

/-- The entry with another target. -/
def Entry.mapTarget {σ τ : Type} (f : σ → τ) (entry : Entry σ) : Entry τ :=
  ⟨entry.template, f entry.target, entry.presentation⟩

/-- The handler without the identity of its callback. -/
def Handler.forget : Handler → Handler
  | .callback _ => .callback ⟨0⟩
  | .view v => .view v

namespace Router

mutual

/-- The router without the identities of its callbacks and mounts, at any depth. -/
def forget : Router → Router
  | .ofRoutes routes => .ofRoutes (forgetAll routes)

/-- The entries without identities. -/
def forgetAll : List Route → List Route
  | [] => []
  | ⟨template, .handler handler, shown⟩ :: others =>
    ⟨template, .handler handler.forget, shown⟩ :: forgetAll others
  | ⟨template, .mount ⟨_, child⟩, shown⟩ :: others =>
    ⟨template, .mount ⟨0, child.forget⟩, shown⟩ :: forgetAll others

end

end Router

/-- The mount without its identity and those below it. -/
def Mount.forget (mount : Mount Router) : Mount Router := ⟨0, mount.child.forget⟩

/-- The target without identities. -/
def Target.forget : Target Router → Target Router
  | .handler h => .handler h.forget
  | .mount m => .mount m.forget

/-- The resolution without the identity of its callback. -/
def Resolution.forget (found : Resolution) : Resolution :=
  { found with handler := found.handler.forget }

namespace Router

theorem forgetAll_eq (routes : List Route) :
    forgetAll routes = routes.map (Entry.mapTarget Target.forget) := by
  induction routes with
  | nil => rfl
  | cons route others ih =>
    obtain ⟨template, _ | ⟨id, child⟩, shown⟩ := route
    · rw [forgetAll, ih]; rfl
    · rw [forgetAll, ih]; rfl

theorem routes_forget (router : Router) :
    router.forget.routes = router.routes.map (Entry.mapTarget Target.forget) := by
  obtain ⟨routes⟩ := router
  rw [forget, routes_ofRoutes, forgetAll_eq, routes_ofRoutes]

theorem leaf?_forget (route : Route) :
    (route.mapTarget Target.forget).leaf? = route.leaf?.map (Entry.mapTarget Handler.forget) := by
  obtain ⟨template, _ | _, shown⟩ := route <;> rfl

theorem mount?_forget (route : Route) :
    (route.mapTarget Target.forget).mount? = route.mount?.map (Entry.mapTarget Mount.forget) := by
  obtain ⟨template, _ | _, shown⟩ := route <;> rfl

theorem leaves_forget (router : Router) :
    router.forget.leaves = router.leaves.map (Entry.mapTarget Handler.forget) := by
  rw [leaves, leaves, routes_forget, List.filterMap_map, List.map_filterMap]
  exact congrArg (List.filterMap · router.routes) (funext leaf?_forget)

theorem mounts_forget (router : Router) :
    router.forget.mounts = router.mounts.map (Entry.mapTarget Mount.forget) := by
  rw [mounts, mounts, routes_forget, List.filterMap_map, List.map_filterMap]
  exact congrArg (List.filterMap · router.routes) (funext mount?_forget)

theorem forget_add (router : Router) (route : Route) :
    (router.add route).forget = router.forget.add (route.mapTarget Target.forget) := by
  rw [← ofRoutes_routes (router.add route).forget, routes_forget, routes_add, List.map_append,
    ← routes_forget]
  rfl

/-- **Resolving does not look at identities**: from any layers, at any depth. -/
theorem resolution?_forget : ∀ (router : Router) (segments : List String) (layers : Layers),
    (router.forget.trail segments).resolution? layers =
      ((router.trail segments).resolution? layers).map Resolution.forget := by
  refine Router.induction fun router ih segments layers => ?_
  rw [resolution?_trail router.forget, resolution?_trail router, leaves_forget, mounts_forget,
    List.find?_map, List.find?_map]
  have hleaf : (fun leaf : Entry Handler => leaf.template.fits segments) ∘
      Entry.mapTarget Handler.forget = fun leaf => leaf.template.fits segments := rfl
  have hmount : (fun mount : Entry (Mount Router) => mount.template.leads segments) ∘
      Entry.mapTarget Mount.forget = fun mount => mount.template.leads segments := rfl
  rw [hleaf, hmount]
  cases router.leaves.find? (·.template.fits segments) with
  | some leaf => rfl
  | none =>
    cases hfind : router.mounts.find? (·.template.leads segments) with
    | none => rfl
    | some mount =>
      exact ih mount (List.mem_of_find?_eq_some hfind) _ (layers.below mount segments)

theorem resolve_forget (router : Router) (url : String) (extra : Parameters) :
    router.forget.resolve url extra = (router.resolve url extra).map Resolution.forget := by
  rw [resolve, resolve, resolution?_forget]
  cases (router.trail (Request.ofUrl url).segments).resolution?
    (.ofQuery (Request.ofUrl url).parameters) <;> rfl

end Router

/-! ### Callbacks -/

/-- The callbacks of a handler: one or none. -/
def Handler.callbacks : Handler → List Callback
  | .callback c => [c]
  | .view _ => []

namespace Router

mutual

/-- The callbacks of a router and of all routers below it. -/
def callbacks : Router → List Callback
  | .ofRoutes routes => callbacksOf routes

/-- The callbacks of some entries and of all routers below them. -/
def callbacksOf : List Route → List Callback
  | [] => []
  | ⟨_, .handler handler, _⟩ :: others => handler.callbacks ++ callbacksOf others
  | ⟨_, .mount ⟨_, child⟩, _⟩ :: others => child.callbacks ++ callbacksOf others

end

end Router

/-- The callbacks that a target leads to. -/
def Target.callbacks : Target Router → List Callback
  | .handler h => h.callbacks
  | .mount m => m.child.callbacks

namespace Router

theorem callbacksOf_eq (routes : List Route) :
    callbacksOf routes = routes.flatMap (·.target.callbacks) := by
  induction routes with
  | nil => rfl
  | cons route others ih =>
    obtain ⟨template, _ | ⟨id, child⟩, shown⟩ := route
    · rw [callbacksOf, ih]; rfl
    · rw [callbacksOf, ih]; rfl

theorem callbacks_eq (router : Router) :
    router.callbacks = router.routes.flatMap (·.target.callbacks) := by
  obtain ⟨routes⟩ := router
  rw [callbacks, callbacksOf_eq, routes_ofRoutes]

theorem callbacks_add (router : Router) (route : Route) :
    (router.add route).callbacks = router.callbacks ++ route.target.callbacks := by
  rw [callbacks_eq, routes_add, List.flatMap_append, ← callbacks_eq, List.flatMap_singleton]

theorem mem_callbacks_of_mem_leaves {router : Router} {leaf : Entry Handler}
    (h : leaf ∈ router.leaves) {c : Callback} (hc : c ∈ leaf.target.callbacks) :
    c ∈ router.callbacks := by
  obtain ⟨⟨template, target, shown⟩, hroute, heq⟩ := List.mem_filterMap.mp h
  rw [callbacks_eq, List.mem_flatMap]
  cases target with
  | handler handler => cases heq; exact ⟨_, hroute, hc⟩
  | mount mount => cases heq

theorem mem_callbacks_of_mem_mounts {router : Router} {mount : Entry (Mount Router)}
    (h : mount ∈ router.mounts) {c : Callback} (hc : c ∈ mount.target.child.callbacks) :
    c ∈ router.callbacks := by
  obtain ⟨⟨template, target, shown⟩, hroute, heq⟩ := List.mem_filterMap.mp h
  rw [callbacks_eq, List.mem_flatMap]
  cases target with
  | handler handler => cases heq
  | mount mount => cases heq; exact ⟨_, hroute, hc⟩

/-- **A callback that is resolved to** belongs to the router, or to one below it. -/
theorem callbacks_of_resolution? : ∀ (router : Router) {segments : List String} {layers : Layers}
    {found : Resolution}, (router.trail segments).resolution? layers = some found →
    ∀ c ∈ found.handler.callbacks, c ∈ router.callbacks := by
  refine Router.induction fun router ih segments layers found h c hc => ?_
  rw [resolution?_trail] at h
  cases hleaf : router.leaves.find? (·.template.fits segments) with
  | some leaf =>
    rw [hleaf] at h
    obtain rfl := Option.some.inj h
    exact mem_callbacks_of_mem_leaves (List.mem_of_find?_eq_some hleaf) hc
  | none =>
    rw [hleaf, Option.map_none, Option.none_or, Option.bind_eq_some_iff] at h
    obtain ⟨mount, hmount, hchild⟩ := h
    have hmem := List.mem_of_find?_eq_some hmount
    exact mem_callbacks_of_mem_mounts hmem (ih mount hmem hchild c hc)

theorem callbacks_of_resolve {router : Router} {url : String} {extra : Parameters}
    {found : Resolution} (h : router.resolve url extra = .ok found) :
    ∀ c ∈ found.handler.callbacks, c ∈ router.callbacks := by
  rw [resolve] at h
  split at h
  · next inner hinner =>
    obtain rfl := Except.ok.inj h
    exact fun c hc => router.callbacks_of_resolution? hinner c hc
  · cases h

end Router

/-! ### The same but for callbacks -/

/-- **The same but for callbacks**: all is equal but the handlers, which are of one kind and are the
same just if they are views. -/
structure Resolution.SameButCallback (a b : Resolution) : Prop where
  params : a.params = b.params
  presentation : a.presentation = b.presentation
  template : a.template = b.template
  kind : a.handler.kind = b.handler.kind
  same_iff : (Target.handler a.handler : Target Router).same (.handler b.handler) = true ↔
    a.handler.kind = .view
  eq_iff : a = b ↔ a.handler.kind = .view

theorem Resolution.sameButCallback_of_forget_eq {a b : Resolution} (h : a.forget = b.forget)
    (hnew : ∀ c ∈ a.handler.callbacks, c ∉ b.handler.callbacks) : a.SameButCallback b := by
  obtain ⟨handler, params, presentation, template⟩ := a
  obtain ⟨other, params', presentation', template'⟩ := b
  obtain ⟨hhandler, rfl, rfl, rfl⟩ := Resolution.mk.inj h
  cases handler with
  | callback c =>
    cases other with
    | callback d =>
      have hne : c ≠ d := by simpa [Handler.callbacks] using hnew
      exact ⟨rfl, rfl, rfl, rfl, by simp [Target.same, Handler.kind, hne],
        by simp [Handler.kind, hne]⟩
    | view w => cases hhandler
  | view v =>
    cases other with
    | callback d => cases hhandler
    | view w =>
      obtain rfl : v = w := Handler.view.inj hhandler
      exact ⟨rfl, rfl, rfl, rfl, by simp [Target.same, Handler.kind], by simp [Handler.kind]⟩

/-- Two results that are one and the same error, or that are the same but for callbacks. -/
inductive Resolution.Recurs :
    Except RoutingError Resolution → Except RoutingError Resolution → Prop where
  | missed {error : RoutingError} : Recurs (.error error) (.error error)
  | found {a b : Resolution} (h : a.SameButCallback b) : Recurs (.ok a) (.ok b)

/-- **Two routers of one shape** without a common callback resolve alike, but for callbacks. -/
theorem Router.recurs_of_forget_eq {a b : Router} (h : a.forget = b.forget)
    (hnew : ∀ c ∈ a.callbacks, c ∉ b.callbacks) (url : String) (extra : Parameters) :
    Resolution.Recurs (a.resolve url extra) (b.resolve url extra) := by
  have heq : (a.resolve url extra).map Resolution.forget =
      (b.resolve url extra).map Resolution.forget := by
    rw [← resolve_forget, h, resolve_forget]
  cases ha : a.resolve url extra with
  | error error =>
    cases hb : b.resolve url extra with
    | error miss =>
      rw [ha, hb] at heq
      obtain rfl : error = miss := Except.error.inj heq
      exact .missed
    | ok found => rw [ha, hb] at heq; cases heq
  | ok found =>
    cases hb : b.resolve url extra with
    | error miss => rw [ha, hb] at heq; cases heq
    | ok again =>
      rw [ha, hb] at heq
      refine .found (Resolution.sameButCallback_of_forget_eq (Except.ok.inj heq) ?_)
      exact fun c hc hd => hnew c (callbacks_of_resolve ha c hc) (callbacks_of_resolve hb c hd)

end UrlRouting
