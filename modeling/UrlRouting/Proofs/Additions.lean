import Mathlib.Tactic.ByContra
import Mathlib.Tactic.SplitIfs
import UrlRouting.Router.Resolve

/-! # Entries added later

What is decided stays decided when entries are added to a router. Entries with handlers come before
mounts, though, whenever they were added, so that what an added one does to a URL depends on how far
the router gets without it.

* `Router.addAll`: a router with more entries at the end, added one after the other.
* `Router.Handles`, `Router.Delegates`: whether a router has an entry for some segments, with a
  handler or with a mount.
* `Router.resolution?_addAll`: which of the two, the router or the entries added, has the say.
* `Router.resolve_addAll`: what that comes to for a URL. -/

namespace UrlRouting.Router

/-- The router with more entries at the end. -/
def addAll (router : Router) (added : List Route) : Router := added.foldl add router

@[simp] theorem routes_addAll (router : Router) (added : List Route) :
    (router.addAll added).routes = router.routes ++ added := by
  induction added generalizing router with
  | nil => simp [addAll]
  | cons route added ih => simpa [addAll] using ih (router.add route)

theorem leaves_addAll (router : Router) (added : List Route) :
    (router.addAll added).leaves = router.leaves ++ (ofRoutes added).leaves := by
  simp [leaves]

theorem mounts_addAll (router : Router) (added : List Route) :
    (router.addAll added).mounts = router.mounts ++ (ofRoutes added).mounts := by
  simp [mounts]

/-! ### Who has the say -/

/-- Whether an entry with a handler fits the segments. -/
def Handles (router : Router) (segments : List String) : Prop :=
  ∃ leaf ∈ router.leaves, leaf.template.fits segments = true

/-- Whether a mount fits the first of the segments and leaves at least one over. -/
def Delegates (router : Router) (segments : List String) : Prop :=
  ∃ mount ∈ router.mounts, mount.template.leads segments = true

instance (router : Router) (segments : List String) : Decidable (router.Handles segments) :=
  inferInstanceAs (Decidable (∃ leaf ∈ router.leaves, _))

instance (router : Router) (segments : List String) : Decidable (router.Delegates segments) :=
  inferInstanceAs (Decidable (∃ mount ∈ router.mounts, _))

variable {router : Router} {segments : List String}

theorem handles_iff :
    router.Handles segments ↔
      ∃ leaf, router.leaves.find? (·.template.fits segments) = some leaf := by
  rw [← Option.isSome_iff_exists, List.find?_isSome, Handles]

theorem delegates_iff :
    router.Delegates segments ↔
      ∃ mount, router.mounts.find? (·.template.leads segments) = some mount := by
  rw [← Option.isSome_iff_exists, List.find?_isSome, Delegates]

theorem find?_leaves_of_not_handles (h : ¬ router.Handles segments) :
    router.leaves.find? (·.template.fits segments) = none := by
  rwa [handles_iff, ← Option.isSome_iff_exists, Option.not_isSome_iff_eq_none] at h

theorem find?_mounts_of_not_delegates (h : ¬ router.Delegates segments) :
    router.mounts.find? (·.template.leads segments) = none := by
  rwa [delegates_iff, ← Option.isSome_iff_exists, Option.not_isSome_iff_eq_none] at h

/-- Without an entry for the segments a router has no resolution. -/
theorem handles_or_delegates {layers : Layers} {found : Resolution}
    (h : (router.trail segments).resolution? layers = some found) :
    router.Handles segments ∨ router.Delegates segments := by
  by_contra hnone
  rw [not_or] at hnone
  rw [resolution?_trail, find?_leaves_of_not_handles hnone.1,
    find?_mounts_of_not_delegates hnone.2] at h
  cases h

/-- **Who has the say**, when entries are added to a router: its own entries with handlers, then the
added ones with handlers, then its own mounts, and then the added ones. -/
theorem resolution?_addAll (router : Router) (added : List Route) (segments : List String)
    (layers : Layers) :
    ((router.addAll added).trail segments).resolution? layers =
      if router.Handles segments then (router.trail segments).resolution? layers
      else if (ofRoutes added).Handles segments then
        ((ofRoutes added).trail segments).resolution? layers
      else if router.Delegates segments then (router.trail segments).resolution? layers
      else ((ofRoutes added).trail segments).resolution? layers := by
  rw [resolution?_trail (router.addAll added), resolution?_trail router,
    resolution?_trail (ofRoutes added), leaves_addAll, mounts_addAll, List.find?_append,
    List.find?_append]
  split_ifs with hown hadded hmount
  · obtain ⟨leaf, hleaf⟩ := handles_iff.mp hown
    rw [hleaf]
    rfl
  · obtain ⟨leaf, hleaf⟩ := handles_iff.mp hadded
    rw [find?_leaves_of_not_handles hown, hleaf]
    rfl
  · obtain ⟨mount, hmount⟩ := delegates_iff.mp hmount
    rw [find?_leaves_of_not_handles hown, find?_leaves_of_not_handles hadded, hmount]
    rfl
  · rw [find?_leaves_of_not_handles hown, find?_mounts_of_not_delegates hmount, Option.none_or,
      Option.none_or]

/-! ### URLs -/

/-- Who has the say on a URL. -/
theorem resolve_addAll_eq (router : Router) (added : List Route) (url : String)
    (extra : Parameters) :
    (router.addAll added).resolve url extra =
      if router.Handles (Request.ofUrl url).segments then router.resolve url extra
      else if (ofRoutes added).Handles (Request.ofUrl url).segments then
        (ofRoutes added).resolve url extra
      else if router.Delegates (Request.ofUrl url).segments then router.resolve url extra
      else (ofRoutes added).resolve url extra := by
  rw [resolve, resolution?_addAll]
  split_ifs <;> rfl

theorem resolve_of_find?_leaves {url : String} {leaf : Entry Handler} (extra : Parameters)
    (h : router.leaves.find? (·.template.fits (Request.ofUrl url).segments) = some leaf) :
    ∃ params, router.resolve url extra =
      .ok ⟨leaf.target, params, leaf.presentation, leaf.template⟩ := by
  rw [resolve, resolution?_trail, h]
  exact ⟨_, rfl⟩

theorem handles_or_delegates_of_resolve {url : String} {extra : Parameters} {found : Resolution}
    (h : router.resolve url extra = .ok found) :
    router.Handles (Request.ofUrl url).segments ∨
      router.Delegates (Request.ofUrl url).segments := by
  rw [resolve] at h
  split at h
  · next hfound => exact handles_or_delegates hfound
  · cases h

theorem not_handles_of_isMount {added : List Route}
    (h : ∀ route ∈ added, route.target.isMount = true) (segments : List String) :
    ¬ (ofRoutes added).Handles segments := by
  rintro ⟨leaf, hleaf, -⟩
  obtain ⟨⟨template, _ | _, shown⟩, hroute, heq⟩ := List.mem_filterMap.mp hleaf
  · cases h _ hroute
  · cases heq

/-- **Entries added later** do not change what is decided. If an entry of a router with a handler
fits a URL, the router resolves it as before. If only an added one does, the first of those gets it.
If none does, but a mount of the router leads on, the router resolves or misses it as before; else
the added entries resolve it by themselves. So added mounts never change what a URL resolves to, and
where a mount is committed to and misses, only an added entry with a handler makes a difference. -/
theorem resolve_addAll (router : Router) (added : List Route) (url : String)
    (extra : Parameters) :
    let segments := (Request.ofUrl url).segments
    let later := ofRoutes added
    let whole := router.addAll added
    (whole.resolve url extra =
      if router.Handles segments then router.resolve url extra
      else if later.Handles segments then later.resolve url extra
      else if router.Delegates segments then router.resolve url extra
      else later.resolve url extra) ∧
    (¬ router.Handles segments → ∀ leaf,
      later.leaves.find? (·.template.fits segments) = some leaf → ∃ params,
        whole.resolve url extra = .ok ⟨leaf.target, params, leaf.presentation, leaf.template⟩) ∧
    ((∀ route ∈ added, route.target.isMount = true) → ∀ found,
      router.resolve url extra = .ok found → whole.resolve url extra = .ok found) ∧
    (router.Delegates segments → ∀ miss found, router.resolve url extra = .error miss →
      whole.resolve url extra = .ok found → later.Handles segments) := by
  intro segments later whole
  have heq := resolve_addAll_eq router added url extra
  refine ⟨heq, fun hown leaf hleaf => ?_, fun hmounts found hfound => ?_,
    fun hdelegates miss found hmiss hfound => ?_⟩
  · rw [heq, if_neg hown, if_pos (handles_iff.mpr ⟨leaf, hleaf⟩)]
    exact resolve_of_find?_leaves extra hleaf
  · rw [heq, if_neg (not_handles_of_isMount hmounts segments)]
    by_cases hown : router.Handles segments
    · rw [if_pos hown, hfound]
    · rw [if_neg hown, if_pos ((handles_or_delegates_of_resolve hfound).resolve_left hown), hfound]
  · by_contra hlater
    rw [heq, if_neg hlater, if_pos hdelegates, ite_self, hmiss] at hfound
    cases hfound

/-- A miss below a mount is mended by an entry with a handler, but not by a further mount. -/
example :
    let view (name : String) : Target Router := .handler (.view ⟨name⟩)
    let teams : Router := .ofRoutes [⟨.ofFormat "teams", view "Teams", {}⟩]
    let users : Router := .ofRoutes [⟨.ofFormat ":id", view "User", {}⟩]
    let router : Router := .ofRoutes [⟨.ofFormat "admin", .mount ⟨0, teams⟩, {}⟩]
    let mount : Route := ⟨.ofFormat "admin", .mount ⟨1, users⟩, {}⟩
    let leaf : Route := ⟨.ofFormat ":kind/7", view "Seven", {}⟩
    ((router.addAll [mount]).resolve "admin/7" ∅).toOption = none ∧
    ((router.addAll [mount, leaf]).resolve "admin/7" ∅).toOption.map (·.handler) =
      some (.view ⟨"Seven"⟩) := by
  decide +kernel

end UrlRouting.Router
