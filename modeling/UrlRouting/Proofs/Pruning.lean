import UrlRouting.Proofs.Delegations
import UrlRouting.Proofs.Filling

/-! # Pruned routers

Some entries never get a request, wherever they stand: those with a parameter without a name or a
literal with a mark that ends a path, the mounts at the root of any router, and, as a mount always
leaves something over, all entries at the root of a mounted one.

* `Template.Live`: what a template must be for a request to get to it.
* `Router.prune`: the tree of routers without all the other entries.
* `Router.resolution?_prune`: the pruned tree resolves alike, by induction on the tree. The segments
  that a router gets are regular and without marks, and below the top never those of the root.
* `Router.resolve_prune`: the same for URLs. -/

namespace UrlRouting

open Url

/-! ### Live templates -/

namespace Template

/-- Whether a request can get to a template: its parameters have names, its literals have no marks,
and it is not that of the root, unless the root is at the top. -/
def Live (top : Bool) (template : Template) : Prop :=
  template.Named ∧ template.MarkFree ∧ (top = true ∨ ¬ Path.IsRoot template.format)

instance (top : Bool) (template : Template) : Decidable (template.Live top) :=
  inferInstanceAs (Decidable (_ ∧ _ ∧ (_ ∨ _)))

variable {template : Template} {segments : List String} (hreg : Path.Regular segments)
  (hmarks : ∀ segment ∈ segments, Request.MarkFree segment)
include hreg hmarks

/-- **A template that fits is live.** -/
theorem live_of_fitsStart {top : Bool} (htop : top = true ∨ segments ≠ [""])
    (h : template.fitsStart segments = true) : template.Live top := by
  obtain ⟨hnamed, hfree⟩ := named_and_markFree_of_fitEach (fitEach_of_fitsStart h)
    fun segment hm => hmarks segment (List.mem_of_mem_take hm)
  exact ⟨hnamed, hfree, htop.imp_right fun hne => not_isRoot_of_fitsStart hreg hne h⟩

theorem live_of_leads (h : template.leads segments = true) : template.Live false :=
  live_of_fitsStart hreg hmarks (Or.inr (ne_root_of_leads h)) (fitsStart_of_leads h)

end Template

/-! ### Pruning -/

namespace Router

mutual

/-- The router without the entries that no request gets to, and so for all routers below it. -/
def prune (top : Bool) : Router → Router
  | .ofRoutes routes => .ofRoutes (pruneRoutes top routes)

/-- The entries of a router without those that no request gets to. -/
def pruneRoutes (top : Bool) : List Route → List Route
  | [] => []
  | ⟨template, .handler handler, shown⟩ :: others =>
    if template.Live top then ⟨template, .handler handler, shown⟩ :: pruneRoutes top others
    else pruneRoutes top others
  | ⟨template, .mount ⟨id, child⟩, shown⟩ :: others =>
    if template.Live false then
      ⟨template, .mount ⟨id, child.prune false⟩, shown⟩ :: pruneRoutes top others
    else pruneRoutes top others

end

/-- A mount of the pruned router. -/
def pruneBelow (mount : Entry (Mount Router)) : Entry (Mount Router) :=
  { mount with target := ⟨mount.target.id, mount.target.child.prune false⟩ }

theorem leaves_prune (top : Bool) (router : Router) :
    (router.prune top).leaves = router.leaves.filter (·.template.Live top) := by
  obtain ⟨routes⟩ := router
  rw [prune, leaves, leaves, routes_ofRoutes, routes_ofRoutes]
  induction routes with
  | nil => rfl
  | cons route others ih =>
    obtain ⟨template, _ | ⟨id, child⟩, shown⟩ := route
    · by_cases h : template.Live top <;> simp [pruneRoutes, h, ih]
    · by_cases h : template.Live false <;> simp [pruneRoutes, List.filterMap_cons, h, ih]

theorem mounts_prune (top : Bool) (router : Router) :
    (router.prune top).mounts =
      (router.mounts.filter (·.template.Live false)).map pruneBelow := by
  obtain ⟨routes⟩ := router
  rw [prune, mounts, mounts, routes_ofRoutes, routes_ofRoutes]
  induction routes with
  | nil => rfl
  | cons route others ih =>
    obtain ⟨template, _ | ⟨id, child⟩, shown⟩ := route
    · by_cases h : template.Live top <;> simp [pruneRoutes, List.filterMap_cons, h, ih]
    · by_cases h : template.Live false <;> simp [pruneRoutes, h, ih, pruneBelow]

/-! ### Resolving in a pruned router -/

/-- Elements that never pass a test can be dropped from a search for the first that does. -/
theorem find?_filter_of_imp {α : Type} {keep test : α → Bool}
    (h : ∀ a, test a = true → keep a = true) (xs : List α) :
    (xs.filter keep).find? test = xs.find? test := by
  rw [List.find?_filter]
  congr 1
  funext a
  rw [Bool.eq_iff_iff, decide_eq_true_iff]
  exact and_iff_right_of_imp (h a)

section
variable (router : Router) {segments : List String} (hreg : Path.Regular segments)
  (hmarks : ∀ segment ∈ segments, Request.MarkFree segment)
include hreg hmarks

theorem find?_leaves_prune {top : Bool} (htop : top = true ∨ segments ≠ [""]) :
    (router.prune top).leaves.find? (·.template.fits segments) =
      router.leaves.find? (·.template.fits segments) := by
  rw [leaves_prune]
  refine find?_filter_of_imp (fun leaf h => decide_eq_true ?_) _
  exact Template.live_of_fitsStart hreg hmarks htop (Template.fitsStart_of_fits h)

theorem find?_mounts_prune (top : Bool) :
    (router.prune top).mounts.find? (·.template.leads segments) =
      (router.mounts.find? (·.template.leads segments)).map pruneBelow := by
  rw [mounts_prune, List.find?_map]
  refine congrArg (Option.map pruneBelow) (find?_filter_of_imp (fun mount h => ?_) _)
  exact decide_eq_true (Template.live_of_leads hreg hmarks h)

end

/-- **The pruned tree resolves alike**, on segments that a router can get. -/
theorem resolution?_prune : ∀ (router : Router) (top : Bool) {segments : List String},
    Path.Regular segments → (∀ segment ∈ segments, Request.MarkFree segment) →
    (top = true ∨ segments ≠ [""]) → ∀ layers : Layers,
    ((router.prune top).trail segments).resolution? layers =
      (router.trail segments).resolution? layers := by
  refine Router.induction fun router ih top segments hreg hmarks htop layers => ?_
  rw [resolution?_trail (router.prune top), resolution?_trail router,
    find?_leaves_prune router hreg hmarks htop, find?_mounts_prune router hreg hmarks]
  cases hmount : router.mounts.find? (·.template.leads segments) with
  | none => rfl
  | some mount =>
    have hlead : mount.template.leads segments = true := by simpa using List.find?_some hmount
    -- The segments that the mounted router gets are again regular, without marks, and not the root.
    have hsuffix := Template.split_rest_suffix hreg hlead
    have hchild := ih mount (List.mem_of_find?_eq_some hmount) false
      (Path.regular_split (mount.template.rest segments))
      (fun segment hm => hmarks segment (hsuffix.subset hm))
      (Or.inr (Template.split_rest_ne_root hreg hlead)) (layers.below mount segments)
    exact congrArg _ hchild

section
variable (router : Router) {segments : List String} (hreg : Path.Regular segments)
include hreg

/-- A mount at the root never gets a request. -/
theorem not_isRoot_of_mem_delegations :
    ∀ delegation ∈ (router.trail segments).delegations,
      ¬ Path.IsRoot delegation.mount.template.format := by
  intro delegation hm
  obtain ⟨hdue, hreg'⟩ := router.isDue_of_mem_delegations hreg delegation hm
  exact Template.not_isRoot_of_fitsStart hreg' (Template.ne_root_of_leads hdue.leads)
    (Template.fitsStart_of_leads hdue.leads)

/-- Behind a mount no entry at the root is found. -/
theorem not_isRoot_of_leaf? (hne : (router.trail segments).delegations ≠ [])
    {leaf : Entry Handler} (hleaf : (router.trail segments).leaf? = some leaf) :
    ¬ Path.IsRoot leaf.template.format := by
  have hreaches := router.reaches_trail segments
  exact Template.not_isRoot_of_fitsStart (hreaches.regular_last hreg)
    (hreaches.last_ne_root hreg (Or.inl hne))
    (Template.fitsStart_of_fits (router.fits_last_trail hleaf))

end

/-- **Entries that no request gets to can be dropped**, in a router and in all routers below it. A
mount at the root never gets a request, and behind a mount no entry at the root is found. -/
theorem resolve_prune (router : Router) (url : String) (extra : Parameters) :
    (router.prune true).resolve url extra = router.resolve url extra ∧
    let trail := router.trail (Request.ofUrl url).segments
    (∀ delegation ∈ trail.delegations, ¬ Path.IsRoot delegation.mount.template.format) ∧
      (trail.delegations ≠ [] → ∀ leaf, trail.leaf? = some leaf →
        ¬ Path.IsRoot leaf.template.format) := by
  have hreg := (Request.ofUrl url).regular_segments
  have hmarks : ∀ segment ∈ (Request.ofUrl url).segments, Request.MarkFree segment :=
    fun _ hm => Request.markFree_of_mem_segments hm
  refine ⟨?_, router.not_isRoot_of_mem_delegations hreg,
    fun hne leaf hleaf => router.not_isRoot_of_leaf? hreg hne hleaf⟩
  rw [resolve, resolution?_prune router true hreg hmarks (Or.inl rfl)]
  rfl

/-- The root stays at the top, and nowhere else. -/
example :
    let view (name : String) : Target Router := .handler (.view ⟨name⟩)
    let teams : Router := .ofRoutes [⟨.ofFormat "/", view "Teams", {}⟩,
      ⟨.ofFormat ":id", view "Team", {}⟩, ⟨.ofFormat ":id/:", view "Nobody", {}⟩]
    let router : Router := .ofRoutes [⟨.ofFormat "//", .mount ⟨0, teams⟩, {}⟩,
      ⟨.ofFormat "", view "Home", {}⟩, ⟨.ofFormat "help?", view "Help", {}⟩,
      ⟨.ofFormat "teams", .mount ⟨1, teams⟩, {}⟩]
    (router.prune true).routes.map (·.template.format) = ["", "teams"] ∧
    (router.prune true).mounts.map (·.target.child.routes.map (·.template.format)) =
      [[":id"]] := by
  decide

end Router

end UrlRouting
