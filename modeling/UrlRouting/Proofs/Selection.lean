import Mathlib.Data.List.Forall2
import UrlRouting.Proofs.Layers
import UrlRouting.Proofs.Requests

/-! # Selection on segments

Resolving goes back and forth between paths and segments: what a mount leaves over is joined to a
path, and the mounted router splits that path anew. `Router.select` finds a route on lists of
segments alone, and never builds a text: it drops the empty segments in front of what is left over.

`resolve_eq_select`: a URL resolves to the route that is selected for its segments. The segments
that a router sees are regular, whatever is above it, and on regular segments the two ways to go on
in a mounted router agree. -/

namespace UrlRouting

open Url

/-! ### Fitting segment by segment -/

/-- There are as many parts as segments, and each part fits its segment. -/
abbrev Part.FitEach (parts : List Part) (segments : List String) : Prop :=
  List.Forall₂ (fun part segment => part.fits segment = true) parts segments

theorem Part.fitEach_iff {parts : List Part} {segments : List String} :
    FitEach parts segments ↔ parts.length = segments.length ∧ fitAll parts segments = true := by
  rw [FitEach, List.forall₂_iff_zip]
  simp [fitAll]

namespace Template

theorem fits_iff_fitEach {template : Template} {segments : List String} :
    template.fits segments = true ↔ Part.FitEach template.parts segments := by
  rw [fits_iff, Part.fitEach_iff, size, eq_comm]

theorem leads_iff_fitEach {template : Template} {segments : List String} :
    template.leads segments = true ↔ template.size < segments.length ∧
      Part.FitEach template.parts (segments.take template.size) := by
  rw [leads_iff, Part.fitEach_iff, size, Part.fitAll_take, List.length_take]
  constructor
  · rintro ⟨hlt, hfit⟩; exact ⟨hlt, by omega, hfit⟩
  · rintro ⟨hlt, -, hfit⟩; exact ⟨hlt, hfit⟩

theorem fitEach_of_fitsStart {template : Template} {segments : List String}
    (h : template.fitsStart segments = true) :
    Part.FitEach template.parts (segments.take template.size) := by
  rw [fitsStart, Bool.and_eq_true, decide_eq_true_iff] at h
  rw [Part.fitEach_iff, size, Part.fitAll_take, List.length_take]
  exact ⟨(Nat.min_eq_left h.1).symm, h.2⟩

end Template

/-- A leaf as an entry of its router. -/
def Entry.toRoute (leaf : Entry Handler) : Route :=
  ⟨leaf.template, .handler leaf.target, leaf.presentation⟩

namespace Router

/-! ### Selecting -/

mutual

/-- **The route of some segments.** The first entry with a handler that has as many parts as there
are segments and fits them one by one; if there is none, what the mounted routers have. -/
def select : Router → List String → Option Route
  | .ofRoutes routes, segments =>
    match routes.find? fun route =>
        !route.target.isMount && decide (Part.FitEach route.template.parts segments) with
    | some route => some route
    | none => selectBelow routes segments

/-- The route of some segments in the router of the first mount that has fewer parts than there are
segments and fits the first of them; that router gets the others, without the empty ones in front.
No other mount counts. -/
def selectBelow : List Route → List String → Option Route
  | [], _ => none
  | ⟨_, .handler _, _⟩ :: others, segments => selectBelow others segments
  | ⟨template, .mount ⟨_, child⟩, _⟩ :: others, segments =>
    if template.size < segments.length ∧
        Part.FitEach template.parts (segments.take template.size) then
      child.select ((segments.drop template.size).dropWhile (· == ""))
    else selectBelow others segments

end

theorem find?_routes (routes : List Route) (segments : List String) :
    (routes.find? fun route =>
        !route.target.isMount && decide (Part.FitEach route.template.parts segments)) =
      ((routes.filterMap Entry.leaf?).find? (·.template.fits segments)).map Entry.toRoute := by
  induction routes with
  | nil => rfl
  | cons route others ih =>
    obtain ⟨template, handler | mount, presentation⟩ := route
    · by_cases h : template.fits segments
      · simp [Target.isMount, h, Template.fits_iff_fitEach.mp h, Entry.toRoute]
      · rw [List.find?_cons_of_neg (by simp [Target.isMount, mt Template.fits_iff_fitEach.mpr h]), ih]
        simp [h]
    · rw [List.find?_cons_of_neg (by simp [Target.isMount]), ih, List.filterMap_cons]
      rfl

theorem selectBelow_eq (routes : List Route) (segments : List String) :
    selectBelow routes segments =
      ((routes.filterMap Entry.mount?).find? (·.template.leads segments)).bind fun mount =>
        mount.target.child.select ((segments.drop mount.template.size).dropWhile (· == "")) := by
  induction routes with
  | nil => rfl
  | cons route others ih =>
    obtain ⟨template, _ | ⟨id, child⟩, presentation⟩ := route
    · simpa [selectBelow] using ih
    · by_cases h : template.leads segments
      · simp [selectBelow, h, Template.leads_iff_fitEach.mp h]
      · simp [selectBelow, h, mt Template.leads_iff_fitEach.mpr h, ih]

/-- Selection, one router deep. -/
theorem select_eq (router : Router) (segments : List String) :
    router.select segments =
      ((router.leaves.find? (·.template.fits segments)).map Entry.toRoute).or
        ((router.mounts.find? (·.template.leads segments)).bind fun mount =>
          mount.target.child.select ((segments.drop mount.template.size).dropWhile (· == ""))) := by
  obtain ⟨routes⟩ := router
  rw [select, find?_routes, selectBelow_eq, leaves, mounts, routes_ofRoutes]
  cases (routes.filterMap Entry.leaf?).find? (·.template.fits segments) <;> rfl

/-- **Trails end where selection does**, on segments that a path can have. -/
theorem select_eq_leaf? : ∀ (router : Router) {segments : List String}, Path.Regular segments →
    router.select segments = (router.trail segments).leaf?.map Entry.toRoute := by
  refine Router.induction fun router ih segments hreg => ?_
  rw [trail_eq, select_eq]
  cases hleaf : router.leaves.find? (·.template.fits segments) with
  | some leaf => rfl
  | none =>
    cases hmount : router.mounts.find? (·.template.leads segments) with
    | none => rfl
    | some mount =>
      have hlead : mount.template.leads segments = true := by simpa using List.find?_some hmount
      -- The empty segments dropped in front are all that splitting the joined rest drops.
      have hrest := Template.split_rest hreg hlead
      have hreg' := Path.regular_split (mount.template.rest segments)
      rw [hrest] at hreg'
      simpa [Trail.leaf?, hrest] using ih mount (List.mem_of_find?_eq_some hmount) hreg'

/-- **A URL resolves to the route selected for its segments**, which is no mount; if there is none,
the URL is reported as it was given. -/
theorem resolve_eq_select (router : Router) (url : String) (extra : Parameters) :
    match router.select (Request.ofUrl url).segments with
    | some route => route.target.isMount = false ∧
        ∃ found, router.resolve url extra = .ok found ∧ .handler found.handler = route.target ∧
          found.presentation = route.presentation ∧ found.template = route.template
    | none => router.resolve url extra = .error (.unmatched url) := by
  rw [select_eq_leaf? router (Request.ofUrl url).regular_segments, Trail.leaf?_eq]
  cases hleaf : (router.trail (Request.ofUrl url).segments).landing? with
  | none => exact resolve_of_landing_eq_none extra hleaf
  | some leaf => exact ⟨rfl, _, resolve_of_landing extra hleaf, rfl, rfl, rfl⟩

end Router

end UrlRouting
