import UrlRouting.Proofs.Delegations

/-! # What routers are handed

A router joins the segments that a mount leaves over, and the mounted router splits them again,
with slashes trimmed at both ends. In a request this only ever drops empty segments in front: what a
router is handed has no empty segment at its end to lose, and a mount leaves at least one over.

* `Request.IsRoutable`: the segments that a router can be handed.
* `Delegation.Narrows`: what one delegation makes of the segments of a visit;
  `Delegation.isRoutable_next` is the step of the invariant, `Delegation.narrows` what it is for.
* `Visit.Reaches.map_visit_concat`: each visit is what the delegation before it hands down.
* `Router.segments_of_visits_trail`: all of this for the visits of a URL. -/

namespace UrlRouting

open Url

/-- The segments that a router can be handed: those of a path without `?` and `#`. -/
structure Request.IsRoutable (segments : List String) : Prop extends Path.Regular segments where
  markFree : ∀ segment ∈ segments, MarkFree segment

theorem Request.isRoutable_segments (url : String) : IsRoutable (ofUrl url).segments where
  toRegular := regular_segments _
  markFree _ := markFree_of_mem_segments

namespace Delegation

/-- **What a delegation does to the segments.** The consumed ones are there and leave some over; of
these, the mounted router is handed all but the empty ones in front, and that is less than its
parent was handed, and more than the root. -/
structure Narrows (delegation : Delegation) : Prop where
  size_le : delegation.mount.template.size ≤ delegation.visit.segments.length
  drop_ne_nil : delegation.visit.segments.drop delegation.mount.template.size ≠ []
  segments_next : delegation.next.segments =
    (delegation.visit.segments.drop delegation.mount.template.size).dropWhile (· == "")
  suffix : delegation.next.segments <:+ delegation.visit.segments
  ne : delegation.next.segments ≠ delegation.visit.segments
  ne_root : delegation.next.segments ≠ [""]

variable {delegation : Delegation}

theorem narrows (h : delegation.IsDue) (hreg : Path.Regular delegation.visit.segments) :
    delegation.Narrows where
  size_le := h.size_lt.le
  drop_ne_nil := by simpa using h.size_lt
  segments_next := segments_next h hreg
  suffix := Template.split_rest_suffix hreg h.leads
  ne := fun heq => (length_next_lt h hreg).ne (congrArg List.length heq)
  ne_root := segments_next_ne_root h hreg

/-- **A mounted router is handed what its parent could be handed.** -/
theorem isRoutable_next (h : delegation.IsDue)
    (hroutable : Request.IsRoutable delegation.visit.segments) :
    Request.IsRoutable delegation.next.segments where
  toRegular := Path.regular_split _
  markFree segment hm :=
    hroutable.markFree segment ((narrows h hroutable.toRegular).suffix.subset hm)

end Delegation

/-! ### The visits of a trail -/

/-- **Each visit is what the delegation before it hands down.** -/
theorem Visit.Reaches.map_visit_concat {start last : Visit} {delegations : List Delegation}
    (h : Reaches start delegations last) :
    delegations.map Delegation.visit ++ [last] = start :: delegations.map Delegation.next := by
  induction h with
  | here => rfl
  | on _ _ ih => rw [List.map_cons, List.cons_append, ih, List.map_cons]

theorem Trail.visits_eq (trail : Trail) :
    trail.visits = trail.delegations.map Delegation.visit ++ [trail.last] := by
  induction trail with
  | hit visit leaf => rfl
  | miss visit => rfl
  | via visit mount rest ih => rw [visits, ih, delegations, List.map_cons, last, List.cons_append]

namespace Router

/-- The visits of a trail are the router itself and what each delegation hands down. -/
theorem visits_trail (router : Router) (segments : List String) :
    (router.trail segments).visits =
      ⟨router, segments⟩ :: (router.trail segments).delegations.map Delegation.next :=
  (Trail.visits_eq _).trans (router.reaches_trail segments).map_visit_concat

section
variable (router : Router) {segments : List String} (hroutable : Request.IsRoutable segments)
include hroutable

theorem isRoutable_of_mem_delegations : ∀ delegation ∈ (router.trail segments).delegations,
    delegation.IsDue ∧ Request.IsRoutable delegation.visit.segments :=
  ((router.reaches_trail segments).invariant (P := (Request.IsRoutable ·.segments))
    (fun _ => Delegation.isRoutable_next) hroutable).1

theorem isRoutable_of_mem_visits :
    ∀ visit ∈ (router.trail segments).visits, Request.IsRoutable visit.segments := by
  rw [visits_trail, List.forall_mem_cons, List.forall_mem_map]
  refine ⟨hroutable, fun delegation hm => ?_⟩
  obtain ⟨hdue, hvisit⟩ := router.isRoutable_of_mem_delegations hroutable delegation hm
  exact delegation.isRoutable_next hdue hvisit

theorem narrows_of_mem_delegations :
    ∀ delegation ∈ (router.trail segments).delegations, delegation.Narrows := by
  intro delegation hm
  obtain ⟨hdue, hvisit⟩ := router.isRoutable_of_mem_delegations hroutable delegation hm
  exact delegation.narrows hdue hvisit.toRegular

end

/-- **What routers are handed for a URL.** The visits are the router itself with all segments, and
behind each delegation the mounted router with what is handed down to it. Every one of them is
handed segments without slashes and marks, either the root or without an empty one at either end,
and each delegation narrows them. So there are fewer delegations than segments. -/
theorem segments_of_visits_trail (router : Router) (url : String) :
    let segments := (Request.ofUrl url).segments
    let trail := router.trail segments
    trail.visits = ⟨router, segments⟩ :: trail.delegations.map Delegation.next ∧
    trail.visits = trail.delegations.map Delegation.visit ++ [trail.last] ∧
    (∀ visit ∈ trail.visits, Request.IsRoutable visit.segments) ∧
    (∀ delegation ∈ trail.delegations, delegation.Narrows) ∧
    trail.delegations.length < segments.length := by
  intro segments trail
  have hroutable : Request.IsRoutable segments := Request.isRoutable_segments url
  exact ⟨router.visits_trail segments, trail.visits_eq, router.isRoutable_of_mem_visits hroutable,
    router.narrows_of_mem_delegations hroutable, router.length_delegations_lt hroutable.toRegular⟩

/-- An empty segment in front of what a mount leaves over is dropped, one further back stays. -/
theorem segments_of_nested_teams :
    let team : Router := .ofRoutes [⟨.ofFormat ":id", .handler (.view ⟨"Team"⟩), {}⟩]
    let org : Router := .ofRoutes [⟨.ofFormat "teams", .mount ⟨0, team⟩, {}⟩]
    let router : Router := .ofRoutes [⟨.ofFormat "orgs/:org", .mount ⟨1, org⟩, {}⟩]
    let trail := router.trail (Request.ofUrl "/orgs/acme//teams/7//edit/?tab=a/b#top").segments
    trail.visits.map Visit.segments = [["orgs", "acme", "", "teams", "7", "", "edit"],
      ["teams", "7", "", "edit"], ["7", "", "edit"]] ∧
    (∃ delegation ∈ trail.delegations, delegation.Narrows) ∧
    (∀ visit ∈ trail.visits, Request.IsRoutable visit.segments) ∧
    trail.delegations.length = 2 ∧ trail.delegations.length < 7 := by
  intro team org router trail
  obtain ⟨-, -, hroutable, hnarrows, hlt⟩ :=
    router.segments_of_visits_trail "/orgs/acme//teams/7//edit/?tab=a/b#top"
  have hlength : trail.delegations.length = 2 := by decide +kernel
  obtain ⟨delegation, hmem⟩ := List.exists_mem_of_length_pos (l := trail.delegations) (by omega)
  exact ⟨by decide +kernel, ⟨delegation, hmem, hnarrows delegation hmem⟩, hroutable, hlength,
    hlt.trans_eq (by decide +kernel)⟩

end Router

end UrlRouting
