import UrlRouting.Proofs.Requests
import UrlRouting.Router.Trail

/-! # Delegations

A request goes from router to router by delegations: at each visit a mount is taken that fits the
first segments, and the mounted router gets what is left over. This module says what one delegation
does to the segments, and what that means for all of them together.

* `Delegation.IsDue`: when a visit is delegated through a mount.
* `Delegation.length_next_lt`, `Delegation.join_segments`: the mounted router has fewer segments to
  resolve, and its path stands at the end of that of the visit.
* `Visit.Reaches`: the delegations from a visit to a later one; `Reaches.invariant` is the induction
  on them, and `Reaches.length_add_le` counts them.
* `Router.reaches_trail`, `Router.find?_last_trail`: the delegations of a trail, and where it ends. -/

namespace UrlRouting

open Url

/-- A visit with a mount of its router. -/
structure Delegation where
  visit : Visit
  mount : Entry (Mount Router)

namespace Delegation

/-- The segments that the mount fits. -/
def consumed (delegation : Delegation) : List String :=
  delegation.visit.segments.take delegation.mount.template.size

/-- The path of those that it leaves over. -/
def rest (delegation : Delegation) : String :=
  delegation.mount.template.rest delegation.visit.segments

/-- The visit of the mounted router. -/
def next (delegation : Delegation) : Visit :=
  ⟨delegation.mount.target.child, Path.split delegation.rest⟩

/-- When a visit is delegated: no entry with a handler fits, and the mount is the first that leads
on. -/
structure IsDue (delegation : Delegation) : Prop where
  no_leaf : ∀ leaf ∈ delegation.visit.router.leaves,
    leaf.template.fits delegation.visit.segments = false
  first : delegation.visit.router.mounts.find? (·.template.leads delegation.visit.segments) =
    some delegation.mount

theorem IsDue.leads {delegation : Delegation} (h : delegation.IsDue) :
    delegation.mount.template.leads delegation.visit.segments = true := by
  simpa using List.find?_some h.first

theorem IsDue.size_lt {delegation : Delegation} (h : delegation.IsDue) :
    delegation.mount.template.size < delegation.visit.segments.length :=
  (Template.leads_iff.mp h.leads).1

/-! ### What one delegation does -/

section
variable {delegation : Delegation} (h : delegation.IsDue)
  (hreg : Path.Regular delegation.visit.segments)
include h hreg

/-- **The segments of the mounted router** are those left over, without the empty ones in front. -/
theorem segments_next : delegation.next.segments =
    (delegation.visit.segments.drop delegation.mount.template.size).dropWhile (· == "") :=
  Template.split_rest hreg h.leads

theorem segments_next_ne_root : delegation.next.segments ≠ [""] :=
  Template.split_rest_ne_root hreg h.leads

theorem length_next_lt : delegation.next.segments.length < delegation.visit.segments.length := by
  have hpos := delegation.mount.template.size_pos
  have hlt := h.size_lt
  have hdrop := (List.dropWhile_sublist (l := delegation.visit.segments.drop
    delegation.mount.template.size) (· == "")).length_le
  rw [List.length_drop] at hdrop
  rw [segments_next h hreg]
  omega

omit hreg in
/-- **The path of a visit** is that of the consumed segments, a slash, and the path left over. -/
theorem join_segments : Path.join delegation.visit.segments =
    Path.join delegation.consumed ++ "/" ++ delegation.rest := by
  have hpos := delegation.mount.template.size_pos
  have hlt := h.size_lt
  have hconsumed : delegation.consumed ≠ [] := by
    rw [consumed, ← List.length_pos_iff, List.length_take]
    omega
  have hrest : delegation.visit.segments.drop delegation.mount.template.size ≠ [] := by
    simpa using hlt
  rw [rest, Template.rest, ← Path.join_append hconsumed hrest, consumed, List.take_append_drop]

/-- **The path left over** ends as a segment that is not empty. -/
theorem exists_getLast?_rest : ∃ last ∈ delegation.visit.segments, last ≠ "" ∧
    delegation.rest.toList.getLast? = last.toList.getLast? := by
  have hlt := h.size_lt
  have hpos := delegation.mount.template.size_pos
  -- A visit that is delegated has two segments at least, so the last one is not empty.
  obtain ⟨-, hlast⟩ := hreg.ends_of_two (by omega)
  obtain ⟨front, last, hsegments⟩ : ∃ front last,
      delegation.visit.segments.drop delegation.mount.template.size = front ++ [last] :=
    ⟨_, _, (List.dropLast_concat_getLast (by simpa using hlt)).symm⟩
  have hne : last ≠ "" := by
    have hget := congrArg List.getLast? hsegments
    rw [List.getLast?_drop, if_neg (by omega), List.getLast?_concat] at hget
    rintro rfl
    exact hlast hget
  refine ⟨last, List.mem_of_mem_drop (by rw [hsegments]; simp), hne, ?_⟩
  rw [rest, Template.rest, hsegments, Path.getLast?_join front hne]

theorem rest_ne_empty : delegation.rest ≠ "" := by
  obtain ⟨last, -, hne, hget⟩ := exists_getLast?_rest h hreg
  intro hempty
  rw [hempty] at hget
  exact hne (by simpa using List.getLast?_eq_none_iff.mp hget.symm)

theorem getLast?_rest : delegation.rest.toList.getLast? ≠ some '/' := by
  obtain ⟨last, hmem, -, hget⟩ := exists_getLast?_rest h hreg
  rw [hget]
  exact fun hslash => hreg.noSlash last hmem (List.mem_of_getLast? hslash)

end

end Delegation

/-! ### What all delegations do -/

/-- The delegations from one visit to another, in order. -/
inductive Visit.Reaches : Visit → List Delegation → Visit → Prop where
  | here {visit : Visit} : Reaches visit [] visit
  | on {delegation : Delegation} {delegations : List Delegation} {last : Visit}
      (hdue : delegation.IsDue) (hrest : Reaches delegation.next delegations last) :
      Reaches delegation.visit (delegation :: delegations) last

namespace Visit.Reaches

variable {start last : Visit} {delegations : List Delegation}

/-- **What each delegation keeps, all of them keep**, and each of them is due. -/
theorem invariant {P : Visit → Prop} (h : Reaches start delegations last)
    (hstep : ∀ delegation : Delegation, delegation.IsDue → P delegation.visit → P delegation.next)
    (hstart : P start) :
    (∀ delegation ∈ delegations, delegation.IsDue ∧ P delegation.visit) ∧ P last := by
  induction h with
  | here => exact ⟨by simp, hstart⟩
  | @on delegation _ _ hdue _ ih =>
    obtain ⟨hall, hlast⟩ := ih (hstep delegation hdue hstart)
    exact ⟨List.forall_mem_cons.mpr ⟨⟨hdue, hstart⟩, hall⟩, hlast⟩

/-- **Every visit on the way has regular segments**, and its delegation is due. -/
theorem forall_isDue (h : Reaches start delegations last) (hreg : Path.Regular start.segments) :
    ∀ delegation ∈ delegations, delegation.IsDue ∧ Path.Regular delegation.visit.segments :=
  (h.invariant (P := (Path.Regular ·.segments)) (fun _ _ _ => Path.regular_split _) hreg).1

theorem regular_last (h : Reaches start delegations last) (hreg : Path.Regular start.segments) :
    Path.Regular last.segments :=
  (h.invariant (P := (Path.Regular ·.segments)) (fun _ _ _ => Path.regular_split _) hreg).2

/-- **Behind a delegation there is no root**: the last visit has it only if the first one has. -/
theorem last_ne_root (h : Reaches start delegations last) (hreg : Path.Regular start.segments)
    (hne : delegations ≠ [] ∨ start.segments ≠ [""]) : last.segments ≠ [""] := by
  induction h with
  | here => exact hne.resolve_left (by simp)
  | @on delegation _ _ hdue _ ih =>
    exact ih (Path.regular_split _) (Or.inr (delegation.segments_next_ne_root hdue hreg))

/-- **Each delegation costs a segment.** -/
theorem length_add_le (h : Reaches start delegations last) (hreg : Path.Regular start.segments) :
    delegations.length + last.segments.length ≤ start.segments.length := by
  induction h with
  | here => simp
  | @on delegation _ _ hdue _ ih =>
    have hlt := delegation.length_next_lt hdue hreg
    have hle := ih (Path.regular_split _)
    rw [List.length_cons]
    omega

theorem length_lt (h : Reaches start delegations last) (hreg : Path.Regular start.segments) :
    delegations.length < start.segments.length := by
  have hle := h.length_add_le hreg
  have hlast := List.length_pos_iff.mpr (h.regular_last hreg).ne_nil
  omega

end Visit.Reaches

/-! ### The delegations of a trail -/

namespace Trail

/-- The delegations of a trail, in order. -/
def delegations : Trail → List Delegation
  | .hit _ _ => []
  | .miss _ => []
  | .via visit mount rest => ⟨visit, mount⟩ :: rest.delegations

/-- The visit where a trail ends. -/
def last : Trail → Visit
  | .hit visit _ => visit
  | .miss visit => visit
  | .via _ _ rest => rest.last

end Trail

namespace Router

/-- **The delegations of a trail** go from the router itself to the visit where the trail ends. -/
theorem reaches_trail : ∀ (router : Router) (segments : List String),
    Visit.Reaches ⟨router, segments⟩ (router.trail segments).delegations
      (router.trail segments).last := by
  refine Router.induction fun router ih segments => ?_
  rw [trail_eq]
  cases hleaf : router.leaves.find? (·.template.fits segments) with
  | some leaf => exact .here
  | none =>
    cases hmount : router.mounts.find? (·.template.leads segments) with
    | none => exact .here
    | some mount =>
      have hdue : Delegation.IsDue ⟨⟨router, segments⟩, mount⟩ :=
        ⟨by simpa using hleaf, hmount⟩
      exact .on hdue (ih mount (List.mem_of_find?_eq_some hmount) _)

section
variable (router : Router) {segments : List String} (hreg : Path.Regular segments)
include hreg

theorem isDue_of_mem_delegations : ∀ delegation ∈ (router.trail segments).delegations,
    delegation.IsDue ∧ Path.Regular delegation.visit.segments :=
  (router.reaches_trail segments).forall_isDue hreg

theorem length_delegations_lt : (router.trail segments).delegations.length < segments.length :=
  (router.reaches_trail segments).length_lt hreg

end

/-- **Where a trail ends**, its leaf is the first that fits, and if none does, no mount leads on. -/
theorem find?_last_trail : ∀ (router : Router) (segments : List String),
    let trail := router.trail segments
    trail.last.router.leaves.find? (·.template.fits trail.last.segments) = trail.leaf? ∧
      (trail.leaf? = none →
        trail.last.router.mounts.find? (·.template.leads trail.last.segments) = none) := by
  refine Router.induction fun router ih segments => ?_
  rw [trail_eq]
  cases hleaf : router.leaves.find? (·.template.fits segments) with
  | some leaf => exact ⟨hleaf, fun h => by cases h⟩
  | none =>
    cases hmount : router.mounts.find? (·.template.leads segments) with
    | none => exact ⟨hleaf, fun _ => hmount⟩
    | some mount => exact ih mount (List.mem_of_find?_eq_some hmount) _

theorem fits_last_trail (router : Router) {segments : List String} {leaf : Entry Handler}
    (h : (router.trail segments).leaf? = some leaf) :
    leaf.template.fits (router.trail segments).last.segments = true := by
  have hfind := (router.find?_last_trail segments).1
  rw [h] at hfind
  have hfit := List.find?_some hfind
  exact hfit

end Router

end UrlRouting
