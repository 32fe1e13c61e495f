import UrlRouting.Router

/-! # Trails

A trail is what resolving the segments of a request in a router goes through: the routers visited,
each with the segments it had to resolve, the mounts taken from each to the next, and the leaf found
at the end, if one is.

A router first looks for a leaf that fits all segments. Failing that, it commits to the first mount
that fits the first segments and leaves at least one over, and the mounted router resolves the path
that the remaining segments make, read anew, so that slashes in front of it are dropped. A miss in a
mounted router is a miss: no other mount is tried.

* `Router.trail`: the trail of some segments; `Router.trail_eq` unfolds it one router deep.
* `Trail.leaf?`: the leaf at the end.
* `Trail.events`: what the log tells of it. -/

namespace UrlRouting

open Url

/-- A router with the segments that it has to resolve. -/
structure Visit where
  router : Router
  segments : List String

/-- What resolving some segments goes through. -/
inductive Trail where
  /-- the leaf fits the segments -/
  | hit (visit : Visit) (leaf : Entry Handler)
  /-- neither a leaf nor a mount fits -/
  | miss (visit : Visit)
  /-- the mounted router resolves what is left -/
  | via (visit : Visit) (mount : Entry (Mount Router)) (rest : Trail)

namespace Router

mutual

/-- The trail of some segments in a router. -/
def trail : Router → List String → Trail
  | .ofRoutes routes, segments =>
    match (ofRoutes routes).leaves.find? (·.template.fits segments) with
    | some leaf => .hit ⟨.ofRoutes routes, segments⟩ leaf
    | none => trailMounts routes ⟨.ofRoutes routes, segments⟩

/-- The trail of a visit through the first of the given entries that leads on. -/
def trailMounts : List Route → Visit → Trail
  | [], visit => .miss visit
  | ⟨_, .handler _, _⟩ :: others, visit => trailMounts others visit
  | ⟨template, .mount ⟨id, child⟩, presentation⟩ :: others, visit =>
    if template.leads visit.segments then
      .via visit ⟨template, ⟨id, child⟩, presentation⟩
        (child.trail (Path.split (template.rest visit.segments)))
    else trailMounts others visit

end

theorem trailMounts_eq (routes : List Route) (visit : Visit) :
    trailMounts routes visit =
      match (routes.filterMap Entry.mount?).find? (·.template.leads visit.segments) with
      | some mount => .via visit mount
          (mount.target.child.trail (Path.split (mount.template.rest visit.segments)))
      | none => .miss visit := by
  induction routes with
  | nil => rfl
  | cons route others ih =>
    obtain ⟨template, _ | ⟨id, child⟩, presentation⟩ := route
    · simpa [trailMounts, Entry.mount?] using ih
    · by_cases h : template.leads visit.segments <;> simp [trailMounts, Entry.mount?, h, ih]

/-- A router takes its first leaf that fits, else its first mount that leads on. -/
theorem trail_eq (router : Router) (segments : List String) :
    router.trail segments =
      match router.leaves.find? (·.template.fits segments) with
      | some leaf => .hit ⟨router, segments⟩ leaf
      | none =>
        match router.mounts.find? (·.template.leads segments) with
        | some mount => .via ⟨router, segments⟩ mount
            (mount.target.child.trail (Path.split (mount.template.rest segments)))
        | none => .miss ⟨router, segments⟩ := by
  obtain ⟨routes⟩ := router
  rw [trail, trailMounts_eq]
  rfl

end Router

/-! ### Reading a trail -/

/-- What the log tells of the leaves of a visited router: each of them in order, up to the first
that fits. -/
def Visit.attempts (visit : Visit) : List Event :=
  let fits (leaf : Entry Handler) := leaf.template.fits visit.segments
  let leaves := visit.router.leaves
  (leaves.takeWhile (!fits ·) ++ (leaves.find? fits).toList).map fun leaf =>
    .tried leaf.template.format (fits leaf)

namespace Trail

/-- The leaf at the end of the trail. -/
def leaf? : Trail → Option (Entry Handler)
  | .hit _ leaf => some leaf
  | .miss _ => none
  | .via _ _ rest => rest.leaf?

/-- The visits, the outermost first. -/
def visits : Trail → List Visit
  | .hit visit _ => [visit]
  | .miss visit => [visit]
  | .via visit _ rest => visit :: rest.visits

/-- What the log tells of the trail. -/
def events : Trail → List Event
  | .hit visit _ => visit.attempts
  | .miss visit => visit.attempts
  | .via visit mount rest =>
    visit.attempts ++
      .delegated mount.template.format (mount.template.rest visit.segments) :: rest.events

end Trail

end UrlRouting
