import Mathlib.Data.List.Basic
import UrlRouting.Proofs.Delegations
import UrlRouting.Proofs.Layers

/-! # The log of a resolution

The log of a resolution tells what the resolution did, and nothing else: a block for each visit, with
the delegation to the next one at its end, and a last event with the result.

* `Delegation.events`, `Visit.Ends`: the block of a visit that is delegated, and that of the last
  one, which stops at the entry that is found there.
* `Trail.events_eq`: the events of a trail are those of its delegations, then those of its last visit.
* `Router.resolveEvents_eq_blocks`: the log of a URL, block by block, against the result. -/

namespace UrlRouting

open Url

/-! ### Blocks -/

/-- Whether an event tells of an entry that fits. -/
def Event.isHit : Event → Bool
  | .tried _ hit => hit
  | _ => false

/-- What the log tells of entries that do not fit. -/
def Event.misses (leaves : List (Entry Handler)) : List Event :=
  leaves.map fun leaf => .tried leaf.template.format false

/-- **What the log tells of a delegation**: all entries with handlers, none of which fits, and the
mount with the path left over. -/
def Delegation.events (delegation : Delegation) : List Event :=
  Event.misses delegation.visit.router.leaves ++
    [.delegated delegation.mount.template.format delegation.rest]

/-- **What the log tells of the last visit**, with the entry found there: the entries with handlers
up to the first that fits, or all of them if none does. -/
inductive Visit.Ends (visit : Visit) : List Event → Option (Entry Handler) → Prop where
  | hit {front back : List (Entry Handler)} {leaf : Entry Handler}
      (hleaves : visit.router.leaves = front ++ leaf :: back)
      (hfront : ∀ earlier ∈ front, earlier.template.fits visit.segments = false)
      (hfit : leaf.template.fits visit.segments = true) :
      Ends visit (Event.misses front ++ [.tried leaf.template.format true]) (some leaf)
  | miss (hleaves : ∀ leaf ∈ visit.router.leaves, leaf.template.fits visit.segments = false)
      (hmounts : ∀ mount ∈ visit.router.mounts, mount.template.leads visit.segments = false) :
      Ends visit (Event.misses visit.router.leaves) none

/-- The last event of the log of a URL. -/
def Event.ofResult (url : String) : Except RoutingError Resolution → Event
  | .ok found => .resolved url found.template.format found.handler.kind
  | .error _ => .unresolved url

/-! ### Attempts -/

namespace Visit

variable {visit : Visit}

theorem map_tried_of_misses {leaves : List (Entry Handler)}
    (h : ∀ leaf ∈ leaves, leaf.template.fits visit.segments = false) :
    leaves.map (fun leaf => .tried leaf.template.format (leaf.template.fits visit.segments)) =
      Event.misses leaves :=
  List.map_congr_left fun leaf hm => by rw [h leaf hm]

theorem attempts_of_misses
    (h : ∀ leaf ∈ visit.router.leaves, leaf.template.fits visit.segments = false) :
    visit.attempts = Event.misses visit.router.leaves := by
  have hfind : visit.router.leaves.find? (·.template.fits visit.segments) = none :=
    List.find?_eq_none.mpr fun leaf hm => by simp [h leaf hm]
  have htake : visit.router.leaves.takeWhile (fun leaf => !leaf.template.fits visit.segments) =
      visit.router.leaves :=
    List.takeWhile_eq_self_iff.mpr fun leaf hm => by simp [h leaf hm]
  rw [attempts, hfind, htake, Option.toList_none, List.append_nil, map_tried_of_misses h]

theorem attempts_of_append {front back : List (Entry Handler)} {leaf : Entry Handler}
    (hleaves : visit.router.leaves = front ++ leaf :: back)
    (hfront : ∀ earlier ∈ front, earlier.template.fits visit.segments = false)
    (hfit : leaf.template.fits visit.segments = true) :
    visit.attempts = Event.misses front ++ [.tried leaf.template.format true] := by
  have hfind : visit.router.leaves.find? (·.template.fits visit.segments) = some leaf :=
    List.find?_eq_some_iff_append.mpr
      ⟨hfit, front, back, hleaves, fun earlier hm => by simp [hfront earlier hm]⟩
  have htake : visit.router.leaves.takeWhile (fun leaf => !leaf.template.fits visit.segments) =
      front := by
    rw [hleaves, List.takeWhile_append_of_pos fun earlier hm => by simp [hfront earlier hm],
      List.takeWhile_cons_of_neg (by simp [hfit]), List.append_nil]
  rw [attempts, hfind, htake, List.map_append, map_tried_of_misses hfront]
  simp [hfit]

/-- **What the log tells of a visit that ends a resolution.** -/
theorem ends_attempts (visit : Visit)
    (hmounts : visit.router.leaves.find? (·.template.fits visit.segments) = none →
      visit.router.mounts.find? (·.template.leads visit.segments) = none) :
    visit.Ends visit.attempts
      (visit.router.leaves.find? (·.template.fits visit.segments)) := by
  cases hfind : visit.router.leaves.find? (·.template.fits visit.segments) with
  | some leaf =>
    obtain ⟨hfit, front, back, hleaves, hfront⟩ := List.find?_eq_some_iff_append.mp hfind
    have hfront' : ∀ earlier ∈ front, earlier.template.fits visit.segments = false :=
      fun earlier hm => by simpa using hfront earlier hm
    rw [attempts_of_append hleaves hfront' hfit]
    exact .hit hleaves hfront' hfit
  | none =>
    have hleaves : ∀ leaf ∈ visit.router.leaves, leaf.template.fits visit.segments = false := by
      simpa using hfind
    rw [attempts_of_misses hleaves]
    exact .miss hleaves (by simpa using hmounts hfind)

end Visit

/-! ### Hits -/

theorem Event.isHit_of_mem_misses {leaves : List (Entry Handler)} {event : Event}
    (h : event ∈ misses leaves) : event.isHit = false := by
  obtain ⟨leaf, -, rfl⟩ := List.mem_map.mp h
  rfl

theorem Event.isHit_ofResult (url : String) (result : Except RoutingError Resolution) :
    (ofResult url result).isHit = false := by
  cases result <;> rfl

theorem Delegation.isHit_of_mem_events {delegation : Delegation} {event : Event}
    (h : event ∈ delegation.events) : event.isHit = false := by
  rw [events, List.mem_append, List.mem_singleton] at h
  rcases h with h | rfl
  · exact Event.isHit_of_mem_misses h
  · rfl

/-- The block of the last visit has one hit if an entry is found there, and none otherwise. -/
theorem Visit.Ends.countP_isHit {visit : Visit} {block : List Event}
    {leaf? : Option (Entry Handler)} (h : visit.Ends block leaf?) :
    block.countP Event.isHit = leaf?.toList.length := by
  have hmisses (leaves : List (Entry Handler)) : (Event.misses leaves).countP Event.isHit = 0 :=
    List.countP_eq_zero.mpr fun event hm => by simp [Event.isHit_of_mem_misses hm]
  cases h with
  | hit _ _ _ => rw [List.countP_append, hmisses]; simp [Event.isHit]
  | miss _ _ => exact hmisses _

/-! ### The log of a URL -/

/-- The events of a trail, delegation by delegation. -/
theorem Trail.events_eq (trail : Trail) :
    trail.events = (trail.delegations.flatMap fun delegation =>
      delegation.visit.attempts ++
        [.delegated delegation.mount.template.format delegation.rest]) ++ trail.last.attempts := by
  induction trail with
  | hit visit leaf => rfl
  | miss visit => rfl
  | via visit mount rest ih =>
    rw [events, ih, delegations, List.flatMap_cons, last]
    simp [Delegation.rest]

namespace Router

theorem events_trail (router : Router) {segments : List String} (hreg : Path.Regular segments) :
    (router.trail segments).events =
      (router.trail segments).delegations.flatMap Delegation.events ++
        (router.trail segments).last.attempts := by
  have hdue := router.isDue_of_mem_delegations hreg
  -- At a visit that is delegated no entry fits, so that all of them are tried.
  have hblocks : ∀ delegation ∈ (router.trail segments).delegations,
      delegation.visit.attempts ++
        [.delegated delegation.mount.template.format delegation.rest] = delegation.events :=
    fun delegation hm => by rw [Visit.attempts_of_misses (hdue delegation hm).1.no_leaf]; rfl
  rw [Trail.events_eq, List.flatMap_congr hblocks]

theorem ends_trail (router : Router) (segments : List String) :
    (router.trail segments).last.Ends (router.trail segments).last.attempts
      (router.trail segments).leaf? := by
  obtain ⟨hleaf, hmount⟩ := router.find?_last_trail segments
  rw [← hleaf] at hmount ⊢
  exact Visit.ends_attempts _ hmount

/-- What is found at the end of a trail, and what the URL resolves to, if anything. -/
inductive Finds (url : String) : Option (Entry Handler) → Except RoutingError Resolution → Prop where
  | found {leaf : Entry Handler} {params : Parameters} :
      Finds url (some leaf) (.ok ⟨leaf.target, params, leaf.presentation, leaf.template⟩)
  | missed : Finds url none (.error (.unmatched url))

theorem Finds.length_pos_iff {url : String} {leaf? : Option (Entry Handler)}
    {result : Except RoutingError Resolution} (h : Finds url leaf? result) :
    0 < leaf?.toList.length ↔ ∃ found, result = .ok found := by
  cases h with
  | found => simp
  | missed => simp

theorem finds_resolve (router : Router) (url : String) (extra : Parameters) :
    Finds url (router.trail (Request.ofUrl url).segments).leaf? (router.resolve url extra) := by
  rw [Trail.leaf?_eq]
  cases hleaf : (router.trail (Request.ofUrl url).segments).landing? with
  | none => rw [resolve_of_landing_eq_none extra hleaf]; exact .missed
  | some leaf => rw [resolve_of_landing extra hleaf]; exact .found

/-- The last event of the log tells of the result. -/
theorem resolveEvents_eq (router : Router) (url : String) (extra : Parameters) :
    router.resolveEvents url = (router.trail (Request.ofUrl url).segments).events ++
      [.ofResult url (router.resolve url extra)] := by
  have hfinds := router.finds_resolve url extra
  rw [resolveEvents]
  generalize (router.trail (Request.ofUrl url).segments).leaf? = leaf? at hfinds ⊢
  generalize router.resolve url extra = result at hfinds ⊢
  cases hfinds <;> rfl

theorem resolveEvents_eq_append (router : Router) (url : String) (extra : Parameters) :
    router.resolveEvents url =
      (router.trail (Request.ofUrl url).segments).delegations.flatMap Delegation.events ++
        (router.trail (Request.ofUrl url).segments).last.attempts ++
        [.ofResult url (router.resolve url extra)] := by
  rw [resolveEvents_eq router url extra, events_trail router (Request.ofUrl url).regular_segments]

theorem countP_isHit_resolveEvents (router : Router) (url : String) :
    (router.resolveEvents url).countP Event.isHit =
      (router.trail (Request.ofUrl url).segments).leaf?.toList.length := by
  have hdelegated : ((router.trail (Request.ofUrl url).segments).delegations.flatMap
      Delegation.events).countP Event.isHit = 0 := by
    refine List.countP_eq_zero.mpr fun event hm => ?_
    obtain ⟨delegation, -, hevent⟩ := List.mem_flatMap.mp hm
    simp [Delegation.isHit_of_mem_events hevent]
  rw [resolveEvents_eq_append router url ∅, List.countP_append, List.countP_append, hdelegated,
    (router.ends_trail _).countP_isHit]
  simp [Event.isHit_ofResult]

/-- A hit in the log is the same as a result. -/
theorem exists_isHit_iff (router : Router) (url : String) (extra : Parameters) :
    (∃ event ∈ router.resolveEvents url, event.isHit = true) ↔
      ∃ found, router.resolve url extra = .ok found := by
  rw [← List.countP_pos_iff, countP_isHit_resolveEvents]
  exact (router.finds_resolve url extra).length_pos_iff

/-- **The log of a URL** tells what the resolution did. It has a block for each delegation, from the
router itself to the last one visited, a block for that one, and a last event for the result. The
path told of a delegation is not empty, does not end in a slash, and makes the path of the visit
behind the consumed segments and a slash. There is one hit, of the entry that the result comes from,
or there is none and no result; and there are fewer delegations than segments. -/
theorem resolveEvents_eq_blocks (router : Router) (url : String) (extra : Parameters) :
    (∃ delegations last block leaf?,
      Visit.Reaches ⟨router, (Request.ofUrl url).segments⟩ delegations last ∧
      last.Ends block leaf? ∧ Finds url leaf? (router.resolve url extra) ∧
      router.resolveEvents url = delegations.flatMap Delegation.events ++ block ++
        [.ofResult url (router.resolve url extra)] ∧
      (∀ delegation ∈ delegations,
        delegation.rest ≠ "" ∧ delegation.rest.toList.getLast? ≠ some '/' ∧
        Path.join delegation.visit.segments =
          Path.join delegation.consumed ++ "/" ++ delegation.rest) ∧
      delegations.length < (Request.ofUrl url).segments.length) ∧
    (router.resolveEvents url).countP Event.isHit ≤ 1 ∧
    ((∃ event ∈ router.resolveEvents url, event.isHit = true) ↔
      ∃ found, router.resolve url extra = .ok found) := by
  have hreg := (Request.ofUrl url).regular_segments
  refine ⟨⟨_, _, _, _, router.reaches_trail _, router.ends_trail _, router.finds_resolve url extra,
    router.resolveEvents_eq_append url extra, fun delegation hm => ?_,
    router.length_delegations_lt hreg⟩, ?_, router.exists_isHit_iff url extra⟩
  · obtain ⟨hdue, hreg'⟩ := router.isDue_of_mem_delegations hreg delegation hm
    exact ⟨delegation.rest_ne_empty hdue hreg', delegation.getLast?_rest hdue hreg',
      delegation.join_segments hdue⟩
  · rw [countP_isHit_resolveEvents]
    exact Option.length_toList_le

/-- A log with one delegation: the slash in front of the path left over is told, though the mounted
router does not see it. -/
example :
    let view (name : String) : Target Router := .handler (.view ⟨name⟩)
    let users : Router := .ofRoutes [⟨.ofFormat "new", view "NewUser", {}⟩,
      ⟨.ofFormat ":id", view "User", {}⟩, ⟨.ofFormat ":name", view "Unseen", {}⟩]
    let router : Router := .ofRoutes [⟨.ofFormat "admin", .mount ⟨0, users⟩, {}⟩,
      ⟨.ofFormat "users", view "Users", {}⟩]
    router.resolveEvents "admin//7/?tab=all" =
      [.tried "users" false, .delegated "admin" "/7", .tried "new" false, .tried ":id" true,
        .resolved "admin//7/?tab=all" ":id" .view] := by
  decide +kernel

end Router

end UrlRouting
