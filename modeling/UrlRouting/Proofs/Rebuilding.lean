import Mathlib.Tactic.SplitIfs
import UrlRouting.Proofs.Identities
import UrlRouting.Workspace

/-! # Rebuilt routers

A router that is built twice by the same calls comes out with other callbacks and other mounts, and
is the same otherwise.

* `Workspace.router_registerAll_of_not_fills`: calls that add to other routers leave a router as it
  is.
* `Workspace.Alike.registerAll`: two runs of the same calls make routers of one shape.
* `Workspace.MadeAll.registerAll`: a run puts no callback into a workspace that was not made in it.
* `Workspace.resolve_rebuilt`: what a router resolves to, before and after it is built anew. -/

namespace UrlRouting

/-! ### Filling a workspace -/

/-- Whether a call adds to the router of a name. -/
def Registration.Fills (call : Registration) (name : String) : Prop :=
  match call with
  | .add other _ _ _ => other = name
  | .keep _ _ => False

namespace Workspace

/-- A workspace without routers. It may have given out identities before. -/
structure IsBlank (workspace : Workspace) : Prop where
  routers : workspace.routers = ∅
  handles : workspace.handles = ∅
  shared : workspace.shared = ∅

/-- A call that does not add to the router of a name leaves it as it is. -/
theorem router_register_of_not_fills {workspace : Workspace} {call : Registration} {name : String}
    (h : ¬ call.Fills name) : (workspace.register call).router name = workspace.router name := by
  cases call with
  | keep other handle => rfl
  | add other format aim shown =>
    have hframe := workspace.router_target? aim name
    rw [register]
    split
    · next target after hafter =>
      rw [hafter] at hframe
      have hother : ¬ other = name := h
      rw [router_add, if_neg hother, hframe]
    · next after hafter =>
      rw [hafter] at hframe
      exact hframe

theorem router_registerAll_of_not_fills {workspace : Workspace} {calls : List Registration}
    {name : String} (h : ∀ call ∈ calls, ¬ call.Fills name) :
    (workspace.registerAll calls).router name = workspace.router name := by
  induction calls generalizing workspace with
  | nil => rfl
  | cons call calls ih =>
    rw [List.forall_mem_cons] at h
    exact (ih h.2).trans (router_register_of_not_fills h.1)

/-! ### What two runs have in common -/

/-- Workspaces whose routers and mounts differ in identities alone. -/
structure Alike (v w : Workspace) : Prop where
  routers : ∀ name, (v.router name).forget = (w.router name).forget
  handles : ∀ handle, (v.handle? handle).map Mount.forget = (w.handle? handle).map Mount.forget

section
variable {v w : Workspace} (h : Alike v w)
include h

theorem Alike.map_forget_target? (aim : Aim) :
    (v.target? aim).1.map Target.forget = (w.target? aim).1.map Target.forget := by
  cases aim with
  | view view => rfl
  | newCallback label => rfl
  | sharedCallback label => rfl
  | newMount name =>
    have hrouter := h.routers name
    simp only [target?, newMount, Option.map_some, Target.forget, Mount.forget, hrouter]
  | keptMount handle =>
    have hmount : Target.forget ∘ Target.mount = Target.mount ∘ Mount.forget := rfl
    simp only [target?, Option.map_map, hmount]
    rw [← Option.map_map, h.handles handle, Option.map_map]

theorem Alike.target? (aim : Aim) : Alike (v.target? aim).2 (w.target? aim).2 where
  routers name := by rw [router_target?, router_target?, h.routers name]
  handles handle := by rw [handle?_target?, handle?_target?, h.handles handle]

theorem Alike.add (name format : String) {s t : Target Router} (hst : s.forget = t.forget)
    (shown : Presentation) :
    Alike (v.add name ⟨.ofFormat format, s, shown⟩) (w.add name ⟨.ofFormat format, t, shown⟩) where
  routers other := by
    rw [router_add, router_add]
    split_ifs
    · rw [Router.forget_add, Router.forget_add, h.routers name]
      simp only [Entry.mapTarget, hst]
    · exact h.routers other
  handles := h.handles

theorem Alike.freeze (name handle : String) :
    Alike (v.freeze name handle) (w.freeze name handle) where
  routers := h.routers
  handles other := by
    rw [handle?_freeze, handle?_freeze]
    split_ifs
    · simp only [Option.map_some, Mount.forget, h.routers name]
    · exact h.handles other

/-- What one call preserves. -/
theorem Alike.register (call : Registration) : Alike (v.register call) (w.register call) := by
  cases call with
  | keep name handle => exact h.freeze name handle
  | add name format aim shown =>
    have hafter := h.target? aim
    have htarget := h.map_forget_target? aim
    rw [Workspace.register, Workspace.register]
    rcases hv : v.target? aim with ⟨s, v'⟩
    rcases hw : w.target? aim with ⟨t, w'⟩
    rw [hv, hw] at hafter htarget
    cases s with
    | none =>
      cases t with
      | none => exact hafter
      | some t => cases htarget
    | some s =>
      cases t with
      | none => cases htarget
      | some t => exact hafter.add name format (Option.some.inj htarget) shown

/-- **Two runs of the same calls** make routers that differ in identities alone. -/
theorem Alike.registerAll (calls : List Registration) :
    Alike (v.registerAll calls) (w.registerAll calls) := by
  induction calls generalizing v w with
  | nil => exact h
  | cons call calls ih => exact ih (h.register call)

end

/-! ### Which callbacks are new -/

/-- Whether a callback was made by a workspace, not counting the first `low` of them. -/
def Made (workspace : Workspace) (low : Nat) (c : Callback) : Prop :=
  low ≤ c.id ∧ c.id < workspace.labels.size

/-- The callbacks in a workspace were made by it, and none of them is among the first `low`. -/
structure MadeAll (workspace : Workspace) (low : Nat) : Prop where
  low_le : low ≤ workspace.labels.size
  routers : ∀ name, ∀ c ∈ (workspace.router name).callbacks, workspace.Made low c
  handles : ∀ handle mount, workspace.handle? handle = some mount →
    ∀ c ∈ mount.child.callbacks, workspace.Made low c
  shared : ∀ (label : String) (c : Callback),
    workspace.shared[label]? = some c → workspace.Made low c

section
variable {workspace : Workspace} {low : Nat} (h : workspace.MadeAll low)
include h

theorem MadeAll.newCallback (label : String) : (workspace.newCallback label).2.MadeAll low := by
  have hmade : ∀ c, workspace.Made low c → (workspace.newCallback label).2.Made low c :=
    fun c hc => ⟨hc.1, by simpa [Workspace.newCallback] using Nat.lt_succ_of_lt hc.2⟩
  exact
    { low_le := by simpa [Workspace.newCallback] using Nat.le_succ_of_le h.low_le
      routers := fun name c hc => hmade c (h.routers name c hc)
      handles := fun handle mount hmount c hc => hmade c (h.handles handle mount hmount c hc)
      shared := fun label c hc => hmade c (h.shared label c hc) }

theorem MadeAll.made_newCallback (label : String) :
    (workspace.newCallback label).2.Made low (workspace.newCallback label).1 :=
  ⟨h.low_le, by simp [Workspace.newCallback]⟩

theorem MadeAll.sharedCallback (label : String) :
    (workspace.sharedCallback label).2.MadeAll low ∧
      (workspace.sharedCallback label).2.Made low (workspace.sharedCallback label).1 := by
  rw [Workspace.sharedCallback]
  split
  · next callback hcallback => exact ⟨h, h.shared label callback hcallback⟩
  · have hnew := h.newCallback label
    have hmade := h.made_newCallback label
    refine ⟨⟨hnew.low_le, hnew.routers, hnew.handles, fun other c hc => ?_⟩, hmade⟩
    rw [Std.ExtTreeMap.getElem?_insert] at hc
    split at hc
    · obtain rfl := Option.some.inj hc
      exact hmade
    · exact hnew.shared other c hc

theorem MadeAll.target? (aim : Aim) :
    (workspace.target? aim).2.MadeAll low ∧
      ∀ target, (workspace.target? aim).1 = some target →
        ∀ c ∈ target.callbacks, (workspace.target? aim).2.Made low c := by
  cases aim with
  | view v =>
    refine ⟨h, fun target htarget c hc => ?_⟩
    obtain rfl := Option.some.inj htarget
    exact absurd hc List.not_mem_nil
  | newCallback label =>
    refine ⟨h.newCallback label, fun target htarget c hc => ?_⟩
    obtain rfl := Option.some.inj htarget
    obtain rfl := List.mem_singleton.mp hc
    exact h.made_newCallback label
  | sharedCallback label =>
    refine ⟨(h.sharedCallback label).1, fun target htarget c hc => ?_⟩
    obtain rfl := Option.some.inj htarget
    obtain rfl := List.mem_singleton.mp hc
    exact (h.sharedCallback label).2
  | newMount name =>
    refine ⟨⟨h.low_le, h.routers, h.handles, h.shared⟩, fun target htarget c hc => ?_⟩
    obtain rfl := Option.some.inj htarget
    exact h.routers name c hc
  | keptMount handle =>
    refine ⟨h, fun target htarget c hc => ?_⟩
    obtain ⟨mount, hmount, rfl⟩ := Option.map_eq_some_iff.mp htarget
    exact h.handles handle mount hmount c hc

theorem MadeAll.add (name : String) {route : Route}
    (hroute : ∀ c ∈ route.target.callbacks, workspace.Made low c) :
    (workspace.add name route).MadeAll low where
  low_le := h.low_le
  routers other c hc := by
    rw [router_add] at hc
    split_ifs at hc with hother
    · rw [Router.callbacks_add, List.mem_append] at hc
      exact hc.elim (h.routers name c) (hroute c)
    · exact h.routers other c hc
  handles := h.handles
  shared := h.shared

theorem MadeAll.freeze (name handle : String) : (workspace.freeze name handle).MadeAll low where
  low_le := h.low_le
  routers := h.routers
  handles other mount hmount c hc := by
    rw [handle?_freeze] at hmount
    split_ifs at hmount with hother
    · obtain rfl := Option.some.inj hmount
      exact h.routers name c hc
    · exact h.handles other mount hmount c hc
  shared := h.shared

/-- What one call preserves. -/
theorem MadeAll.register (call : Registration) : (workspace.register call).MadeAll low := by
  cases call with
  | keep name handle => exact h.freeze name handle
  | add name format aim shown =>
    obtain ⟨hafter, htarget⟩ := h.target? aim
    rw [Workspace.register]
    rcases hmade : workspace.target? aim with ⟨_ | target, after⟩
    · rw [hmade] at hafter
      exact hafter
    · rw [hmade] at hafter htarget
      exact hafter.add name (htarget target rfl)

/-- **A run of calls** puts no callback into a workspace that was not made in it. -/
theorem MadeAll.registerAll (calls : List Registration) :
    (workspace.registerAll calls).MadeAll low := by
  induction calls generalizing workspace with
  | nil => exact h
  | cons call calls ih => exact ih (h.register call)

end

/-! ### Two runs from the start -/

section
variable {v w : Workspace}

theorem IsBlank.router_eq (hv : v.IsBlank) (name : String) : v.router name = .empty := by
  rw [Workspace.router, hv.routers, Std.ExtTreeMap.getD_empty]

theorem IsBlank.handle?_eq (hv : v.IsBlank) (handle : String) : v.handle? handle = none := by
  rw [handle?, hv.handles, Std.ExtTreeMap.getElem?_empty]

theorem IsBlank.alike (hv : v.IsBlank) (hw : w.IsBlank) : Alike v w where
  routers name := by rw [hv.router_eq, hw.router_eq]
  handles handle := by rw [hv.handle?_eq, hw.handle?_eq]

theorem IsBlank.madeAll (hv : v.IsBlank) : v.MadeAll v.labels.size where
  low_le := Nat.le_refl _
  routers name c hc := by rw [hv.router_eq] at hc; cases hc
  handles handle mount hmount := by rw [hv.handle?_eq] at hmount; cases hmount
  shared label c hc := by rw [hv.shared, Std.ExtTreeMap.getElem?_empty] at hc; cases hc

/-- **A router built anew.** The same calls, made in two workspaces without routers, the second of
which numbers its callbacks from where the first one ended, make routers that resolve each URL
alike: both miss with the same error, or both hit with all the same but the callbacks, which differ.
A copy of a router resolves each URL to the very same, callbacks among it, also after further calls
that do not add to the copy. -/
theorem resolve_rebuilt (hv : v.IsBlank) (hw : w.IsBlank) (calls : List Registration)
    (hnew : (v.registerAll calls).labels.size ≤ w.labels.size) (name url : String)
    (extra : Parameters) :
    Resolution.Recurs (((v.registerAll calls).router name).resolve url extra)
      (((w.registerAll calls).router name).resolve url extra) ∧
    ∀ (workspace : Workspace) (copy : String) (later : List Registration),
      (∀ call ∈ later, ¬ call.Fills copy) →
      (((workspace.clone name copy).registerAll later).router copy).resolve url extra =
        (workspace.router name).resolve url extra := by
  constructor
  · have hshape := ((hv.alike hw).registerAll calls).routers name
    have hfirst := (hv.madeAll.registerAll calls).routers name
    have hsecond := (hw.madeAll.registerAll calls).routers name
    refine Router.recurs_of_forget_eq hshape (fun c hc hc' => ?_) url extra
    have hlt := (hfirst c hc).2
    have hle := (hsecond c hc').1
    omega
  · intro workspace copy later hlater
    rw [router_registerAll_of_not_fills hlater, clone, router_setRouter, if_pos rfl]

/-- A callback behind a mount, shared by two entries, and a view, built twice. -/
theorem resolve_rebuilt_users :
    let calls : List Registration := [
      .add "users" ":id" (.sharedCallback "show") {},
      .add "users" ":id/edit" (.sharedCallback "show") {},
      .add "app" "users" (.newMount "users") {},
      .add "app" "help" (.view ⟨"Help"⟩) {}]
    let first : Workspace := {}
    let second : Workspace := { labels := #["show"], mounts := 1 }
    let again (url : String) := Resolution.Recurs
      (((first.registerAll calls).router "app").resolve url ∅)
      (((second.registerAll calls).router "app").resolve url ∅)
    (first.registerAll calls).labels.size ≤ second.labels.size ∧
    again "users/7" ∧ again "help" ∧ again "users" ∧
    (((first.registerAll calls).router "app").resolve "users/7" ∅).toOption.map (·.handler) =
      some (.callback ⟨0⟩) ∧
    (((second.registerAll calls).router "app").resolve "users/7" ∅).toOption.map (·.handler) =
      some (.callback ⟨1⟩) := by
  intro calls first second again
  have hfirst : first.IsBlank := ⟨rfl, rfl, rfl⟩
  have hsecond : second.IsBlank := ⟨rfl, rfl, rfl⟩
  have hnew : (first.registerAll calls).labels.size ≤ second.labels.size := by decide +kernel
  have hagain (url : String) : again url :=
    (resolve_rebuilt hfirst hsecond calls hnew "app" url ∅).1
  refine ⟨hnew, hagain _, hagain _, hagain _, ?_, ?_⟩
  · decide +kernel
  · decide +kernel

end

end Workspace

end UrlRouting
