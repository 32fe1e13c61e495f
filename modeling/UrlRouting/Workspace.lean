import UrlRouting.Router

/-! # Workspaces

A workspace holds routers under construction by name, and hands out the identities of callbacks and
mounts. A name that was not used yet stands for the empty router. A router mounted in another one is
the router as it is at that moment; what is added to it later does not show in the mount.

* `Workspace.newCallback`, `Workspace.newMount`: a callback or a mount unlike any before.
* `Workspace.sharedCallback`: the one shared callback of a label.
* `Workspace.freeze`: a mount kept under a name, so that several entries can hold the same one.
* `Workspace.target?`, `Workspace.register`: the target of an entry, made when it is registered, and
  one call that fills a workspace; `Workspace.registerEvents` is what the call writes into the log.
* `Workspace.target?_frame`: making a target leaves the routers and the mounts kept as they are. -/

namespace UrlRouting

/-- Named routers with the identities given out so far. -/
structure Workspace where
  routers : Std.ExtTreeMap String Router compare := ∅
  /-- mounts kept under names -/
  handles : Std.ExtTreeMap String (Mount Router) compare := ∅
  /-- shared callbacks by label -/
  shared : Std.ExtTreeMap String Callback compare := ∅
  /-- the labels of all callbacks, by identity -/
  labels : Array String := #[]
  /-- the number of mounts given out -/
  mounts : Nat := 0

/-- What an entry is registered with. -/
inductive Aim where
  | view (view : ViewId)
  /-- a new callback -/
  | newCallback (label : String)
  /-- the callback shared under a label, new when it is first asked for -/
  | sharedCallback (label : String)
  /-- a new mount of the router of a name, as it is now -/
  | newMount (name : String)
  /-- the mount kept under a name -/
  | keptMount (handle : String)

/-- A call that fills a workspace. -/
inductive Registration where
  /-- add an entry to the router of a name -/
  | add (name format : String) (aim : Aim) (shown : Presentation)
  /-- keep a new mount of the router of a name under another name -/
  | keep (name handle : String)

namespace Workspace

instance : Inhabited Workspace := ⟨{}⟩

/-- The router of a name. -/
def router (workspace : Workspace) (name : String) : Router :=
  workspace.routers.getD name .empty

/-- The workspace with another router under a name. -/
def setRouter (workspace : Workspace) (name : String) (router : Router) : Workspace :=
  { workspace with routers := workspace.routers.insert name router }

/-- The workspace with one more entry in the router of a name. -/
def add (workspace : Workspace) (name : String) (route : Route) : Workspace :=
  workspace.setRouter name ((workspace.router name).add route)

/-- The workspace with a copy of the router of a name under another name. -/
def clone (workspace : Workspace) (name copy : String) : Workspace :=
  workspace.setRouter copy (workspace.router name)

theorem router_setRouter (workspace : Workspace) (name other : String) (router : Router) :
    (workspace.setRouter name router).router other =
      if name = other then router else workspace.router other := by
  rw [Workspace.router, setRouter, Std.ExtTreeMap.getD_insert]
  simp [Workspace.router]

theorem router_add (workspace : Workspace) (name other : String) (route : Route) :
    (workspace.add name route).router other =
      if name = other then (workspace.router name).add route else workspace.router other :=
  router_setRouter workspace name other _

/-! ### Identities -/

/-- The label of a callback. -/
def label (workspace : Workspace) (callback : Callback) : String :=
  workspace.labels.getD callback.id ""

/-- A new callback with a label. -/
def newCallback (workspace : Workspace) (label : String) : Callback × Workspace :=
  (⟨workspace.labels.size⟩, { workspace with labels := workspace.labels.push label })

/-- The shared callback of a label, made when it is first asked for. -/
def sharedCallback (workspace : Workspace) (label : String) : Callback × Workspace :=
  match workspace.shared[label]? with
  | some callback => (callback, workspace)
  | none =>
    let (callback, workspace) := workspace.newCallback label
    (callback, { workspace with shared := workspace.shared.insert label callback })

/-- A new mount of the router of a name, as it is now. -/
def newMount (workspace : Workspace) (name : String) : Mount Router × Workspace :=
  (⟨workspace.mounts, workspace.router name⟩, { workspace with mounts := workspace.mounts + 1 })

/-- The workspace with a new mount of the router of a name, kept under another name. -/
def freeze (workspace : Workspace) (name handle : String) : Workspace :=
  let (mount, workspace) := workspace.newMount name
  { workspace with handles := workspace.handles.insert handle mount }

/-- The mount kept under a name. -/
def handle? (workspace : Workspace) (handle : String) : Option (Mount Router) :=
  workspace.handles[handle]?

theorem handle?_freeze (workspace : Workspace) (name handle other : String) :
    (workspace.freeze name handle).handle? other =
      if handle = other then some ⟨workspace.mounts, workspace.router name⟩
      else workspace.handle? other := by
  rw [handle?, freeze, Std.ExtTreeMap.getElem?_insert]
  simp [newMount, handle?]

/-! ### Registering entries -/

/-- The target that an entry is registered with, and the workspace once it is made. There is none if
no mount is kept under the name. -/
def target? (workspace : Workspace) : Aim → Option (Target Router) × Workspace
  | .view v => (some (.handler (.view v)), workspace)
  | .newCallback label =>
    let (callback, workspace) := workspace.newCallback label
    (some (.handler (.callback callback)), workspace)
  | .sharedCallback label =>
    let (callback, workspace) := workspace.sharedCallback label
    (some (.handler (.callback callback)), workspace)
  | .newMount name =>
    let (mount, workspace) := workspace.newMount name
    (some (.mount mount), workspace)
  | .keptMount handle => ((workspace.handle? handle).map .mount, workspace)

/-- Making a target leaves the routers and the mounts kept as they are. -/
theorem target?_frame (workspace : Workspace) (aim : Aim) :
    (workspace.target? aim).2.routers = workspace.routers ∧
      (workspace.target? aim).2.handles = workspace.handles := by
  cases aim with
  | view v => exact ⟨rfl, rfl⟩
  | newCallback label => exact ⟨rfl, rfl⟩
  | sharedCallback label =>
    simp only [target?, sharedCallback]
    cases workspace.shared[label]? <;> exact ⟨rfl, rfl⟩
  | newMount name => exact ⟨rfl, rfl⟩
  | keptMount handle => exact ⟨rfl, rfl⟩

theorem router_target? (workspace : Workspace) (aim : Aim) (name : String) :
    (workspace.target? aim).2.router name = workspace.router name := by
  rw [Workspace.router, (workspace.target?_frame aim).1, Workspace.router]

theorem handle?_target? (workspace : Workspace) (aim : Aim) (handle : String) :
    (workspace.target? aim).2.handle? handle = workspace.handle? handle := by
  rw [handle?, (workspace.target?_frame aim).2, handle?]

/-- The workspace after a call; a call without a target changes nothing. -/
def register (workspace : Workspace) : Registration → Workspace
  | .add name format aim shown =>
    match workspace.target? aim with
    | (some target, workspace) => workspace.add name ⟨.ofFormat format, target, shown⟩
    | (none, workspace) => workspace
  | .keep name handle => workspace.freeze name handle

/-- What a call writes into the log: the entry that it adds, if there is a target for it. -/
def registerEvents (workspace : Workspace) : Registration → List Event
  | .add name format aim shown =>
    (workspace.target? aim).1.toList.map fun target =>
      (workspace.router name).additionEvent ⟨.ofFormat format, target, shown⟩
  | .keep _ _ => []

/-- The workspace after some calls, one after the other. -/
def registerAll (workspace : Workspace) (calls : List Registration) : Workspace :=
  calls.foldl register workspace

end Workspace

end UrlRouting
