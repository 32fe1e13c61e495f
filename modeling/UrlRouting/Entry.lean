import UrlRouting.Presentation
import UrlRouting.Template
import UrlRouting.Text.Quoted

/-! # Entries

What a router is made of. An entry has a template, a target, and a presentation. Its target is
either a handler, which ends the resolution of a request, or a mount, a further router that takes
over what the template leaves of the request.

Callbacks and mounts are known by identity: two callbacks are equal only if they are one and the
same, whatever they do, and two mounts of equal routers differ unless they are one mount. Views are
known by name. `Target.same` compares targets accordingly, without looking into mounted routers. -/

namespace UrlRouting

/-- The name of a view. -/
structure ViewId where
  name : String
  deriving DecidableEq, Inhabited

/-- The views in the order of their names, each of them once. -/
def ViewId.index (views : List ViewId) : List ViewId :=
  (views.mergeSort fun a b => decide (a.name ≤ b.name)).eraseReps

/-- A callback, known by its identity; what it does is up to whoever runs it. -/
structure Callback where
  id : Nat
  deriving DecidableEq, Inhabited

/-- What handles a request. -/
inductive Handler where
  /-- run a callback with the parameters -/
  | callback (callback : Callback)
  /-- construct a view and show it -/
  | view (view : ViewId)
  deriving DecidableEq, Inhabited

/-- A router below another one, with an identity of its own. -/
structure Mount (ρ : Type) where
  id : Nat
  child : ρ

/-- What an entry leads to, with `ρ` for the routers that can be mounted. -/
inductive Target (ρ : Type) where
  | handler (handler : Handler)
  | mount (mount : Mount ρ)

/-- A template with what it leads to. -/
structure Entry (τ : Type) where
  template : Template
  target : τ
  presentation : Presentation

/-- The kinds of targets. -/
inductive Kind where
  | callback
  | view
  | mount
  deriving DecidableEq

/-- The name of a kind in the log. -/
def Kind.label : Kind → String
  | .callback => "callback"
  | .view => "constructible"
  | .mount => "child_router"

namespace Handler

/-- The kind of a handler. -/
def kind : Handler → Kind
  | .callback _ => .callback
  | .view _ => .view

/-- What a handler looks like in a report, with a text in place of the identity of a callback. -/
def describe (identity : Callback → String) : Handler → String
  | .callback c => "Callback(Callback(" ++ identity c ++ "))"
  | .view v => "Constructible(TargetId(" ++ Text.quote v.name ++ "))"

end Handler

namespace Target

variable {ρ : Type}

/-- The kind of a target. -/
def kind : Target ρ → Kind
  | .handler h => h.kind
  | .mount _ => .mount

/-- Whether the target is a mount. -/
def isMount : Target ρ → Bool
  | .handler _ => false
  | .mount _ => true

/-- Whether two targets are the same: callbacks and mounts by identity, views by name. -/
def same : Target ρ → Target ρ → Bool
  | .handler a, .handler b => a == b
  | .mount a, .mount b => a.id == b.id
  | _, _ => false

end Target

namespace Entry

variable {ρ : Type}

/-- The entry with its handler, if it has one. -/
def leaf? : Entry (Target ρ) → Option (Entry Handler)
  | ⟨template, .handler handler, presentation⟩ => some ⟨template, handler, presentation⟩
  | ⟨_, .mount _, _⟩ => none

/-- The entry with its mount, if it has one. -/
def mount? : Entry (Target ρ) → Option (Entry (Mount ρ))
  | ⟨_, .handler _, _⟩ => none
  | ⟨template, .mount mount, presentation⟩ => some ⟨template, mount, presentation⟩

@[simp] theorem leaf?_handler (template : Template) (handler : Handler) (shown : Presentation) :
    (⟨template, .handler handler, shown⟩ : Entry (Target ρ)).leaf? =
      some ⟨template, handler, shown⟩ := rfl

@[simp] theorem leaf?_mount (template : Template) (mount : Mount ρ) (shown : Presentation) :
    (⟨template, .mount mount, shown⟩ : Entry (Target ρ)).leaf? = none := rfl

@[simp] theorem mount?_handler (template : Template) (handler : Handler) (shown : Presentation) :
    (⟨template, .handler handler, shown⟩ : Entry (Target ρ)).mount? = none := rfl

@[simp] theorem mount?_mount (template : Template) (mount : Mount ρ) (shown : Presentation) :
    (⟨template, .mount mount, shown⟩ : Entry (Target ρ)).mount? =
      some ⟨template, mount, shown⟩ := rfl

theorem template_of_leaf? {entry : Entry (Target ρ)} {leaf : Entry Handler}
    (h : entry.leaf? = some leaf) : leaf.template = entry.template := by
  obtain ⟨template, _ | _, shown⟩ := entry
  · cases h; rfl
  · cases h

theorem template_of_mount? {entry : Entry (Target ρ)} {mount : Entry (Mount ρ)}
    (h : entry.mount? = some mount) : mount.template = entry.template := by
  obtain ⟨template, _ | _, shown⟩ := entry
  · cases h
  · cases h; rfl

end Entry

end UrlRouting
