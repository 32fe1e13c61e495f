import UrlRouting.Parameters

/-! # Presentations

What a route says about showing its view: pushed or modal, with which style and transition, and
whether the view replaces everything shown so far. A router reads only the default parameters; the
rest is passed on to whoever shows the view.

A presentation is built by a sequence of steps (`Presentation.Step`): three of them start afresh,
forgetting what came before, and each of the others sets one thing. `Presentation.build` is the
result of a sequence, `Presentation.history` what there is before and after each of its steps. -/

namespace UrlRouting

/-- How a view comes up. -/
inductive Intent where
  | push
  | modal
  deriving DecidableEq

/-- The style of a modal view. -/
inductive ModalStyle where
  | none
  | fullScreen
  | pageSheet
  | formSheet
  | currentContext
  | overFullScreen
  | overCurrentContext
  | popover
  deriving DecidableEq

/-- The movement with which a view comes up. -/
inductive Transition where
  | coverVertical
  | flipHorizontal
  | crossDissolve
  | partialCurl
  deriving DecidableEq

/-- How a route shows its view. -/
structure Presentation where
  /-- parameters that hold where a request says nothing else -/
  defaults : Parameters := ∅
  intent : Intent := .push
  style : ModalStyle := .none
  transition : Transition := .coverVertical
  /-- whether the view replaces all views shown so far -/
  atRoot : Bool := false
  deriving DecidableEq

namespace Presentation

instance : Inhabited Presentation := ⟨{}⟩

/-! ### Building -/

/-- A step of building a presentation. -/
inductive Step where
  /-- start afresh -/
  | fresh
  /-- start afresh with a modal view -/
  | freshModal
  /-- start afresh with these default parameters -/
  | freshDefaults (params : Parameters)
  | setModal
  | setAtRoot
  | setStyle (style : ModalStyle)
  | setTransition (transition : Transition)
  /-- replace the default parameters -/
  | setDefaults (params : Parameters)
  /-- set one default parameter -/
  | setDefault (name : String) (value : Value)
  deriving DecidableEq

/-- The presentation after one more step. -/
def step (shown : Presentation) : Step → Presentation
  | .fresh => {}
  | .freshModal => { intent := .modal }
  | .freshDefaults params => { defaults := params }
  | .setModal => { shown with intent := .modal }
  | .setAtRoot => { shown with atRoot := true }
  | .setStyle style => { shown with style }
  | .setTransition transition => { shown with transition }
  | .setDefaults params => { shown with defaults := params }
  | .setDefault name value => { shown with defaults := shown.defaults.insert name value }

/-- The presentation that a sequence of steps makes. -/
def build (steps : List Step) : Presentation := steps.foldl step {}

/-- The presentations before and after each step of a sequence. -/
def history (steps : List Step) : List Presentation := steps.scanl step {}

end Presentation

end UrlRouting
