import Mathlib.Data.List.DropRight
import UrlRouting.Presentation

/-! # Building presentations

A presentation is built step by step, and each step sees only what the one before it left. What
comes out can be read off the steps all the same: the last fresh start among them and the steps
behind it decide everything, and for each thing that one can ask of a presentation the last step
that sets it has the say.

* `Presentation.lastFresh?`, `Presentation.sinceFresh`: the last fresh start, and the steps behind
  it.
* `Setting`: what one can ask of a presentation, with what the steps set it to; `Setting.get_foldl`
  is the rule of the last step for all settings at once.
* `Presentation.IsMadeBy`: what a fresh start and the steps behind it make of each field.
* `Step.Separate`: steps that have nothing to do with each other; their order does not matter
  (`step_comm`). -/

namespace UrlRouting.Presentation

namespace Step

/-- Whether a step forgets what came before. -/
def isFresh : Step → Bool
  | .fresh | .freshModal | .freshDefaults _ => true
  | _ => false

/-- The style that a step sets. -/
def style? : Step → Option ModalStyle
  | .setStyle style => some style
  | _ => none

/-- The transition that a step sets. -/
def transition? : Step → Option Transition
  | .setTransition transition => some transition
  | _ => none

/-- The parameters that a step puts in the place of all default parameters. -/
def params? : Step → Option Parameters
  | .setDefaults params => some params
  | _ => none

/-- The parameters with which a step starts afresh. -/
def freshParams? : Step → Option Parameters
  | .freshDefaults params => some params
  | _ => none

/-- The value that a step sets for one name. -/
def value? (name : String) : Step → Option Value
  | .setDefault other value => if other = name then some value else none
  | _ => none

end Step

/-- The last step that starts afresh. -/
def lastFresh? (steps : List Step) : Option Step := steps.findRev? Step.isFresh

/-- The steps behind the last one that starts afresh, all of them if there is none. -/
def sinceFresh (steps : List Step) : List Step := steps.rtakeWhile (!·.isFresh)

/-- **What a fresh start and the steps behind it make of each field.** -/
structure IsMadeBy (shown : Presentation) (fresh : Option Step) (rest : List Step) : Prop where
  intent : shown.intent = .modal ↔ fresh = some .freshModal ∨ .setModal ∈ rest
  atRoot : shown.atRoot = true ↔ .setAtRoot ∈ rest
  style : shown.style = (rest.findSomeRev? Step.style?).getD .none
  transition : shown.transition = (rest.findSomeRev? Step.transition?).getD .coverVertical
  /-- the last value behind the last replacement, else what is replaced or started with -/
  defaults : ∀ name, shown.defaults[name]? =
    ((rest.rtakeWhile (·.params?.isNone)).findSomeRev? (Step.value? name)).or
      (((rest.findSomeRev? Step.params?).or (fresh.bind Step.freshParams?)).bind (·[name]?))

/-! ### Fresh starts -/

/-- The presentation after a fresh start; the standard one without a start. -/
def start : Option Step → Presentation
  | some .freshModal => { intent := .modal }
  | some (.freshDefaults params) => { defaults := params }
  | _ => {}

section
variable (first : Option Step)

theorem intent_start_eq_modal_iff : (start first).intent = .modal ↔ first = some .freshModal := by
  unfold start; split <;> simp_all

@[simp] theorem atRoot_start : (start first).atRoot = false := by
  unfold start; split <;> rfl

@[simp] theorem style_start : (start first).style = .none := by
  unfold start; split <;> rfl

@[simp] theorem transition_start : (start first).transition = .coverVertical := by
  unfold start; split <;> rfl

theorem getElem?_defaults_start (name : String) :
    (start first).defaults[name]? = (first.bind Step.freshParams?).bind (·[name]?) := by
  rcases first with _ | first
  · rfl
  · cases first <;> rfl

end

theorem build_concat (steps : List Step) (last : Step) :
    build (steps ++ [last]) = (build steps).step last := by
  rw [build, build, List.foldl_concat]

theorem step_of_isFresh {first : Step} (h : first.isFresh = true) (shown : Presentation) :
    shown.step first = start (some first) := by
  cases first with
  | fresh | freshModal | freshDefaults => rfl
  | _ => cases h

/-- **Only the last fresh start counts**, and what comes behind it. -/
theorem build_eq_foldl (steps : List Step) :
    build steps = (sinceFresh steps).foldl step (start (lastFresh? steps)) := by
  induction steps using List.reverseRecOn with
  | nil => rfl
  | append_singleton steps last ih =>
    rw [build_concat]
    by_cases h : last.isFresh = true
    · simp [sinceFresh, lastFresh?, h, step_of_isFresh h]
    · rw [ih]
      simp [sinceFresh, lastFresh?, h]

theorem isFresh_of_mem_sinceFresh {steps : List Step} {later : Step}
    (h : later ∈ sinceFresh steps) : later.isFresh = false := by
  simpa using List.mem_rtakeWhile_imp h

/-! ### Settings -/

/-- Something to ask of a presentation, with what a step sets it to. -/
structure Setting (α : Type) where
  get : Presentation → α
  set? : Step → Option α
  get_step : ∀ (shown : Presentation) (step : Step), step.isFresh = false →
    get (shown.step step) = (set? step).getD (get shown)

namespace Setting

/-- **The last step that sets something has the say.** -/
theorem get_foldl {α : Type} (setting : Setting α) (shown : Presentation) {steps : List Step}
    (h : ∀ step ∈ steps, step.isFresh = false) :
    setting.get (steps.foldl step shown) =
      (steps.findSomeRev? setting.set?).getD (setting.get shown) := by
  induction steps using List.reverseRecOn with
  | nil => rfl
  | append_singleton steps last ih =>
    rw [List.foldl_concat, setting.get_step _ _ (h last (by simp)),
      ih fun step hm => h step (by simp [hm])]
    cases hlast : setting.set? last <;> simp [hlast]

/-- What a sequence of steps sets something to. -/
theorem get_build {α : Type} (setting : Setting α) (steps : List Step) :
    setting.get (build steps) = ((sinceFresh steps).findSomeRev? setting.set?).getD
      (setting.get (start (lastFresh? steps))) := by
  rw [build_eq_foldl]
  exact setting.get_foldl _ fun _ => isFresh_of_mem_sinceFresh

/-- How the view comes up; a step can make it modal, and none takes that back. -/
def intent : Setting Intent where
  get := Presentation.intent
  set? step := if step = .setModal then some .modal else none
  get_step shown step h := by
    cases step with
    | fresh | freshModal | freshDefaults => cases h
    | _ => rfl

/-- Whether the view replaces all others; a step can ask for it, and none takes that back. -/
def atRoot : Setting Bool where
  get := Presentation.atRoot
  set? step := if step = .setAtRoot then some true else none
  get_step shown step h := by
    cases step with
    | fresh | freshModal | freshDefaults => cases h
    | _ => rfl

/-- The style of a modal view, set whether the view is modal or not. -/
def style : Setting ModalStyle where
  get := Presentation.style
  set? := Step.style?
  get_step shown step h := by
    cases step with
    | fresh | freshModal | freshDefaults => cases h
    | _ => rfl

/-- The movement with which the view comes up. -/
def transition : Setting Transition where
  get := Presentation.transition
  set? := Step.transition?
  get_step shown step h := by
    cases step with
    | fresh | freshModal | freshDefaults => cases h
    | _ => rfl

/-- The default parameter of a name, which a step can also take away. -/
def default (name : String) : Setting (Option Value) where
  get shown := shown.defaults[name]?
  set? step := ((step.value? name).map some).or (step.params?.map (·[name]?))
  get_step shown step h := by
    cases step with
    | fresh | freshModal | freshDefaults => cases h
    | setDefault other value =>
      by_cases hname : other = name <;>
        simp [Presentation.step, Step.value?, Step.params?, Std.ExtTreeMap.getElem?_insert, hname]
    | _ => rfl

theorem set?_default (name : String) (step : Step) : (Setting.default name).set? step =
    ((step.value? name).map some).or (step.params?.map (·[name]?)) := rfl

end Setting

/-! ### Fields -/

theorem findSomeRev?_concat {α : Type} (set? : Step → Option α) (steps : List Step) (last : Step) :
    (steps ++ [last]).findSomeRev? set? = (set? last).or (steps.findSomeRev? set?) := by
  cases h : set? last <;> simp [h]

/-- What is raised by one step stays raised. -/
theorem getD_findSomeRev?_ite {α : Type} (steps : List Step) (flag : Step) (raised base : α) :
    (steps.findSomeRev? fun step => if step = flag then some raised else none).getD base =
      if flag ∈ steps then raised else base := by
  induction steps using List.reverseRecOn with
  | nil => simp
  | append_singleton steps last ih =>
    by_cases h : last = flag
    · simp [h]
    · simpa [h, Ne.symm h] using ih

theorem Step.value?_of_params? {step : Step} {params : Parameters} (h : step.params? = some params)
    (name : String) : step.value? name = none := by
  cases step with
  | setDefaults params => rfl
  | _ => cases h

/-- A default parameter that is set one by one hides those that came all together before it. -/
theorem getD_findSomeRev?_default (name : String) (steps : List Step) (base : Option Value) :
    (steps.findSomeRev? (Setting.default name).set?).getD base =
      ((steps.rtakeWhile (·.params?.isNone)).findSomeRev? (Step.value? name)).or
        (((steps.findSomeRev? Step.params?).map (·[name]?)).getD base) := by
  induction steps using List.reverseRecOn with
  | nil => rfl
  | append_singleton steps last ih =>
    rw [findSomeRev?_concat, findSomeRev?_concat, List.rtakeWhile_concat, Setting.set?_default]
    cases hparams : last.params? with
    | some params => simp [last.value?_of_params? hparams]
    | none =>
      rw [Option.isNone_none, if_pos rfl, findSomeRev?_concat]
      cases last.value? name with
      | some value => simp
      | none => simpa only [Option.map_none, Option.none_or] using ih

/-- **The closed form of a sequence of steps.** -/
theorem isMadeBy_build (steps : List Step) :
    (build steps).IsMadeBy (lastFresh? steps) (sinceFresh steps) where
  intent := by
    have h : (build steps).intent = if .setModal ∈ sinceFresh steps then .modal
        else (start (lastFresh? steps)).intent :=
      (Setting.intent.get_build steps).trans (getD_findSomeRev?_ite ..)
    by_cases hm : .setModal ∈ sinceFresh steps
    · simp [h, hm]
    · simp [h, hm, intent_start_eq_modal_iff]
  atRoot := by
    have h : (build steps).atRoot = if .setAtRoot ∈ sinceFresh steps then true
        else (start (lastFresh? steps)).atRoot :=
      (Setting.atRoot.get_build steps).trans (getD_findSomeRev?_ite ..)
    simp [h]
  style := by
    have h : (build steps).style = ((sinceFresh steps).findSomeRev? Step.style?).getD
        (start (lastFresh? steps)).style := Setting.style.get_build steps
    rwa [style_start] at h
  transition := by
    have h : (build steps).transition = ((sinceFresh steps).findSomeRev? Step.transition?).getD
        (start (lastFresh? steps)).transition := Setting.transition.get_build steps
    rwa [transition_start] at h
  defaults name := by
    have h : (build steps).defaults[name]? =
        ((sinceFresh steps).findSomeRev? (Setting.default name).set?).getD
          (start (lastFresh? steps)).defaults[name]? := (Setting.default name).get_build steps
    rw [h, getD_findSomeRev?_default, getElem?_defaults_start]
    -- A replacement hides all that a fresh start has, also the names that it does not hold itself.
    cases (sinceFresh steps).findSomeRev? Step.params? <;> rfl

/-! ### The order of steps -/

/-- The fields of a presentation. -/
inductive Field where
  | defaults
  | intent
  | style
  | transition
  | atRoot
  deriving DecidableEq

namespace Step

/-- The field that a step sets; a fresh start sets no single one. -/
def field? : Step → Option Field
  | .fresh | .freshModal | .freshDefaults _ => none
  | .setModal => some .intent
  | .setAtRoot => some .atRoot
  | .setStyle _ => some .style
  | .setTransition _ => some .transition
  | .setDefaults _ | .setDefault _ _ => some .defaults

/-- **Steps that have nothing to do with each other**: they set different fields, or default
parameters of different names. -/
inductive Separate : Step → Step → Prop where
  | fields {a b : Step} {f g : Field} (ha : a.field? = some f) (hb : b.field? = some g)
      (hne : f ≠ g) : Separate a b
  | names {name other : String} (hne : name ≠ other) (value otherValue : Value) :
      Separate (.setDefault name value) (.setDefault other otherValue)

end Step

/-- **The order of separate steps does not matter.** -/
theorem step_comm {a b : Step} (h : a.Separate b) (shown : Presentation) :
    (shown.step a).step b = (shown.step b).step a := by
  cases h with
  | fields ha hb hne =>
    -- A step with a field writes that field alone, so both orders compute to the same.
    cases a <;> cases ha <;> cases b <;> cases hb <;> first | rfl | exact absurd rfl hne
  | @names name other hne value otherValue =>
    simp only [step, Presentation.mk.injEq, and_true]
    refine Std.ExtTreeMap.ext_getElem? fun key => ?_
    simp only [Std.ExtTreeMap.getElem?_insert]
    split_ifs with hother hname
    · rw [Std.LawfulEqCmp.compare_eq_iff_eq] at hother hname
      exact absurd (hname.trans hother.symm) hne
    all_goals rfl

/-- **A presentation is what the last steps say**: its fields are those that the last fresh start
and the steps behind it make, and separate steps can change places. -/
theorem isMadeBy_build_and_swap (steps : List Step) :
    (build steps).IsMadeBy (lastFresh? steps) (sinceFresh steps) ∧
    ∀ front a b back, steps = front ++ a :: b :: back → a.Separate b →
      build (front ++ b :: a :: back) = build steps := by
  refine ⟨isMadeBy_build steps, ?_⟩
  rintro front a b back rfl hseparate
  simp only [build, List.foldl_append, List.foldl_cons, step_comm hseparate]

/-- A fresh start forgets that the view was to replace all others, and a replacement forgets the
parameters that were started with, also those that it does not name. -/
theorem build_modal_tabs :
    let fresh : Parameters := .ofTexts [("tab", "all"), ("page", "1")]
    let steps : List Step := [.setAtRoot, .freshDefaults fresh, .setModal, .setStyle .popover,
      .setDefaults (.ofTexts [("tab", "new")]), .setStyle .formSheet,
      .setDefault "sort" (.string "name"), .setDefault "sort" .null]
    (build steps).intent = .modal ∧ (build steps).atRoot = false ∧
    (build steps).style = .formSheet ∧ (build steps).defaults["tab"]? = some (.string "new") ∧
    (build steps).defaults["page"]? = none ∧ (build steps).defaults["sort"]? = some .null ∧
    build [.setAtRoot, .freshDefaults fresh, .setModal, .setStyle .popover, .setStyle .formSheet,
      .setDefaults (.ofTexts [("tab", "new")]), .setDefault "sort" (.string "name"),
      .setDefault "sort" .null] = build steps := by
  intro fresh steps
  obtain ⟨made, hswap⟩ := isMadeBy_build_and_swap steps
  have hroot : .setAtRoot ∉ sinceFresh steps := by decide +kernel
  refine ⟨made.intent.mpr (Or.inr (by decide +kernel)), ?_, made.style.trans (by decide +kernel),
    (made.defaults "tab").trans (by decide +kernel),
    (made.defaults "page").trans (by decide +kernel),
    (made.defaults "sort").trans (by decide +kernel),
    hswap [_, _, _, _] _ _ [_, _] rfl (.fields rfl rfl (by decide))⟩
  rwa [← made.atRoot, Bool.not_eq_true] at hroot

end UrlRouting.Presentation
