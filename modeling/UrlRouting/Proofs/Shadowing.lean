import Mathlib.Algebra.Order.BigOperators.Group.List
import Mathlib.Algebra.Order.Group.Nat
import UrlRouting.Proofs.Filling

/-! # Shadowed entries

An entry of a router never gets a request if an earlier one fits whatever it fits. This can be read
off the templates: position by position, the earlier one has the same literal, or a parameter where
the later one has a parameter or a literal that is not empty (`Template.Covers`).

* `Router.pick?`: the number of the entry that a router picks itself; the trail ends there.
* `Part.covers_of_fits_sample`: a part that fits a text unlike any literal covers the parameter that
  the text stands for. So one URL with such texts shows that no earlier entry is in the way.
* `Router.exists_pick_iff`: an entry is picked for some URL unless its template is malformed or a
  single earlier entry covers it. -/

namespace UrlRouting

open Url

/-! ### Covering -/

/-- Whether a part covers another one, as they are written. -/
def Part.Covers : Part → Part → Prop
  | .literal a, .literal b => a = b
  | .literal _, .param _ => False
  | .param name, .literal text => name ≠ "" ∧ text ≠ ""
  | .param name, .param _ => name ≠ ""

/-- Whether a template covers another one: they have equally many parts, and each part covers the
one at its position. -/
def Template.Covers (wide narrow : Template) : Prop :=
  List.Forall₂ Part.Covers wide.parts narrow.parts

instance Part.decidableCovers : ∀ wide narrow : Part, Decidable (wide.Covers narrow)
  | .literal a, .literal b => inferInstanceAs (Decidable (a = b))
  | .literal _, .param _ => inferInstanceAs (Decidable False)
  | .param name, .literal text => inferInstanceAs (Decidable (name ≠ "" ∧ text ≠ ""))
  | .param name, .param _ => inferInstanceAs (Decidable (name ≠ ""))

instance (wide narrow : Template) : Decidable (wide.Covers narrow) :=
  inferInstanceAs (Decidable (List.Forall₂ _ _ _))

/-- A part fits what the parts that it covers fit. -/
theorem Part.Covers.fits {wide narrow : Part} (h : wide.Covers narrow) {segment : String}
    (hfit : narrow.fits segment = true) : wide.fits segment = true := by
  cases wide with
  | literal a =>
    cases narrow with
    | literal b => obtain rfl : a = b := h; exact hfit
    | param name => exact h.elim
  | param name =>
    cases narrow with
    | literal text =>
      obtain rfl : text = segment := by simpa [Part.fits] using hfit
      have hne : name ≠ "" ∧ text ≠ "" := h
      simpa [Part.fits] using hne
    | param other =>
      have hname : name ≠ "" := h
      simp only [Part.fits, Bool.and_eq_true, bne_iff_ne] at hfit ⊢
      exact ⟨hname, hfit.2⟩

theorem Part.fitEach_of_covers {wide narrow : List Part} (h : List.Forall₂ Part.Covers wide narrow)
    {segments : List String} (hfit : FitEach narrow segments) : FitEach wide segments := by
  induction h generalizing segments with
  | nil => exact hfit
  | cons hpart _ ih =>
    obtain _ | ⟨hfirst, hrest⟩ := hfit
    exact .cons (hpart.fits hfirst) (ih hrest)

/-- **A template fits what the templates that it covers fit.** -/
theorem Template.Covers.fits {wide narrow : Template} (h : wide.Covers narrow)
    {segments : List String} (hfit : narrow.fits segments = true) :
    wide.fits segments = true := by
  rw [fits_iff_fitEach] at hfit ⊢
  exact Part.fitEach_of_covers h hfit

/-! ### Sample requests -/

namespace Part

/-- A segment for a part, with the given text for every parameter. -/
def sample (token : String) : Part → String
  | .literal text => text
  | .param _ => token

theorem fill_replicate (token : String) (parts : List Part) :
    fill parts (List.replicate (parts.filterMap name?).length token) =
      parts.map (sample token) := by
  induction parts with
  | nil => rfl
  | cons part parts ih =>
    cases part with
    | literal text => simpa [fill, sample] using ih
    | param name => simpa [fill, sample, List.replicate_succ] using ih

/-- **Samples tell covering parts from others**, if the text for the parameters is no literal. -/
theorem covers_of_fits_sample {wide narrow : Part} {token : String} (hw : wide ≠ .literal token)
    (h : wide.fits (narrow.sample token) = true) : wide.Covers narrow := by
  cases wide with
  | literal a =>
    cases narrow with
    | literal b => exact (by simpa [fits, sample] using h : a = b)
    | param name =>
      obtain rfl : a = token := by simpa [fits, sample] using h
      exact absurd rfl hw
  | param name =>
    simp only [fits, Bool.and_eq_true, bne_iff_ne] at h
    cases narrow with
    | literal text => exact h
    | param other => exact h.1

end Part

/-- There is a text, fit for any parameter, that differs from given ones. -/
theorem exists_token (texts : List String) :
    ∃ token : String, token ≠ "" ∧ '/' ∉ token.toList ∧ Request.MarkFree token ∧ token ∉ texts := by
  -- One that is longer than all of them together will do.
  refine ⟨.ofList (List.replicate ((texts.map String.length).sum + 1) 'x'), ?_, ?_, ⟨?_, ?_⟩, ?_⟩
  · simp [← String.toList_inj]
  · simp
  · simp
  · simp
  · intro hm
    have hle := List.le_sum_of_mem (List.mem_map_of_mem (f := String.length) hm)
    simp at hle

namespace Template

/-- The segments of a template with the same text for each of its parameters. -/
def sample (template : Template) (token : String) : List String :=
  template.fill (List.replicate template.names.length token)

theorem isFilling_replicate (template : Template) {token : String} (hne : token ≠ "")
    (hs : '/' ∉ token.toList) :
    template.IsFilling (List.replicate template.names.length token) where
  length_eq := List.length_replicate
  ne_empty value hv := by rwa [List.eq_of_mem_replicate hv]
  noSlash value hv := by rwa [List.eq_of_mem_replicate hv]

theorem covers_of_fits_sample {wide narrow : Template} {token : String}
    (hw : .literal token ∉ wide.parts) (h : wide.fits (narrow.sample token) = true) :
    wide.Covers narrow := by
  rw [fits_iff_fitEach, sample, fill, names, Part.fill_replicate, Part.FitEach,
    List.forall₂_map_right_iff] at h
  have hboth := (List.forall₂_and_left (p := (· ≠ .literal token)) _ _).mpr
    ⟨fun part hm => by rintro rfl; exact hw hm, h⟩
  exact hboth.imp fun part other hpair => Part.covers_of_fits_sample hpair.1 hpair.2

end Template

/-! ### Picked entries -/

namespace Router

/-- The number of the first entry with a handler that fits the segments. -/
def pick? (router : Router) (segments : List String) : Option ℕ :=
  router.routes.findIdx? fun route => route.leaf?.any (·.template.fits segments)

section
variable {router : Router} {i : ℕ} {leaf : Entry Handler}
  (hi : router.routes[i]? = some leaf.toRoute) {segments : List String}
include hi

theorem pick?_eq_some_iff :
    router.pick? segments = some i ↔ leaf.template.fits segments = true ∧
      ∀ earlier ∈ (router.routes.take i).filterMap Entry.leaf?,
        earlier.template.fits segments = false := by
  obtain ⟨hlt, hget⟩ := List.getElem?_eq_some_iff.mp hi
  rw [pick?, List.findIdx?_eq_some_iff_getElem]
  constructor
  · rintro ⟨_, hfit, hbefore⟩
    refine ⟨by simpa [hget, Entry.toRoute] using hfit, fun earlier hm => ?_⟩
    obtain ⟨route, hroute, hleaf⟩ := List.mem_filterMap.mp hm
    obtain ⟨j, hj, rfl⟩ := List.mem_take_iff_getElem.mp hroute
    simpa [hleaf] using hbefore j (by omega)
  · rintro ⟨hfit, hbefore⟩
    refine ⟨hlt, by simpa [hget, Entry.toRoute] using hfit, fun j hj => ?_⟩
    cases hleaf : router.routes[j].leaf? with
    | none => simp
    | some earlier =>
      have hm : router.routes[j] ∈ router.routes.take i :=
        List.mem_take_iff_getElem.mpr ⟨j, by omega, rfl⟩
      simpa using hbefore earlier (List.mem_filterMap.mpr ⟨_, hm, hleaf⟩)

/-- The trail ends at the entry that the router picks. -/
theorem trail_of_pick? (h : router.pick? segments = some i) :
    router.trail segments = .hit ⟨router, segments⟩ leaf := by
  have hfind : router.leaves.find? (·.template.fits segments) = some leaf := by
    rw [leaves, List.find?_filterMap, List.find?_eq_bind_findIdx?_getElem?]
    rw [pick?] at h
    rw [h, Option.bind_some, hi]
    rfl
  rw [trail_eq, hfind]

/-- A picked entry has a sound template, and no earlier entry covers it. -/
theorem not_covers_of_pick? {url : String}
    (h : router.pick? (Request.ofUrl url).segments = some i) :
    leaf.template.Named ∧ leaf.template.MarkFree ∧
      ∀ earlier ∈ (router.routes.take i).filterMap Entry.leaf?,
        ¬ earlier.template.Covers leaf.template := by
  obtain ⟨hfit, hbefore⟩ := (pick?_eq_some_iff hi).mp h
  obtain ⟨hnamed, hmarks⟩ := Template.named_and_markFree_of_fitEach
    (Template.fits_iff_fitEach.mp hfit) fun _ hm => Request.markFree_of_mem_segments hm
  refine ⟨hnamed, hmarks, fun earlier hm hcover => ?_⟩
  have hfit' := hcover.fits hfit
  rw [hbefore earlier hm] at hfit'
  cases hfit'

/-- A sound template that no earlier one covers is picked for a sample of it, if the text in that
sample is no literal of any entry. -/
theorem pick?_of_not_covers (hnamed : leaf.template.Named) {token : String} (hne : token ≠ "")
    (hs : '/' ∉ token.toList)
    (hfresh : ∀ other ∈ router.leaves, .literal token ∉ other.template.parts)
    (hcovers : ∀ earlier ∈ (router.routes.take i).filterMap Entry.leaf?,
      ¬ earlier.template.Covers leaf.template) :
    router.pick? (leaf.template.sample token) = some i := by
  have hfill := leaf.template.isFilling_replicate hne hs
  refine (pick?_eq_some_iff hi).mpr ⟨hfill.fits_fill hnamed, fun earlier hm => ?_⟩
  have hleaf : earlier ∈ router.leaves :=
    ((List.take_sublist i router.routes).filterMap Entry.leaf?).subset hm
  rw [Bool.eq_false_iff]
  exact fun hfit => hcovers earlier hm (Template.covers_of_fits_sample (hfresh earlier hleaf) hfit)

/-- **When an entry is shadowed.** A router picks an entry with a handler for some URL just if all
its parameters have names, no literal of it has a mark that ends a path, and no single earlier entry
with a handler covers it. -/
theorem exists_pick_iff :
    (∃ url, let segments := (Request.ofUrl url).segments
      router.pick? segments = some i ∧ router.trail segments = .hit ⟨router, segments⟩ leaf) ↔
    leaf.template.Named ∧ leaf.template.MarkFree ∧
      ∀ earlier ∈ (router.routes.take i).filterMap Entry.leaf?,
        ¬ earlier.template.Covers leaf.template := by
  constructor
  · rintro ⟨url, hpick, -⟩
    exact not_covers_of_pick? hi hpick
  · rintro ⟨hnamed, hmarks, hcovers⟩
    obtain ⟨token, hne, hs, hfree, hfresh⟩ :=
      exists_token (router.leaves.flatMap fun leaf => leaf.template.parts.map Part.text)
    have hpick := pick?_of_not_covers hi hnamed hne hs (fun other hm hl =>
      hfresh (List.mem_flatMap.mpr ⟨other, hm, List.mem_map.mpr ⟨_, hl, rfl⟩⟩)) hcovers
    have hurl : (Request.ofUrl (Path.join (leaf.template.sample token))).segments =
        leaf.template.sample token :=
      (leaf.template.isFilling_replicate hne hs).segments_ofUrl hmarks fun value hv => by
        rwa [List.eq_of_mem_replicate hv]
    refine ⟨Path.join (leaf.template.sample token), ?_⟩
    rw [hurl]
    exact ⟨hpick, trail_of_pick? hi hpick⟩

end

/-- Behind `users/:id` an entry at `users/new` is never picked, and one at `:kind/new` sometimes. -/
theorem exists_pick_new :
    let view : Handler := .view ⟨"View"⟩
    let fixed : Entry Handler := ⟨.ofFormat "users/new", view, {}⟩
    let any : Entry Handler := ⟨.ofFormat ":kind/new/", view, {}⟩
    let router : Router := .ofRoutes [⟨.ofFormat "users/:id", .handler view, {}⟩, fixed.toRoute,
      ⟨.ofFormat ":kind", .mount ⟨0, .empty⟩, {}⟩, any.toRoute]
    (¬ ∃ url, let segments := (Request.ofUrl url).segments
      router.pick? segments = some 1 ∧ router.trail segments = .hit ⟨router, segments⟩ fixed) ∧
    ∃ url, let segments := (Request.ofUrl url).segments
      router.pick? segments = some 3 ∧ router.trail segments = .hit ⟨router, segments⟩ any := by
  intro view fixed any router
  constructor
  · rw [@exists_pick_iff router 1 fixed rfl]
    decide
  · rw [@exists_pick_iff router 3 any rfl]
    decide

end Router

end UrlRouting
