import UrlRouting.Proofs.Requests
import UrlRouting.Router.Resolve

/-! # Inlining mounts

A router that does nothing but mount another one can be replaced by a table in which every route of
the mounted router has the format of the mount put in front of its own. The routes at the root of
the mounted router have no place in it: no request reaches them through a mount.

* `Template.fits_below`, `Template.leads_below`: the longer template fits where the mount fits the
  first segments and the route the others.
* `Layers.below_below`, `Layers.params_below`: the layers of the two steps are those of the one.
* `resolve_inline`: on URLs without doubled slashes the two routers resolve alike. -/

namespace UrlRouting

open Url

/-! ### Templates below templates -/

namespace Template

/-- A template with the format of another one in front of its own. -/
def below (inner outer : Template) : Template :=
  .ofFormat (Path.trim outer.format ++ "/" ++ Path.trim inner.format)

section
variable {outer inner : Template} (ho : ¬ Path.IsRoot outer.format)
  (hi : ¬ Path.IsRoot inner.format)
include ho hi

theorem parts_below : (inner.below outer).parts = outer.parts ++ inner.parts := by
  have hsplit : Path.split (inner.below outer).format =
      Path.split outer.format ++ Path.split inner.format := Path.split_trim_append_trim ho hi
  rw [(inner.below outer).parts_eq, hsplit, List.map_append, outer.parts_eq, inner.parts_eq]

theorem size_below : (inner.below outer).size = outer.size + inner.size := by
  rw [size, parts_below ho hi, List.length_append]; rfl

theorem fitAll_below (segments : List String) :
    Part.fitAll (inner.below outer).parts segments =
      (Part.fitAll outer.parts segments &&
        Part.fitAll inner.parts (segments.drop outer.size)) := by
  rw [parts_below ho hi, Part.fitAll_append]; rfl

theorem fits_below (segments : List String) :
    (inner.below outer).fits segments =
      (outer.leads segments && inner.fits (segments.drop outer.size)) := by
  have hpos := inner.size_pos
  rw [Bool.eq_iff_iff, Bool.and_eq_true, fits_iff, leads_iff, fits_iff, size_below ho hi,
    fitAll_below ho hi, Bool.and_eq_true, List.length_drop]
  constructor
  · rintro ⟨hlen, hf, hb⟩; exact ⟨⟨by omega, hf⟩, by omega, hb⟩
  · rintro ⟨⟨hlt, hf⟩, hlen, hb⟩; exact ⟨by omega, hf, hb⟩

theorem leads_below (segments : List String) :
    (inner.below outer).leads segments =
      (outer.leads segments && inner.leads (segments.drop outer.size)) := by
  rw [Bool.eq_iff_iff, Bool.and_eq_true, leads_iff, leads_iff, leads_iff, size_below ho hi,
    fitAll_below ho hi, Bool.and_eq_true, List.length_drop]
  constructor
  · rintro ⟨hlt, hf, hb⟩; exact ⟨⟨by omega, hf⟩, by omega, hb⟩
  · rintro ⟨⟨hlt, hf⟩, hlt', hb⟩; exact ⟨by omega, hf, hb⟩

theorem bindings_below (segments : List String) :
    (inner.below outer).bindings segments =
      outer.bindings segments ∪ inner.bindings (segments.drop outer.size) := by
  rw [bindings, parts_below ho hi, Part.bindAll_append]; rfl

theorem rest_below (segments : List String) :
    (inner.below outer).rest segments = inner.rest (segments.drop outer.size) := by
  rw [rest, rest, size_below ho hi, List.drop_drop]

end

end Template

/-! ### Entries below a mount -/

/-- An entry below a mount: the format of the mount in front of its own, and its default parameters
over those of the mount. -/
def Entry.below {τ : Type} (entry : Entry τ) (mount : Entry (Mount Router)) : Entry τ where
  template := entry.template.below mount.template
  target := entry.target
  presentation := { entry.presentation with
    defaults := .overlay [mount.presentation.defaults, entry.presentation.defaults] }

theorem Entry.template_below {τ : Type} (entry : Entry τ) (mount : Entry (Mount Router)) :
    (entry.below mount).template = entry.template.below mount.template := rfl

namespace Layers

variable {outer : Entry (Mount Router)} (ho : ¬ Path.IsRoot outer.template.format)
include ho

/-- **Two mounts hand down what the longer one does.** -/
theorem below_below {inner : Entry (Mount Router)} (hi : ¬ Path.IsRoot inner.template.format)
    (layers : Layers) (segments : List String) :
    (layers.below outer segments).below inner (segments.drop outer.template.size) =
      layers.below (inner.below outer) segments := by
  simp [below, Entry.below, Template.bindings_below ho hi, Parameters.overlay_cons,
    Parameters.union_assoc]

/-- **A leaf below a mount has the parameters that the longer one has.** -/
theorem params_below {leaf : Entry Handler} (hi : ¬ Path.IsRoot leaf.template.format)
    (layers : Layers) (segments : List String) :
    (layers.below outer segments).params leaf (segments.drop outer.template.size) =
      layers.params (leaf.below outer) segments := by
  simp [params, below, Entry.below, Template.bindings_below ho hi, Parameters.overlay_cons,
    Parameters.union_assoc]

end Layers

namespace Router

/-- A router with one mount and nothing else. -/
def mounting (mount : Entry (Mount Router)) : Router :=
  .ofRoutes [⟨mount.template, .mount mount.target, mount.presentation⟩]

/-- The routes of a mounted router, each of them below the mount, without those at the root. -/
def inline (mount : Entry (Mount Router)) : Router :=
  .ofRoutes ((mount.target.child.routes.filter fun route =>
    !decide (Path.IsRoot route.template.format)).map (·.below mount))

theorem trail_mounting (mount : Entry (Mount Router)) (segments : List String) :
    (mounting mount).trail segments =
      if mount.template.leads segments then
        .via ⟨mounting mount, segments⟩ mount
          (mount.target.child.trail (Path.split (mount.template.rest segments)))
      else .miss ⟨mounting mount, segments⟩ := by
  obtain ⟨template, ⟨id, child⟩, presentation⟩ := mount
  rw [trail_eq]
  by_cases h : template.leads segments <;> simp [mounting, leaves, mounts, h]

theorem resolution?_mounting (mount : Entry (Mount Router)) (segments : List String)
    (layers : Layers) :
    ((mounting mount).trail segments).resolution? layers =
      if mount.template.leads segments then
        (mount.target.child.trail (Path.split (mount.template.rest segments))).resolution?
          (layers.below mount segments)
      else none := by
  rw [trail_mounting]
  split <;> rfl

/-- A search in the inlined router is the search in the mounted one, for leaves and mounts alike:
`f` picks the ones or the others, and `test` is how their templates are compared with segments. -/
theorem find?_inline {τ : Type} {f : Route → Option (Entry τ)}
    {test : Template → List String → Bool} {mount : Entry (Mount Router)} {segments : List String}
    (hf : ∀ route, f (route.below mount) = (f route).map (·.below mount))
    (ht : ∀ route entry, f route = some entry → entry.template = route.template)
    (hbelow : ∀ inner : Template, ¬ Path.IsRoot inner.format →
      test (inner.below mount.template) segments =
        (mount.template.leads segments && test inner (segments.drop mount.template.size)))
    (hroot : ∀ inner : Template, mount.template.leads segments = true →
      test inner (segments.drop mount.template.size) = true → ¬ Path.IsRoot inner.format) :
    ((inline mount).routes.filterMap f).find? (test ·.template segments) =
      if mount.template.leads segments then
        ((mount.target.child.routes.filterMap f).find?
          (test ·.template (segments.drop mount.template.size))).map (·.below mount)
      else none := by
  rw [inline, routes_ofRoutes]
  induction mount.target.child.routes with
  | nil => simp
  | cons route others ih =>
    rw [List.filter_cons]
    cases hroute : f route with
    | none =>
      rw [List.filterMap_cons_none hroute]
      split
      · rw [List.map_cons, List.filterMap_cons_none (by rw [hf, hroute]; rfl)]; exact ih
      · exact ih
    | some entry =>
      have htemplate := ht route entry hroute
      rw [List.filterMap_cons_some hroute]
      by_cases hr : Path.IsRoot route.template.format
      · rw [if_neg (by simpa using hr), ih]
        split
        · next hl =>
          have hmiss : test entry.template (segments.drop mount.template.size) = false :=
            Bool.eq_false_iff.mpr fun h => hroot entry.template hl h (htemplate ▸ hr)
          rw [List.find?_cons, hmiss]
        · rfl
      · have hbelow' : f (route.below mount) = some (entry.below mount) := by rw [hf, hroute]; rfl
        rw [if_pos (by simpa using hr), List.map_cons, List.filterMap_cons_some hbelow',
          List.find?_cons, List.find?_cons, Entry.template_below,
          hbelow entry.template (htemplate ▸ hr), ih]
        cases mount.template.leads segments <;>
          cases test entry.template (segments.drop mount.template.size) <;> rfl

section
variable {mount : Entry (Mount Router)} (ho : ¬ Path.IsRoot mount.template.format)
  {segments : List String}
  (hs : 2 ≤ segments.length → ∀ segment ∈ segments, segment ≠ "")
include hs

theorem drop_of_leads (hl : mount.template.leads segments = true) :
    segments.drop mount.template.size ≠ [] ∧
      (segments.drop mount.template.size).head? ≠ some "" := by
  have hpos := mount.template.size_pos
  have hlt := (Template.leads_iff.mp hl).1
  refine ⟨by simpa using hlt, fun hh => ?_⟩
  exact hs (by omega) "" (List.mem_of_mem_drop (List.mem_of_head? hh)) rfl

theorem not_isRoot_of_fitAll_drop {inner : Template}
    (hl : mount.template.leads segments = true)
    (hfit : Part.fitAll inner.parts (segments.drop mount.template.size) = true) :
    ¬ Path.IsRoot inner.format := by
  intro hi
  obtain ⟨hne, hh⟩ := drop_of_leads hs hl
  rw [Template.fitAll_of_isRoot hi hne hh] at hfit
  cases hfit

include ho

theorem find?_leaves_inline :
    (inline mount).leaves.find? (·.template.fits segments) =
      if mount.template.leads segments then
        (mount.target.child.leaves.find?
          (·.template.fits (segments.drop mount.template.size))).map (·.below mount)
      else none := by
  refine find?_inline ?_ ?_ (fun inner hi => Template.fits_below ho hi segments) ?_
  · rintro ⟨template, _ | _, presentation⟩ <;> rfl
  · exact fun _ _ => Entry.template_of_leaf?
  · intro inner hl hfit
    exact not_isRoot_of_fitAll_drop hs hl (Template.fits_iff.mp hfit).2

theorem find?_mounts_inline :
    (inline mount).mounts.find? (·.template.leads segments) =
      if mount.template.leads segments then
        (mount.target.child.mounts.find?
          (·.template.leads (segments.drop mount.template.size))).map (·.below mount)
      else none := by
  refine find?_inline ?_ ?_ (fun inner hi => Template.leads_below ho hi segments) ?_
  · rintro ⟨template, _ | _, presentation⟩ <;> rfl
  · exact fun _ _ => Entry.template_of_mount?
  · intro inner hl hlead
    exact not_isRoot_of_fitAll_drop hs hl (Template.leads_iff.mp hlead).2

end

end Router

/-- The same but for the templates and the default parameters of the leaves, and with the same
default parameters as well if a mount with the given ones adds none. -/
structure Resolution.AlikeBelow (defaults : Parameters) (a b : Resolution) : Prop where
  handler : a.handler = b.handler
  params : a.params = b.params
  presentation : { a.presentation with defaults := ∅ } = { b.presentation with defaults := ∅ }
  presentation_of_empty : defaults = ∅ → a.presentation = b.presentation

theorem Resolution.alikeBelow_leaf (leaf : Entry Handler) (mount : Entry (Mount Router))
    (params : Parameters) :
    AlikeBelow mount.presentation.defaults
      ⟨leaf.target, params, leaf.presentation, leaf.template⟩
      ⟨(leaf.below mount).target, params, (leaf.below mount).presentation,
        (leaf.below mount).template⟩ where
  handler := by simp only [Entry.below]
  params := by simp only
  presentation := by simp only [Entry.below]
  presentation_of_empty he := by simp [Entry.below, he, Parameters.overlay_cons]

theorem Resolution.rel_alikeBelow_refl (defaults : Parameters) (found? : Option Resolution) :
    Option.Rel (AlikeBelow defaults) found? found? := by
  cases found? with
  | none => exact .none
  | some found => exact .some ⟨rfl, rfl, rfl, fun _ => rfl⟩

namespace Router

section
variable {mount : Entry (Mount Router)} (ho : ¬ Path.IsRoot mount.template.format)
  {segments : List String} (hreg : Path.Regular segments)
  (hs : 2 ≤ segments.length → ∀ segment ∈ segments, segment ≠ "")
include hreg hs

theorem split_rest_of_leads (hl : mount.template.leads segments = true) :
    Path.split (mount.template.rest segments) = segments.drop mount.template.size := by
  rw [Template.split_rest hreg hl]
  obtain ⟨hne, hh⟩ := drop_of_leads hs hl
  obtain ⟨first, others, hd⟩ := List.exists_cons_of_ne_nil hne
  rw [hd] at hh ⊢
  exact List.dropWhile_cons_of_neg (by simpa using hh)

include ho

/-- **The trails of a mount and of its inlined routes** resolve alike, whatever is handed down. -/
theorem resolution?_inline (layers : Layers) :
    Option.Rel (Resolution.AlikeBelow mount.presentation.defaults)
      (((mounting mount).trail segments).resolution? layers)
      (((inline mount).trail segments).resolution? layers) := by
  rw [resolution?_mounting, trail_eq (inline mount), find?_leaves_inline ho hs,
    find?_mounts_inline ho hs]
  by_cases hl : mount.template.leads segments = true
  · rw [if_pos hl, if_pos hl, if_pos hl, split_rest_of_leads hreg hs hl, trail_eq]
    cases hleaf : mount.target.child.leaves.find?
        (·.template.fits (segments.drop mount.template.size)) with
    | some leaf =>
      have hfit : leaf.template.fits (segments.drop mount.template.size) = true := by
        simpa using List.find?_some hleaf
      have hi := not_isRoot_of_fitAll_drop hs hl (Template.fits_iff.mp hfit).2
      simp only [Option.map_some, Trail.resolution?]
      rw [Layers.params_below ho hi]
      exact .some (Resolution.alikeBelow_leaf leaf mount _)
    | none =>
      cases hmount : mount.target.child.mounts.find?
          (·.template.leads (segments.drop mount.template.size)) with
      | none => exact .none
      | some inner =>
        have hlead : inner.template.leads (segments.drop mount.template.size) = true := by
          simpa using List.find?_some hmount
        have hi := not_isRoot_of_fitAll_drop hs hl (Template.leads_iff.mp hlead).2
        -- Both go on in the router of the inner mount, with the same layers.
        simp only [Option.map_none, Option.map_some, Trail.resolution?]
        rw [Layers.below_below ho hi, Entry.template_below, Template.rest_below ho hi]
        exact Resolution.rel_alikeBelow_refl _ _
  · rw [if_neg hl, if_neg hl, if_neg hl]
    exact .none

/-- A mount below a mount is one mount with the longer format. -/
theorem resolution?_mounting_mounting {inner : Entry (Mount Router)}
    (hi : ¬ Path.IsRoot inner.template.format) (hchild : mount.target.child = mounting inner)
    (layers : Layers) :
    ((mounting mount).trail segments).resolution? layers =
      ((mounting (inner.below mount)).trail segments).resolution? layers := by
  rw [resolution?_mounting, resolution?_mounting, Entry.template_below,
    Template.leads_below ho hi, Template.rest_below ho hi, hchild]
  by_cases hl : mount.template.leads segments = true
  · rw [if_pos hl, split_rest_of_leads hreg hs hl, resolution?_mounting,
      Layers.below_below ho hi, hl, Bool.true_and]
    rfl
  · rw [if_neg hl, if_neg (by simp [hl])]

end

/-- **Inlining a mount.** On a URL whose path has no doubled slash inside, a router with one mount
and the table of the mounted routes below that mount resolve alike. So a mount below a mount is one
mount with the longer format. -/
theorem resolve_inline {mount : Entry (Mount Router)} (ho : ¬ Path.IsRoot mount.template.format)
    {url : String} (hurl : ¬ ['/', '/'] <:+: (Path.trim (Request.ofUrl url).path).toList)
    (extra : Parameters) :
    ((∃ e, (mounting mount).resolve url extra = .error e ∧
        (inline mount).resolve url extra = .error e) ∨
      ∃ a b, (mounting mount).resolve url extra = .ok a ∧
        (inline mount).resolve url extra = .ok b ∧ a.AlikeBelow mount.presentation.defaults b) ∧
    ∀ inner : Entry (Mount Router), ¬ Path.IsRoot inner.template.format →
      mount.target.child = mounting inner →
      (mounting mount).resolve url extra =
        (mounting (inner.below mount)).resolve url extra := by
  have hreg := (Request.ofUrl url).regular_segments
  have hs : 2 ≤ (Request.ofUrl url).segments.length →
      ∀ segment ∈ (Request.ofUrl url).segments, segment ≠ "" := Path.ne_empty_of_mem_split hurl
  refine ⟨?_, fun inner hi hchild => ?_⟩
  · have h := resolution?_inline ho hreg hs (.ofQuery (Request.ofUrl url).parameters)
    rw [resolve, resolve]
    generalize ((mounting mount).trail (Request.ofUrl url).segments).resolution? _ = a at h ⊢
    generalize ((inline mount).trail (Request.ofUrl url).segments).resolution? _ = b at h ⊢
    cases h with
    | none => exact Or.inl ⟨_, rfl, rfl⟩
    | some h =>
      refine Or.inr ⟨_, _, rfl, rfl, h.handler, ?_, h.presentation, h.presentation_of_empty⟩
      simp only [h.params]
  · rw [resolve, resolve, resolution?_mounting_mounting ho hreg hs hi hchild]

/-- A mount of `teams` below `orgs/:org` is a mount of `orgs/:org/teams`, without its root. -/
theorem resolve_nested_teams :
    let teams : Router := .ofRoutes
      [⟨.ofFormat "", .handler (.view ⟨"Teams"⟩), {}⟩,
        ⟨.ofFormat ":id", .handler (.view ⟨"Team"⟩), {}⟩]
    let inner : Entry (Mount Router) := ⟨.ofFormat "teams/", ⟨1, teams⟩, {}⟩
    let mount : Entry (Mount Router) :=
      ⟨.ofFormat "/orgs/:org", ⟨0, mounting inner⟩, { defaults := .ofTexts [("tab", "all")] }⟩
    (∃ a b, (mounting mount).resolve "orgs/acme/teams/7/" ∅ = .ok a ∧
      (inline mount).resolve "orgs/acme/teams/7/" ∅ = .ok b ∧
      a.AlikeBelow mount.presentation.defaults b) ∧
    (mounting mount).resolve "orgs/acme/teams/7/" ∅ =
      (mounting (inner.below mount)).resolve "orgs/acme/teams/7/" ∅ := by
  intro teams inner mount
  obtain ⟨h, hnested⟩ :=
    @resolve_inline mount (by decide) "orgs/acme/teams/7/" (by decide +kernel) ∅
  have hok : ((mounting mount).resolve "orgs/acme/teams/7/" ∅).toOption.isSome = true := by
    decide +kernel
  refine ⟨?_, hnested inner (by decide) rfl⟩
  rcases h with ⟨e, he, -⟩ | h
  · rw [he] at hok; cases hok
  · exact h

end Router

end UrlRouting
