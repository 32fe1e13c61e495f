import UrlRouting.Proofs.Layers
import UrlRouting.Proofs.Requests

/-! # Mounted routers

A router that hands a request down to a mounted one resolves it as the mounted router resolves the
rest of the URL on its own. Only the names that the mount binds, and those of its default
parameters, can have other values.

* `Layers.AgreeOn`, `Resolution.AlikeOn`: agreement on some names.
* `Trail.resolution?_alikeOn`: a trail carries agreement from its layers to what it resolves to.
* `Router.trail_of_leads`: when a router commits to a mount.
* `Router.resolve_mount`: a mount is transparent. -/

namespace UrlRouting

open Url

/-! ### Agreement on some names -/

/-- Layers with the same values at the names in question. -/
structure Layers.AgreeOn (seen : String → Prop) (a b : Layers) : Prop where
  defaults : ∀ name, seen name → a.defaults[name]? = b.defaults[name]?
  query : ∀ name, seen name → a.query[name]? = b.query[name]?
  bindings : ∀ name, seen name → a.bindings[name]? = b.bindings[name]?

/-- The same but for the parameters, and the same parameters at the names in question. -/
structure Resolution.AlikeOn (seen : String → Prop) (a b : Resolution) : Prop where
  handler : a.handler = b.handler
  params : ∀ name, seen name → a.params[name]? = b.params[name]?
  presentation : a.presentation = b.presentation
  template : a.template = b.template

namespace Resolution

variable {seen : String → Prop} {a b : Resolution}

theorem AlikeOn.eq_of_forall (h : AlikeOn seen a b) (hseen : ∀ name, seen name) : a = b := by
  have hparams : a.params = b.params :=
    Std.ExtTreeMap.ext_getElem? fun name => h.params name (hseen name)
  obtain ⟨handler, params, presentation, template⟩ := a
  obtain ⟨handler', params', presentation', template'⟩ := b
  obtain rfl : handler = handler' := h.handler
  obtain rfl : params = params' := hparams
  obtain rfl : presentation = presentation' := h.presentation
  obtain rfl : template = template' := h.template
  rfl

/-- What is alike stays so with further parameters on top. -/
theorem AlikeOn.map_overlay {a? b? : Option Resolution} (h : Option.Rel (AlikeOn seen) a? b?)
    (extra : Parameters) :
    Option.Rel (AlikeOn seen)
      (a?.map fun found => { found with params := .overlay [found.params, extra] })
      (b?.map fun found => { found with params := .overlay [found.params, extra] }) := by
  cases h with
  | none => exact .none
  | some h =>
    refine .some ⟨h.handler, fun name hn => ?_, h.presentation, h.template⟩
    simp only [Parameters.overlay_cons, Std.ExtTreeMap.getElem?_union, h.params name hn]

end Resolution

/-- **A trail carries agreement on**: from layers that agree it resolves alike. -/
theorem Trail.resolution?_alikeOn {seen : String → Prop} {a b : Layers} (h : a.AgreeOn seen b)
    (trail : Trail) :
    Option.Rel (Resolution.AlikeOn seen) (trail.resolution? a) (trail.resolution? b) := by
  rw [resolution?_eq, resolution?_eq]
  cases trail.landing? with
  | none => exact .none
  | some leaf =>
    refine .some ⟨rfl, fun name hn => ?_, rfl, rfl⟩
    rw [getElem?_stack, getElem?_stack, h.defaults name hn, h.query name hn, h.bindings name hn]

/-! ### What a mount adds -/

namespace Template

/-- A template binds nothing but its names. -/
theorem getElem?_bindings_of_not_mem {template : Template} {name : String}
    (h : name ∉ template.names) (segments : List String) :
    (template.bindings segments)[name]? = none := by
  rw [bindings, Part.bindAll, Parameters.getElem?_ofTexts, List.findRev?_eq_find?_reverse,
    Option.map_eq_none_iff, List.find?_eq_none]
  intro pair hpair heq
  rw [List.mem_reverse, List.mem_filterMap] at hpair
  obtain ⟨⟨part, segment⟩, hzip, hbind⟩ := hpair
  obtain _ | other := part
  · cases hbind
  · by_cases ho : other = ""
    · simp [Part.binding?, ho] at hbind
    · simp only [Part.binding?, if_neg ho, Option.some.injEq] at hbind
      subst hbind
      obtain rfl : other = name := by simpa using heq
      exact h (List.mem_filterMap.mpr ⟨.param other, (List.of_mem_zip hzip).1, rfl⟩)

theorem fits_root_eq_false {template : Template} (h : ¬ Path.IsRoot template.format) :
    template.fits [""] = false := by
  rw [Bool.eq_false_iff]
  intro hfit
  obtain ⟨hlen, hall⟩ := fits_iff.mp hfit
  obtain ⟨text, htext⟩ : ∃ text, Path.split template.format = [text] := by
    rw [← List.length_eq_one_iff, ← List.length_map Part.ofText, ← template.parts_eq]
    exact hlen.symm
  have hparts := template.parts_eq
  rw [htext] at hparts
  rw [hparts] at hall
  have hpart : (Part.ofText text).fits "" = true := by simpa [Part.fitAll] using hall
  have hback := Part.text_ofText text
  cases hkind : Part.ofText text with
  | literal other =>
    rw [hkind] at hpart hback
    obtain rfl : other = "" := by simpa [Part.fits] using hpart
    obtain rfl : text = "" := hback.symm
    exact h (Path.split_eq_root_iff.mp htext)
  | param name => rw [hkind] at hpart; simp [Part.fits] at hpart

end Template

/-- What a mount hands down agrees with what it was given, but for the names that it binds and those
of its defaults. -/
theorem Layers.agreeOn_below (layers : Layers) (mount : Entry (Mount Router))
    (segments : List String) :
    (layers.below mount segments).AgreeOn
      (fun name => name ∉ mount.template.names ∧ name ∉ mount.presentation.defaults) layers where
  defaults name h := by
    have hnone : mount.presentation.defaults[name]? = none :=
      Std.ExtTreeMap.getElem?_eq_none h.2
    simp [below, Parameters.overlay_cons, Std.ExtTreeMap.getElem?_union, hnone]
  query _ _ := rfl
  bindings name h := by
    simp [below, Parameters.overlay_cons, Std.ExtTreeMap.getElem?_union,
      Template.getElem?_bindings_of_not_mem h.1]

namespace Router

theorem toOption_resolve (router : Router) (url : String) (extra : Parameters) :
    (router.resolve url extra).toOption =
      ((router.trail (Request.ofUrl url).segments).resolution?
        (.ofQuery (Request.ofUrl url).parameters)).map fun found =>
          { found with params := .overlay [found.params, extra] } := by
  rw [resolve]
  cases (router.trail (Request.ofUrl url).segments).resolution?
    (.ofQuery (Request.ofUrl url).parameters) <;> rfl

/-! ### Committing to a mount -/

/-- **A router commits to a mount** that leads on if no leaf fits and no earlier mount leads on. -/
theorem trail_of_leads {router : Router} {i : ℕ} {template : Template} {mount : Mount Router}
    {shown : Presentation} {segments : List String}
    (hi : router.routes[i]? = some ⟨template, .mount mount, shown⟩)
    (hl : template.leads segments = true)
    (hleaves : ∀ leaf ∈ router.leaves, leaf.template.fits segments = false)
    (hmounts : ∀ other ∈ (router.routes.take i).filterMap Entry.mount?,
      other.template.leads segments = false) :
    router.trail segments = .via ⟨router, segments⟩ ⟨template, mount, shown⟩
      (mount.child.trail (Path.split (template.rest segments))) := by
  have hleaf : router.leaves.find? (·.template.fits segments) = none :=
    List.find?_eq_none.mpr fun leaf hm => by simp [hleaves leaf hm]
  have hbefore : ((router.routes.take i).filterMap Entry.mount?).find?
      (·.template.leads segments) = none :=
    List.find?_eq_none.mpr fun other hm => by simp [hmounts other hm]
  have hroutes : router.routes =
      router.routes.take i ++ ⟨template, .mount mount, shown⟩ :: router.routes.drop (i + 1) := by
    obtain ⟨hlt, hget⟩ := List.getElem?_eq_some_iff.mp hi
    rw [← hget, ← List.drop_eq_getElem_cons hlt, List.take_append_drop]
  have hmount : router.mounts.find? (·.template.leads segments) =
      some ⟨template, mount, shown⟩ := by
    rw [mounts, hroutes, List.filterMap_append, List.find?_append, hbefore, Option.none_or,
      List.filterMap_cons, Entry.mount?_mount]
    exact List.find?_cons_of_pos hl
  rw [trail_eq, hleaf, hmount]

section
variable {router : Router} {i : ℕ} {template : Template} {mount : Mount Router}
  {shown : Presentation} (hi : router.routes[i]? = some ⟨template, .mount mount, shown⟩)
  (hroot : ¬ Path.IsRoot template.format) {front path : String}
  (htrim : Path.trim front = front) (hfit : template.fits (Path.split front) = true)
  (hpath : ¬ Path.IsRoot path)
  (hleaves : ∀ leaf ∈ router.leaves,
    leaf.template.fits (Path.split (front ++ "/" ++ path)) = false)
  (hmounts : ∀ other ∈ (router.routes.take i).filterMap Entry.mount?,
    other.template.leads (Path.split (front ++ "/" ++ path)) = false)
include hi hroot htrim hfit hpath hleaves hmounts

/-- The trail of a path below a mount is, from the mount on, the trail of the path alone. -/
theorem trail_mount :
    router.trail (Path.split (front ++ "/" ++ path)) =
      .via ⟨router, Path.split (front ++ "/" ++ path)⟩ ⟨template, mount, shown⟩
        (mount.child.trail (Path.split path)) := by
  have hne : front ≠ "" := by
    rintro rfl
    rw [Path.split_eq_root_iff.mpr (by simp [Path.IsRoot]),
      Template.fits_root_eq_false hroot] at hfit
    cases hfit
  have hsplit := Path.split_append_slash htrim hne hpath
  have hl : template.leads (Path.split (front ++ "/" ++ path)) = true := by
    rw [hsplit]
    exact Template.leads_append hfit (by simp [Path.split_ne_nil])
  -- The slashes in front of the path are the empty segments that the mounted router drops.
  have hrest : Path.split (template.rest (Path.split (front ++ "/" ++ path))) =
      Path.split path := by
    rw [Template.rest, hsplit, List.drop_left' (Template.fits_iff.mp hfit).1,
      Path.split_join_replicate_append]
  rw [trail_of_leads hi hl hleaves hmounts, hrest]

/-- **A mount is transparent.** A router that commits to a mount for a text in front of a path
resolves the whole as the mounted router resolves the path alone. Parameters differ at most at the
names that the mount binds and at those of its defaults, and not at all if there are none. -/
theorem resolve_mount (hfront : Request.MarkFree front) (hmarks : Request.MarkFree path)
    {tail : String} (htail : Request.IsTail tail) (extra : Parameters) :
    Option.Rel (Resolution.AlikeOn fun name => name ∉ template.names ∧ name ∉ shown.defaults)
        (router.resolve (front ++ "/" ++ path ++ tail) extra).toOption
        (mount.child.resolve (path ++ tail) extra).toOption ∧
      (template.isFixed = true → shown.defaults = ∅ →
        (router.resolve (front ++ "/" ++ path ++ tail) extra).toOption =
          (mount.child.resolve (path ++ tail) extra).toOption) := by
  have hmarks' : Request.MarkFree (front ++ "/" ++ path) :=
    (hfront.append (by decide)).append hmarks
  have hrel : Option.Rel
      (Resolution.AlikeOn fun name => name ∉ template.names ∧ name ∉ shown.defaults)
      (router.resolve (front ++ "/" ++ path ++ tail) extra).toOption
      (mount.child.resolve (path ++ tail) extra).toOption := by
    have hagree := Layers.agreeOn_below
      (.ofQuery (Request.parameters ⟨path, (Request.ofUrl tail).query⟩)) ⟨template, mount, shown⟩
      (Path.split (front ++ "/" ++ path))
    rw [toOption_resolve, toOption_resolve, Request.ofUrl_append_tail hmarks' htail,
      Request.ofUrl_append_tail hmarks htail, Request.segments, Request.segments,
      trail_mount hi hroot htrim hfit hpath hleaves hmounts]
    exact Resolution.AlikeOn.map_overlay
      ((mount.child.trail (Path.split path)).resolution?_alikeOn hagree) extra
  refine ⟨hrel, fun hfixed hempty => ?_⟩
  have hall : ∀ name, name ∉ template.names ∧ name ∉ shown.defaults := fun name => by
    rw [Template.isFixed, List.isEmpty_iff] at hfixed
    simp [hfixed, hempty]
  generalize (router.resolve (front ++ "/" ++ path ++ tail) extra).toOption = whole at hrel ⊢
  generalize (mount.child.resolve (path ++ tail) extra).toOption = alone at hrel ⊢
  cases hrel with
  | none => rfl
  | some h => rw [h.eq_of_forall hall]

end

/-- A team below `orgs/:org` is shown as the router of the teams shows it. -/
theorem resolve_team_below_org :
    let teams : Router := .ofRoutes [⟨.ofFormat "teams/:id", .handler (.view ⟨"Team"⟩), {}⟩]
    let outer : Template := .ofFormat "/orgs/:org"
    let defaults : Parameters := .ofTexts [("tab", "all")]
    let router : Router := .ofRoutes
      [⟨.ofFormat "orgs/:org", .handler (.view ⟨"Org"⟩), {}⟩,
        ⟨.ofFormat "teams", .mount ⟨0, teams⟩, {}⟩, ⟨outer, .mount ⟨1, teams⟩, { defaults }⟩]
    (teams.resolve "//teams/7/?page=2" ∅).toOption.isSome = true ∧
    Option.Rel (Resolution.AlikeOn fun name => name ∉ outer.names ∧ name ∉ defaults)
      (router.resolve "orgs/acme///teams/7/?page=2" ∅).toOption
      (teams.resolve "//teams/7/?page=2" ∅).toOption := by
  intro teams outer defaults router
  have h := @resolve_mount router 2 outer ⟨1, teams⟩ { defaults } rfl (by decide) "orgs/acme"
    "//teams/7/" (by decide) (by decide) (by decide) (by decide) (by decide) (by decide)
    (by decide) "?page=2" (by decide) ∅
  exact ⟨by decide +kernel, h.1⟩

end Router

end UrlRouting
