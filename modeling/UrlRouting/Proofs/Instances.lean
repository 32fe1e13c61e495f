import UrlRouting.Proofs.Filling
import UrlRouting.Proofs.Reordering

/-! # From an entry to a URL and back

With texts for its parameters a template makes a URL. In a router where no two entries with handlers
clash, this URL leads back to the entry that it was made from: no other entry with a handler fits
it, and mounts do not come into play, wherever they stand.

* `Router.Unambiguous`: no two entries with handlers clash.
* `Unambiguous.find?_leaves`: an entry that fits some segments is the one that is found for them.
* `Router.resolve_fill`: a URL made from an entry resolves to that entry, and the parameters are the
  defaults of the entry under the texts that were put in. -/

namespace UrlRouting

open Url

namespace Router

/-- Whether no two of the entries with handlers clash. -/
def Unambiguous (router : Router) : Prop :=
  router.leaves.Pairwise fun a b => ¬ a.template.Clashes b.template

instance (router : Router) : Decidable router.Unambiguous :=
  inferInstanceAs (Decidable (List.Pairwise _ _))

variable {router : Router} {leaf : Entry Handler}

/-- **The entry that fits is the one that is found**, if it clashes with none before it. -/
theorem Unambiguous.find?_leaves (h : router.Unambiguous) (hl : leaf ∈ router.leaves)
    {segments : List String} (hfit : leaf.template.fits segments = true) :
    router.leaves.find? (·.template.fits segments) = some leaf := by
  obtain ⟨front, back, hleaves⟩ := List.append_of_mem hl
  rw [Unambiguous, hleaves, List.pairwise_append] at h
  obtain ⟨-, -, hfront⟩ := h
  refine List.find?_eq_some_iff_append.mpr ⟨hfit, front, back, hleaves, fun earlier hm => ?_⟩
  rw [Bool.not_eq_true', Bool.eq_false_iff]
  -- An earlier entry that fits the same segments would clash with this one.
  intro hfit'
  exact hfront earlier hm leaf (by simp) (Template.clashes_of_fits hfit' hfit)

theorem Unambiguous.trail_eq_hit (h : router.Unambiguous) (hl : leaf ∈ router.leaves)
    {segments : List String} (hfit : leaf.template.fits segments = true) :
    router.trail segments = .hit ⟨router, segments⟩ leaf := by
  rw [trail_eq, h.find?_leaves hl hfit]

/-- **A URL made from an entry leads back to it.** If no two entries with handlers clash, and an
entry has names for all its parameters and no literal with a mark that ends a path, then the URL
that it makes with texts for its parameters, without slashes and such marks, resolves to that entry.
A name has the text at its last position, else its default, and no other name has a value. -/
theorem resolve_fill (h : router.Unambiguous) (hl : leaf ∈ router.leaves)
    (hnamed : leaf.template.Named) (hmarks : leaf.template.MarkFree) {values : List String}
    (hv : leaf.template.IsFilling values) (hvalues : ∀ value ∈ values, Request.MarkFree value) :
    ∃ found, router.resolve (Path.join (leaf.template.fill values)) ∅ = .ok found ∧
      found.handler = leaf.target ∧ found.presentation = leaf.presentation ∧
      found.template = leaf.template ∧
      ∀ name, found.params[name]? =
        (((leaf.template.names.zip values).findRev? (·.1 == name)).map fun pair =>
          .string pair.2).or leaf.presentation.defaults[name]? := by
  have hfree := Request.markFree_join (Template.markFree_of_mem_fill hmarks hvalues)
  have hquery : (Request.ofUrl (Path.join (leaf.template.fill values))).parameters = ∅ := by
    rw [Request.ofUrl_of_markFree hfree]; rfl
  have hsegments := hv.segments_ofUrl hmarks hvalues
  have htrail := h.trail_eq_hit hl (hv.fits_fill hnamed)
  have hbindings : leaf.template.bindings (leaf.template.fill values) =
      .ofTexts (leaf.template.names.zip values) := Part.bindAll_fill hv.length_eq hnamed
  rw [resolve, hsegments, hquery, htrail]
  refine ⟨_, rfl, rfl, rfl, rfl, fun name => ?_⟩
  calc (Parameters.overlay [(Layers.ofQuery ∅).params leaf (leaf.template.fill values), ∅])[name]?
    _ = (leaf.presentation.defaults ∪
          .ofTexts (leaf.template.names.zip values) : Parameters)[name]? := by
        simp [Layers.params, Layers.ofQuery, Parameters.overlay_cons, hbindings]
    _ = _ := by rw [Std.ExtTreeMap.getElem?_union, Parameters.getElem?_ofTexts]

/-- A mount in front that fits the URL does not get it, and of two texts for one name the second
stays. -/
theorem resolve_fill_repeated_name :
    let shown : Presentation := { defaults := .ofTexts [("tab", "all"), ("id", "0")] }
    let leaf : Entry Handler := ⟨.ofFormat "teams/:id/:id/", .view ⟨"Team"⟩, shown⟩
    let router : Router := .ofRoutes [⟨.ofFormat ":kind", .mount ⟨0, .empty⟩, {}⟩,
      ⟨.ofFormat "teams/:", .handler (.callback ⟨0⟩), {}⟩,
      ⟨.ofFormat "teams/:id", .handler (.view ⟨"Teams"⟩), {}⟩, leaf.toRoute,
      ⟨.ofFormat "users/:id", .handler (.callback ⟨1⟩), {}⟩]
    router.Unambiguous ∧ leaf ∈ router.leaves ∧ leaf.template.IsFilling ["1", ":2=é"] ∧
    ∃ found, router.resolve "teams/1/:2=é" ∅ = .ok found ∧ found.handler = leaf.target ∧
      found.params["id"]? = some (.string ":2=é") ∧
      found.params["tab"]? = some (.string "all") := by
  intro shown leaf router
  have hclear : router.Unambiguous := by decide
  have hl : leaf ∈ router.leaves := by simp [router, leaves, leaf, Entry.toRoute]
  have hv : leaf.template.IsFilling ["1", ":2=é"] := ⟨by decide, by decide, by decide⟩
  obtain ⟨found, hfound, hhandler, -, -, hparams⟩ :=
    resolve_fill hclear hl (by decide) (by decide) hv (by decide)
  have hurl : Path.join (leaf.template.fill ["1", ":2=é"]) = "teams/1/:2=é" := by decide
  rw [hurl] at hfound
  refine ⟨hclear, hl, hv, found, hfound, hhandler, ?_, ?_⟩
  · rw [hparams]; decide +kernel
  · rw [hparams]; decide +kernel

end Router

end UrlRouting
