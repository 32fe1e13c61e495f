import UrlRouting.Template

/-! # Merging layers

A router merges the layers of parameters that it is handed with its own before it hands them on, so
that the layers of a request are stacked up in groups, at one mount after the other. That comes to
the same as stacking them up at once: groups of layers can be merged first, and what a template
binds is what its front binds below what its back binds.

* `Parameters.overlay_flatten`: layers stacked up in groups.
* `Parameters.getElem?_overlay_eq_findRev?`: the value of a name is that of the last layer that
  holds it.
* `Part.bindAll_append_append`: what a list of parts binds in two lists of segments.
* `Template.bindings_take`: segments beyond the parts bind nothing. -/

namespace UrlRouting

namespace Parameters

/-- **Layers can be stacked up in groups.** -/
theorem overlay_flatten (groups : List (List Parameters)) :
    overlay (groups.map overlay) = overlay groups.flatten := by
  induction groups with
  | nil => rfl
  | cons group groups ih =>
    rw [List.map_cons, overlay_cons, ih, List.flatten_cons, overlay_append]

/-- **The last layer that holds a name has the say**, whatever value it holds there. -/
theorem getElem?_overlay_eq_findRev? (layers : List Parameters) (name : String) :
    (overlay layers)[name]? = (layers.findRev? (name ∈ ·)).bind (·[name]?) := by
  rw [getElem?_overlay, List.findRev?_eq_find?_reverse]
  induction layers.reverse with
  | nil => rfl
  | cons layer layers ih =>
    by_cases hmem : name ∈ layer
    · simp [hmem]
    · simpa [hmem] using ih

end Parameters

/-- **What a list of parts binds**, if the segments are cut where the parts are. -/
theorem Part.bindAll_append_append (front back : List Part) {segments others : List String}
    (h : segments.length = front.length) :
    bindAll (front ++ back) (segments ++ others) =
      .overlay [bindAll front segments, bindAll back others] := by
  have hfront : front.zip (segments ++ others) = front.zip segments := by
    rw [← zip_take, List.take_left' h]
  rw [bindAll_append, List.drop_left' h, bindAll, hfront, ← bindAll]
  simp [Parameters.overlay_cons]

/-- Segments beyond the parts bind nothing. -/
theorem Template.bindings_take (template : Template) (segments : List String) :
    template.bindings (segments.take template.size) = template.bindings segments := by
  rw [bindings, Part.bindAll, size, Part.zip_take, bindings, Part.bindAll]

/-- **The laws of merging layers.** Layers can be stacked up in groups, however they are cut; a name
has the value of the last layer that holds it, a null like any other; and a template binds in some
segments what its front binds in the first of them, below what its back binds in the others, and
nothing in those beyond its parts. -/
theorem Parameters.overlay_groups_and_bindings :
    (∀ groups : List (List Parameters), overlay (groups.map overlay) = overlay groups.flatten) ∧
    (∀ (layers : List Parameters) (name : String),
      (overlay layers)[name]? = (layers.findRev? (name ∈ ·)).bind (·[name]?)) ∧
    (∀ (template : Template) (front back : List Part) (segments others : List String),
      template.parts = front ++ back → segments.length = front.length →
      template.bindings (segments ++ others) =
        overlay [Part.bindAll front segments, Part.bindAll back others]) ∧
    ∀ (template : Template) (segments : List String),
      template.bindings segments = template.bindings (segments.take template.size) := by
  refine ⟨overlay_flatten, getElem?_overlay_eq_findRev?, ?_,
    fun template segments => (template.bindings_take segments).symm⟩
  intro template front back segments others hparts hlength
  rw [Template.bindings, hparts, Part.bindAll_append_append front back hlength]

/-- A name that is bound twice, once in front and once behind, and one that a null hides. -/
theorem Parameters.overlay_of_repeated_name :
    let template : Template := .ofFormat ":id/edit/:id"
    let layers : List Parameters := [.ofTexts [("id", "7")], .ofPairs [("id", .null)], ∅]
    template.bindings ["1", "edit", "2"] = overlay [Part.bindAll [.param "id"] ["1"],
      Part.bindAll [.literal "edit", .param "id"] ["edit", "2"]] ∧
    (overlay [Part.bindAll [.param "id"] ["1"],
      Part.bindAll [.literal "edit", .param "id"] ["edit", "2"]])["id"]? = some (.string "2") ∧
    (overlay layers)["id"]? = some .null := by
  intro template layers
  obtain ⟨-, hlast, hcut, -⟩ := Parameters.overlay_groups_and_bindings
  have hparts : template.parts = [.param "id"] ++ [.literal "edit", .param "id"] := by
    decide +kernel
  exact ⟨hcut template _ _ ["1"] ["edit", "2"] hparts rfl, (hlast _ "id").trans (by decide +kernel),
    (hlast layers "id").trans (by decide +kernel)⟩

end UrlRouting
