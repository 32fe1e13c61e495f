import UrlRouting.Template.Part
import UrlRouting.Url.Path

/-! # Templates

A template is a format, such as `users/:id`, together with the parts it is made of. The parts are
read off the format as the segments of a path are, so that slashes at its ends carry no meaning, but
templates are equal only if their formats are, slash for slash.

* `Template.ofFormat`: the template of a format.
* `Template.fits`: whether a template fits some segments, part for part.
* `Template.fitsStart`, `Template.leads`: whether it fits the first of them; in the latter case at
  least one is left over, and `Template.rest` is the path of those that are.
* `Template.bindings`: the parameters that it reads off some segments. -/

namespace UrlRouting

open Url

/-- A format with its parts. -/
structure Template where
  format : String
  parts : List Part
  parts_eq : parts = (Path.split format).map Part.ofText
  deriving DecidableEq

namespace Template

/-- The template of a format. -/
def ofFormat (format : String) : Template := ⟨format, (Path.split format).map .ofText, rfl⟩

/-- The number of parts. -/
def size (template : Template) : Nat := template.parts.length

/-- The names of the parameters, in order, with repetitions and empty names. -/
def names (template : Template) : List String := template.parts.filterMap Part.name?

/-- Whether the template has no parameter. -/
def isFixed (template : Template) : Bool := template.names.isEmpty

/-- Whether the template fits the first segments. -/
def fitsStart (template : Template) (segments : List String) : Bool :=
  decide (template.size ≤ segments.length) && Part.fitAll template.parts segments

/-- Whether the template fits the segments. -/
def fits (template : Template) (segments : List String) : Bool :=
  decide (segments.length = template.size) && template.fitsStart segments

/-- Whether the template fits the first segments and leaves at least one over. -/
def leads (template : Template) (segments : List String) : Bool :=
  decide (template.size < segments.length) && template.fitsStart segments

/-- The path of the segments that the template leaves over. -/
def rest (template : Template) (segments : List String) : String :=
  Path.join (segments.drop template.size)

/-- The parameters that the template reads off the segments. -/
def bindings (template : Template) (segments : List String) : Parameters :=
  Part.bindAll template.parts segments

/-- A template has at least one part. -/
theorem size_pos (template : Template) : 0 < template.size := by
  have := Path.split_ne_nil template.format
  simp [size, template.parts_eq, List.length_pos_iff, this]

theorem fits_iff {template : Template} {segments : List String} :
    template.fits segments = true ↔
      segments.length = template.size ∧ Part.fitAll template.parts segments = true := by
  simp only [fits, fitsStart, Bool.and_eq_true, decide_eq_true_iff]
  constructor
  · rintro ⟨hlen, -, hfit⟩; exact ⟨hlen, hfit⟩
  · rintro ⟨hlen, hfit⟩; exact ⟨hlen, by omega, hfit⟩

theorem leads_iff {template : Template} {segments : List String} :
    template.leads segments = true ↔
      template.size < segments.length ∧ Part.fitAll template.parts segments = true := by
  simp only [leads, fitsStart, Bool.and_eq_true, decide_eq_true_iff]
  constructor
  · rintro ⟨hlt, -, hfit⟩; exact ⟨hlt, hfit⟩
  · rintro ⟨hlt, hfit⟩; exact ⟨hlt, by omega, hfit⟩

theorem fitsStart_of_fits {template : Template} {segments : List String}
    (h : template.fits segments = true) : template.fitsStart segments = true := by
  rw [fits, Bool.and_eq_true] at h
  exact h.2

theorem fitsStart_of_leads {template : Template} {segments : List String}
    (h : template.leads segments = true) : template.fitsStart segments = true := by
  rw [leads, Bool.and_eq_true] at h
  exact h.2

/-- A template that fits some segments leads on as soon as others follow. -/
theorem leads_append {template : Template} {front rest : List String}
    (h : template.fits front = true) (hr : rest ≠ []) : template.leads (front ++ rest) = true := by
  obtain ⟨hlen, hfit⟩ := fits_iff.mp h
  have hpos := List.length_pos_iff.mpr hr
  have htake : (front ++ rest).take template.parts.length = front := List.take_left' hlen
  rw [leads_iff, List.length_append, ← Part.fitAll_take, htake]
  exact ⟨by omega, hfit⟩

end Template

end UrlRouting
