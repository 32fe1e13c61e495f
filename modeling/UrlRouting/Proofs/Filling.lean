import UrlRouting.Proofs.Selection

/-! # Filled templates

With a text for each of its parameters a template becomes a path, and the paths that it fits are
those that it becomes in this way.

* `Part.fill`, `Part.captures`: putting texts in place of the parameters, and reading them back.
* `Template.IsFilling`: the texts that may stand in place of the parameters, one for each.
* `IsFilling.regular_fill`: what a template becomes is regular, so that splitting undoes joining.
* `Template.fits_split_iff`: the language of a template, with what it binds. -/

namespace UrlRouting

open Url

/-! ### Filling parts -/

namespace Part

/-- The segments of some parts, with the texts in place of the parameters, in order; they end at the
first parameter without a text. -/
def fill : List Part → List String → List String
  | [], _ => []
  | .literal text :: parts, values => text :: fill parts values
  | .param _ :: parts, value :: values => value :: fill parts values
  | .param _ :: _, [] => []

/-- The segments at the positions of parameters. -/
def captures : List Part → List String → List String
  | .literal _ :: parts, _ :: segments => captures parts segments
  | .param _ :: parts, segment :: segments => segment :: captures parts segments
  | _, _ => []

theorem mem_fill {parts : List Part} {values : List String} {segment : String}
    (h : segment ∈ fill parts values) : segment ∈ values ∨ .literal segment ∈ parts := by
  induction parts, values using fill.induct with
  | case1 values => simp [fill] at h
  | case2 text parts values ih =>
    rcases List.mem_cons.mp h with rfl | h
    · exact Or.inr (by simp)
    · exact (ih h).imp id (List.mem_cons_of_mem _)
  | case3 name parts value values ih =>
    rcases List.mem_cons.mp h with rfl | h
    · exact Or.inl (by simp)
    · exact (ih h).imp (List.mem_cons_of_mem _) (List.mem_cons_of_mem _)
  | case4 name parts => simp [fill] at h

section
variable {parts : List Part} {values : List String}
  (hlen : values.length = (parts.filterMap name?).length)
include hlen

/-- The texts can be read back. -/
theorem captures_fill : captures parts (fill parts values) = values := by
  induction parts, values using fill.induct with
  | case1 values => simpa [fill, captures, eq_comm] using hlen
  | case2 text parts values ih => simpa [fill, captures] using ih (by simpa using hlen)
  | case3 name parts value values ih => simpa [fill, captures] using ih (by simpa using hlen)
  | case4 name parts => simp at hlen

/-- Parts fit what they are filled to if each parameter has a name and each text is not empty. -/
theorem fitEach_fill (hnames : ∀ name ∈ parts.filterMap name?, name ≠ "")
    (hvalues : ∀ value ∈ values, value ≠ "") : FitEach parts (fill parts values) := by
  induction parts, values using fill.induct with
  | case1 values => exact .nil
  | case2 text parts values ih =>
    exact .cons (by simp [fits])
      (ih (by simpa using hlen) (by simpa using hnames) hvalues)
  | case3 name parts value values ih =>
    simp only [filterMap_name?_param, List.forall_mem_cons] at hnames hvalues
    exact .cons (by simp [fits, hnames.1, hvalues.1])
      (ih (by simpa using hlen) hnames.2 hvalues.2)
  | case4 name parts => simp at hlen

/-- A segment is empty where the part is a literal with an empty text. -/
theorem map_isEmpty_fill (hvalues : ∀ value ∈ values, value ≠ "") :
    (fill parts values).map (· == "") = (parts.map text).map (· == "") := by
  induction parts, values using fill.induct with
  | case1 values => rfl
  | case2 text parts values ih =>
    simpa [fill, Part.text] using ih (by simpa using hlen) hvalues
  | case3 name parts value values ih =>
    simp only [List.forall_mem_cons] at hvalues
    simpa [fill, Part.text, hvalues.1] using ih (by simpa using hlen) hvalues.2
  | case4 name parts => simp at hlen

/-- What filled parts bind are their names, each with its text. -/
theorem bindAll_fill (hnames : ∀ name ∈ parts.filterMap name?, name ≠ "") :
    bindAll parts (fill parts values) = .ofTexts ((parts.filterMap name?).zip values) := by
  refine congrArg Parameters.ofTexts ?_
  induction parts, values using fill.induct with
  | case1 values => rfl
  | case2 text parts values ih =>
    simpa [fill, binding?] using ih (by simpa using hlen) (by simpa using hnames)
  | case3 name parts value values ih =>
    simp only [filterMap_name?_param, List.forall_mem_cons] at hnames
    simpa [fill, binding?, name?, hnames.1] using ih (by simpa using hlen) hnames.2
  | case4 name parts => simp at hlen

end

section
variable {parts : List Part} {segments : List String} (h : FitEach parts segments)
include h

theorem name_ne_empty_of_fitEach : ∀ name ∈ parts.filterMap name?, name ≠ "" := by
  induction h with
  | nil => simp
  | @cons part segment parts segments hfit _ ih =>
    cases part with
    | literal text => simpa using ih
    | param name =>
      simp only [fits, Bool.and_eq_true, bne_iff_ne] at hfit
      simpa [hfit.1] using ih

/-- The literals are segments themselves. -/
theorem mem_of_literal_mem {text : String} (hm : .literal text ∈ parts) : text ∈ segments := by
  induction h with
  | nil => simp at hm
  | @cons part segment parts segments hfit _ ih =>
    rcases List.mem_cons.mp hm with rfl | hm
    · obtain rfl : text = segment := by simpa [fits] using hfit
      simp
    · exact List.mem_cons_of_mem _ (ih hm)

theorem length_captures : (captures parts segments).length = (parts.filterMap name?).length := by
  induction h with
  | nil => rfl
  | @cons part segment parts segments _ _ ih =>
    cases part <;> simpa [captures] using ih

/-- Parts that fit some segments are filled to them by the segments at their parameters. -/
theorem fill_captures : fill parts (captures parts segments) = segments := by
  induction h with
  | nil => rfl
  | @cons part segment parts segments hfit _ ih =>
    cases part with
    | literal text =>
      obtain rfl : text = segment := by simpa [fits] using hfit
      simpa [fill, captures] using ih
    | param name => simpa [fill, captures] using ih

theorem mem_captures {value : String} (hv : value ∈ captures parts segments) :
    value ≠ "" ∧ value ∈ segments := by
  induction h with
  | nil => simp [captures] at hv
  | @cons part segment parts segments hfit _ ih =>
    cases part with
    | literal text =>
      exact (ih (by simpa [captures] using hv)).imp id (List.mem_cons_of_mem _)
    | param name =>
      simp only [fits, Bool.and_eq_true, bne_iff_ne] at hfit
      rcases List.mem_cons.mp (by simpa [captures] using hv :
        value ∈ segment :: captures parts segments) with rfl | hv
      · exact ⟨hfit.2, by simp⟩
      · exact (ih hv).imp id (List.mem_cons_of_mem _)

end

end Part

/-! ### Filling templates -/

namespace Template

/-- Whether each parameter has a name. -/
def Named (template : Template) : Prop := ∀ name ∈ template.names, name ≠ ""

instance (template : Template) : Decidable template.Named :=
  inferInstanceAs (Decidable (∀ name ∈ template.names, name ≠ ""))

/-- Whether no literal has a mark that ends the path of a URL. -/
def MarkFree (template : Template) : Prop :=
  ∀ text, .literal text ∈ template.parts → Request.MarkFree text

instance (template : Template) : Decidable template.MarkFree :=
  decidable_of_iff (∀ part ∈ template.parts, part.name? = none → Request.MarkFree part.text) <| by
    refine ⟨fun h text hm => h (.literal text) hm rfl, fun h part hm hname => ?_⟩
    cases part with
    | literal text => exact h text hm
    | param name => cases hname

/-- **What fits segments without marks** has names for its parameters, and literals without marks. -/
theorem named_and_markFree_of_fitEach {template : Template} {segments : List String}
    (h : Part.FitEach template.parts segments)
    (hmarks : ∀ segment ∈ segments, Request.MarkFree segment) :
    template.Named ∧ template.MarkFree :=
  ⟨Part.name_ne_empty_of_fitEach h, fun _ hm => hmarks _ (Part.mem_of_literal_mem h hm)⟩

/-- The segments of a template with texts in place of its parameters. -/
def fill (template : Template) (values : List String) : List String :=
  Part.fill template.parts values

/-- Texts for the parameters of a template: one for each of them, none empty, none with a slash. -/
structure IsFilling (template : Template) (values : List String) : Prop where
  length_eq : values.length = template.names.length
  ne_empty : ∀ value ∈ values, value ≠ ""
  noSlash : ∀ value ∈ values, '/' ∉ value.toList

theorem map_text_parts (template : Template) :
    template.parts.map Part.text = Path.split template.format := by
  simp [template.parts_eq, Function.comp_def]

theorem noSlash_of_literal_mem {template : Template} {text : String}
    (h : .literal text ∈ template.parts) : '/' ∉ text.toList := by
  have hmem : text ∈ Path.split template.format := by
    rw [← template.map_text_parts]; exact List.mem_map.mpr ⟨_, h, rfl⟩
  exact (Path.regular_split template.format).noSlash text hmem

section
variable {template : Template} {values : List String} (h : template.IsFilling values)
include h

/-- **A filled template is regular.** -/
theorem IsFilling.regular_fill : Path.Regular (template.fill values) := by
  refine (Path.regular_split template.format).of_map_isEmpty ?_ fun segment hm => ?_
  · rw [← template.map_text_parts]; exact Part.map_isEmpty_fill h.length_eq h.ne_empty
  · rcases Part.mem_fill hm with hm | hm
    · exact h.noSlash segment hm
    · exact noSlash_of_literal_mem hm

theorem IsFilling.fits_fill (hnamed : template.Named) :
    template.fits (template.fill values) = true :=
  fits_iff_fitEach.mpr (Part.fitEach_fill h.length_eq hnamed h.ne_empty)

/-- The segments of a path, for a path that joins a filled template up to the slashes around it. -/
theorem IsFilling.split_eq {path : String}
    (hp : Path.join (template.fill values) = Path.trim path) :
    Path.split path = template.fill values := by
  rw [← Path.split_trim, ← hp, h.regular_fill.split_join]

end

theorem markFree_of_mem_fill {template : Template} {values : List String}
    (hmarks : template.MarkFree) (hvalues : ∀ value ∈ values, Request.MarkFree value) :
    ∀ segment ∈ template.fill values, Request.MarkFree segment := by
  intro segment hm
  rcases Part.mem_fill hm with hm | hm
  · exact hvalues segment hm
  · exact hmarks segment hm

/-- **A filled template without marks is a URL** with the same segments. -/
theorem IsFilling.segments_ofUrl {template : Template} {values : List String}
    (h : template.IsFilling values) (hmarks : template.MarkFree)
    (hvalues : ∀ value ∈ values, Request.MarkFree value) :
    (Request.ofUrl (Path.join (template.fill values))).segments = template.fill values :=
  Request.segments_ofUrl_join h.regular_fill (markFree_of_mem_fill hmarks hvalues)

/-- What a template fits can be filled in. -/
theorem exists_fill_of_fits {template : Template} {segments : List String}
    (h : template.fits segments = true) (hs : ∀ segment ∈ segments, '/' ∉ segment.toList) :
    ∃ values, template.IsFilling values ∧ template.fill values = segments := by
  have hfit := fits_iff_fitEach.mp h
  refine ⟨Part.captures template.parts segments, ⟨Part.length_captures hfit, ?_, ?_⟩,
    Part.fill_captures hfit⟩
  · exact fun value hv => (Part.mem_captures hfit hv).1
  · exact fun value hv => hs value (Part.mem_captures hfit hv).2

/-- **The language of a template.** A template fits a path just if each of its parameters has a name
and there are texts for them, not empty and without slashes, with which it becomes the path without
the slashes around it. There is only one choice of such texts, and the template binds each name to
the text at its last position and nothing else. -/
theorem fits_split_iff (template : Template) (path : String) :
    (template.fits (Path.split path) = true ↔ template.Named ∧
      ∃ values, template.IsFilling values ∧
        Path.join (template.fill values) = Path.trim path) ∧
    ∀ values, template.Named → template.IsFilling values →
      Path.join (template.fill values) = Path.trim path →
      (∀ others, template.IsFilling others →
        Path.join (template.fill others) = Path.trim path → others = values) ∧
      ∀ name, (template.bindings (Path.split path))[name]? =
        ((template.names.zip values).findRev? (·.1 == name)).map fun pair => .string pair.2 := by
  constructor
  · constructor
    · intro h
      obtain ⟨values, hv, hfill⟩ :=
        exists_fill_of_fits h (Path.regular_split path).noSlash
      refine ⟨Part.name_ne_empty_of_fitEach (fits_iff_fitEach.mp h), values, hv, ?_⟩
      rw [hfill, Path.join_split]
    · rintro ⟨hnamed, values, hv, hp⟩
      rw [hv.split_eq hp]
      exact hv.fits_fill hnamed
  · intro values hnamed hv hp
    refine ⟨fun others ho hp' => ?_, fun name => ?_⟩
    · calc others = Part.captures template.parts (template.fill others) :=
            (Part.captures_fill ho.length_eq).symm
        _ = Part.captures template.parts (template.fill values) := by
            rw [← ho.split_eq hp', hv.split_eq hp]
        _ = values := Part.captures_fill hv.length_eq
    · rw [hv.split_eq hp, bindings, fill, Part.bindAll_fill hv.length_eq hnamed]
      exact Parameters.getElem?_ofTexts _ name

/-- A colon inside a literal or a text is no parameter, and of a repeated name the last text
stays. -/
theorem fits_split_repeated_name :
    let template : Template := .ofFormat "/a:b//:x/:x/"
    template.Named ∧ template.IsFilling ["1", ":2"] ∧
    Path.join (template.fill ["1", ":2"]) = Path.trim "a:b//1/:2/" ∧
    template.fits (Path.split "a:b//1/:2/") = true ∧
    (template.bindings (Path.split "a:b//1/:2/"))["x"]? = some (.string ":2") := by
  intro template
  have hnamed : template.Named := by decide
  have hv : template.IsFilling ["1", ":2"] := ⟨by decide, by decide, by decide⟩
  have hp : Path.join (template.fill ["1", ":2"]) = Path.trim "a:b//1/:2/" := by decide
  obtain ⟨hfits, hbinds⟩ := fits_split_iff template "a:b//1/:2/"
  exact ⟨hnamed, hv, hp, hfits.mpr ⟨hnamed, _, hv, hp⟩, (hbinds _ hnamed hv hp).2 "x"⟩

end Template

end UrlRouting
