import UrlRouting.Proofs.Filling

/-! # Formats and their parts

A format says nothing but its parts and the slashes at its ends: its parts, written one after the
other with slashes between them, are the format without the slashes at its ends.

* `Part.write`: the format that some parts write.
* `Part.Readable`: the lists of parts that can be read off a format.
* `Template.parts_write_iff`, `Template.exists_parts_eq_iff`: on those lists, and on no others,
  reading undoes writing; and these are all the lists of parts that templates have.
* `Template.parts_eq_iff`: the formats that have the same parts. -/

namespace UrlRouting

open Url

/-! ### Slashes of a path -/

theorem Url.Path.length_splitOn (cs : List Char) :
    (cs.splitOn '/').length = cs.count '/' + 1 := by
  induction cs with
  | nil => simp
  | cons c cs ih =>
    rw [List.splitOn_cons_eq_if_modifyHead]
    split_ifs with hc
    · obtain rfl : c = '/' := by simpa using hc
      rw [List.length_cons, ih, List.count_cons_self]
    · rw [List.length_modifyHead, ih, List.count_cons_of_ne (by simpa using hc)]

/-- A path has one segment more than slashes, apart from those at its ends. -/
theorem Url.Path.length_split (path : String) :
    (split path).length = (trim path).toList.count '/' + 1 := by
  simp [split, trim, length_splitOn]

/-! ### Parts as texts -/

namespace Part

/-- The format that some parts write. -/
def write (parts : List Part) : String := Path.join (parts.map text)

/-- Whether a literal starts with a colon, so that its text reads as a parameter. -/
def IsMasked : Part → Prop
  | .literal text => text.toList.head? = some ':'
  | .param _ => False

instance : DecidablePred IsMasked
  | .literal text => inferInstanceAs (Decidable (text.toList.head? = some ':'))
  | .param _ => inferInstanceAs (Decidable False)

theorem text_eq_empty_iff {part : Part} : part.text = "" ↔ part = .literal "" := by
  cases part with
  | literal text => simp [Part.text]
  | param name => simp [Part.text]

/-- **A part can be read back from its text**, unless it is masked. -/
theorem ofText_text_iff {part : Part} : ofText part.text = part ↔ ¬ part.IsMasked := by
  cases part with
  | literal text =>
    rw [Part.text, ofText, IsMasked]
    split
    · next name hname => simp [hname]
    · next hcolon =>
      rw [eq_self, true_iff, List.head?_eq_some_iff]
      rintro ⟨name, hname⟩
      exact hcolon name hname
  | param name => simp [Part.text, ofText, IsMasked]

theorem not_isMasked_ofText (source : String) : ¬ (ofText source).IsMasked := by
  rw [← ofText_text_iff, text_ofText]

/-- **The lists of parts that can be read off a format.** No part has a slash in its text, and none
is masked; and if the first or the last part is the empty literal, then there is no other. -/
structure Readable (parts : List Part) : Prop where
  ne_nil : parts ≠ []
  noSlash : ∀ part ∈ parts, '/' ∉ part.text.toList
  notMasked : ∀ part ∈ parts, ¬ part.IsMasked
  ends : parts = [.literal ""] ∨
    parts.head? ≠ some (.literal "") ∧ parts.getLast? ≠ some (.literal "")

theorem map_text_eq_some_iff {part? : Option Part} :
    part?.map text = some "" ↔ part? = some (.literal "") := by
  simp [Option.map_eq_some_iff, text_eq_empty_iff]

/-- Parts are readable if their texts are the segments of a path, and none is masked. -/
theorem readable_iff {parts : List Part} :
    Readable parts ↔ Path.Regular (parts.map text) ∧ ∀ part ∈ parts, ¬ part.IsMasked := by
  have hroot : parts.map text = [""] ↔ parts = [.literal ""] := by
    simp [List.map_eq_singleton_iff, text_eq_empty_iff]
  have hhead : (parts.map text).head? = some "" ↔ parts.head? = some (.literal "") := by
    rw [List.head?_map, map_text_eq_some_iff]
  have hlast : (parts.map text).getLast? = some "" ↔ parts.getLast? = some (.literal "") := by
    rw [List.getLast?_map, map_text_eq_some_iff]
  constructor
  · intro h
    refine ⟨⟨by simpa using h.ne_nil, by simpa using h.noSlash, ?_⟩, h.notMasked⟩
    rw [hroot, Ne, Ne, hhead, hlast]
    exact h.ends
  · rintro ⟨hreg, hmasked⟩
    refine ⟨by simpa using hreg.ne_nil, by simpa using hreg.noSlash, hmasked, ?_⟩
    have hends := hreg.ends
    rwa [hroot, Ne, Ne, hhead, hlast] at hends

theorem Readable.map_ofText {parts : List Part} (h : Readable parts) :
    (parts.map text).map ofText = parts := by
  have hread : ∀ part ∈ parts, (ofText ∘ text) part = id part :=
    fun part hm => ofText_text_iff.mpr (h.notMasked part hm)
  rw [List.map_map, List.map_congr_left hread, List.map_id]

end Part

/-! ### Reading and writing -/

namespace Template

theorem write_parts (template : Template) :
    Part.write template.parts = Path.trim template.format := by
  rw [Part.write, map_text_parts, Path.join_split]

theorem parts_ofFormat (format : String) :
    (ofFormat format).parts = (Path.split format).map Part.ofText := rfl

/-- **The parts of a template are readable.** -/
theorem readable_parts (template : Template) : Part.Readable template.parts := by
  rw [Part.readable_iff, map_text_parts]
  refine ⟨Path.regular_split template.format, fun part hm => ?_⟩
  rw [template.parts_eq] at hm
  obtain ⟨source, -, rfl⟩ := List.mem_map.mp hm
  exact Part.not_isMasked_ofText source

/-- **Reading undoes writing** on readable parts, and on no others. -/
theorem parts_write_iff {parts : List Part} :
    (ofFormat (Part.write parts)).parts = parts ↔ Part.Readable parts := by
  constructor
  · intro h
    rw [← h]
    exact readable_parts _
  · intro h
    rw [parts_ofFormat, Part.write, (Part.readable_iff.mp h).1.split_join, h.map_ofText]

theorem exists_parts_eq_iff {parts : List Part} :
    (∃ format, (ofFormat format).parts = parts) ↔ Part.Readable parts := by
  constructor
  · rintro ⟨format, rfl⟩
    exact readable_parts _
  · intro h
    exact ⟨Part.write parts, parts_write_iff.mpr h⟩

theorem parts_eq_iff {format other : String} :
    (ofFormat format).parts = (ofFormat other).parts ↔ Path.trim format = Path.trim other := by
  constructor
  · intro h
    have hwrite := write_parts (ofFormat format)
    rw [h, write_parts] at hwrite
    exact hwrite.symm
  · intro h
    rw [parts_ofFormat, parts_ofFormat, ← Path.split_trim format, h, Path.split_trim]

/-- **Formats and their parts.** Writing the parts of a format gives the format without the slashes
at its ends; reading what some parts write gives these parts back just if they are readable, and
just the readable ones are the parts of a format. So two formats have the same parts just if they
differ in the slashes at their ends alone, and a format has one part more than it has slashes
elsewhere. -/
theorem write_parts_and_parts_write (format other : String) (parts : List Part) :
    Part.write (ofFormat format).parts = Path.trim format ∧
    ((ofFormat (Part.write parts)).parts = parts ↔ Part.Readable parts) ∧
    ((∃ source, (ofFormat source).parts = parts) ↔ Part.Readable parts) ∧
    ((ofFormat format).parts = (ofFormat other).parts ↔ Path.trim format = Path.trim other) ∧
    (ofFormat format).size = (Path.trim format).toList.count '/' + 1 := by
  refine ⟨write_parts _, parts_write_iff, exists_parts_eq_iff, parts_eq_iff, ?_⟩
  rw [size, parts_ofFormat, List.length_map, Path.length_split]

/-- An empty literal in the middle and a colon on its own are read as they are written; an empty
literal at the end is lost, and a literal with a colon in front comes back as a parameter. -/
example :
    let reread (parts : List Part) : List Part := (ofFormat (Part.write parts)).parts
    reread [.literal "a", .literal "", .param ""] = [.literal "a", .literal "", .param ""] ∧
    reread [.literal "a", .literal ""] = [.literal "a"] ∧
    reread [.literal ":id"] = [.param "id"] := by
  decide +kernel

end Template

end UrlRouting
