import UrlRouting.Parameters

/-! # Parts of a template

A part of a template stands for one segment of a path. It is either a literal, which fits its own
text and nothing else, or a parameter, written with a colon in front of its name, which fits every
segment but the empty one and binds it to its name. A colon on its own is a parameter without a
name: it fits nothing and binds nothing.

* `Part.ofText`, `Part.text`: reading a part and writing it back (`text_ofText`).
* `Part.fits`, `Part.binding?`: what one part does with one segment.
* `Part.fitAll`, `Part.bindAll`: what a list of parts does with a list of segments, position by
  position, up to the end of the shorter one. -/

namespace UrlRouting

/-- A part of a template. -/
inductive Part where
  | literal (text : String)
  | param (name : String)
  deriving DecidableEq

namespace Part

/-- The part that a text stands for. -/
def ofText (text : String) : Part :=
  match text.toList with
  | ':' :: name => .param (.ofList name)
  | _ => .literal text

/-- The text of a part. -/
def text : Part → String
  | .literal text => text
  | .param name => ":" ++ name

/-- The name of a parameter. -/
def name? : Part → Option String
  | .literal _ => none
  | .param name => some name

/-- Whether a part fits a segment. -/
def fits : Part → String → Bool
  | .literal text, segment => text == segment
  | .param name, segment => name != "" && segment != ""

/-- What a part binds a segment to. -/
def binding? : Part → String → Option (String × String)
  | .literal _, _ => none
  | .param name, segment => if name = "" then none else some (name, segment)

@[simp] theorem filterMap_name?_literal (text : String) (parts : List Part) :
    (literal text :: parts).filterMap name? = parts.filterMap name? := rfl

@[simp] theorem filterMap_name?_param (name : String) (parts : List Part) :
    (param name :: parts).filterMap name? = name :: parts.filterMap name? := rfl

@[simp] theorem text_ofText (text : String) : (ofText text).text = text := by
  unfold ofText
  split
  · next name h => rw [Part.text, ← String.toList_inj, h]; simp
  · rfl

/-! ### Lists of parts -/

/-- Whether every part fits the segment at its position. -/
def fitAll (parts : List Part) (segments : List String) : Bool :=
  (parts.zip segments).all fun (part, segment) => part.fits segment

/-- What the parts bind the segments at their positions to; the last of a repeated name stays. -/
def bindAll (parts : List Part) (segments : List String) : Parameters :=
  .ofTexts ((parts.zip segments).filterMap fun (part, segment) => part.binding? segment)

@[simp] theorem fitAll_cons (part : Part) (parts : List Part) (segment : String)
    (segments : List String) :
    fitAll (part :: parts) (segment :: segments) =
      (part.fits segment && fitAll parts segments) := by
  simp [fitAll]

theorem zip_append (front back : List Part) (segments : List String) :
    (front ++ back).zip segments =
      front.zip segments ++ back.zip (segments.drop front.length) := by
  induction front generalizing segments with
  | nil => rfl
  | cons part front ih =>
    cases segments with
    | nil => simp
    | cons segment segments => simp [ih segments]

theorem zip_take (parts : List Part) (segments : List String) :
    parts.zip (segments.take parts.length) = parts.zip segments := by
  induction parts generalizing segments with
  | nil => rfl
  | cons part parts ih =>
    cases segments with
    | nil => rfl
    | cons segment segments => simp [ih segments]

/-- Segments beyond the parts do not matter. -/
theorem fitAll_take (parts : List Part) (segments : List String) :
    fitAll parts (segments.take parts.length) = fitAll parts segments := by
  rw [fitAll, zip_take, fitAll]

theorem fitAll_append (front back : List Part) (segments : List String) :
    fitAll (front ++ back) segments =
      (fitAll front segments && fitAll back (segments.drop front.length)) := by
  simp [fitAll, zip_append]

/-- The parts further back hide those in front. -/
theorem bindAll_append (front back : List Part) (segments : List String) :
    bindAll (front ++ back) segments =
      bindAll front segments ∪ bindAll back (segments.drop front.length) := by
  simp [bindAll, zip_append, Parameters.ofTexts_append]

end Part

end UrlRouting
