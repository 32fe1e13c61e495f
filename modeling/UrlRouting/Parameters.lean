import Std.Data.ExtTreeMap
import UrlRouting.Value

/-! # Parameters

Parameters are a finite map from names to values; two of them are equal as soon as they hold the
same value at every name. They come in layers, the weakest first: `Parameters.overlay` stacks them,
and `getElem?_overlay` says that a name has the value of the last layer that holds it. A null is a
value like any other: it hides what lies below. -/

namespace UrlRouting

/-- Values by name. -/
abbrev Parameters := Std.ExtTreeMap String Value compare

namespace Parameters

/-- The parameters of the listed names; the last value of a repeated name stays. -/
def ofPairs (pairs : List (String × Value)) : Parameters := .ofList pairs compare

/-- The parameters of the listed names, all with texts for values. -/
def ofTexts (pairs : List (String × String)) : Parameters :=
  ofPairs (pairs.map fun (name, text) => (name, .string text))

/-- The layers stacked up, the first at the bottom. -/
def overlay (layers : List Parameters) : Parameters := layers.foldl (· ∪ ·) ∅

/-! ### Pairs -/

theorem getElem?_ofPairs (pairs : List (String × Value)) (name : String) :
    (ofPairs pairs)[name]? = (pairs.findRev? (·.1 == name)).map (·.2) := by
  rw [ofPairs, Std.ExtTreeMap.ofList_eq_insertMany_empty, Std.ExtTreeMap.getElem?_insertMany_list]
  simp only [Std.ExtTreeMap.getElem?_empty, Option.or_none, List.findSomeRev?_eq_findSome?_reverse,
    List.findRev?_eq_find?_reverse]
  induction pairs.reverse with
  | nil => rfl
  | cons pair rest ih =>
    rw [List.findSome?_cons, List.find?_cons, ih]
    by_cases h : pair.1 = name
    · simp [h]
    · simp [h, beq_false_of_ne h]

/-- A name has the last of its texts. -/
theorem getElem?_ofTexts (pairs : List (String × String)) (name : String) :
    (ofTexts pairs)[name]? = (pairs.findRev? (·.1 == name)).map fun pair => .string pair.2 := by
  rw [ofTexts, getElem?_ofPairs]
  simp [← List.map_reverse, List.find?_map, Function.comp_def]

theorem ofTexts_append (front back : List (String × String)) :
    ofTexts (front ++ back) = ofTexts front ∪ ofTexts back := by
  refine Std.ExtTreeMap.ext_getElem? fun name => ?_
  rw [Std.ExtTreeMap.getElem?_union, getElem?_ofTexts, getElem?_ofTexts, getElem?_ofTexts]
  simp [Option.map_or]

/-! ### Layers -/

theorem union_assoc (a b c : Parameters) : a ∪ b ∪ c = a ∪ (b ∪ c) := by
  refine Std.ExtTreeMap.ext_getElem? fun name => ?_
  simp only [Std.ExtTreeMap.getElem?_union, Option.or_assoc]

@[simp] theorem empty_union (a : Parameters) : ∅ ∪ a = a := by
  refine Std.ExtTreeMap.ext_getElem? fun name => ?_
  simp [Std.ExtTreeMap.getElem?_union]

@[simp] theorem union_empty (a : Parameters) : a ∪ ∅ = a := by
  refine Std.ExtTreeMap.ext_getElem? fun name => ?_
  simp [Std.ExtTreeMap.getElem?_union]

@[simp] theorem overlay_nil : overlay [] = ∅ := rfl

theorem foldl_union (base : Parameters) (layers : List Parameters) :
    layers.foldl (· ∪ ·) base = base ∪ overlay layers := by
  induction layers generalizing base with
  | nil => simp
  | cons layer layers ih =>
    have hlayers : overlay (layer :: layers) = layer ∪ overlay layers := by
      rw [overlay, List.foldl_cons, ih, empty_union]
    rw [List.foldl_cons, ih, union_assoc, hlayers]

theorem overlay_cons (bottom : Parameters) (layers : List Parameters) :
    overlay (bottom :: layers) = bottom ∪ overlay layers := by
  rw [overlay, List.foldl_cons, foldl_union, empty_union]

theorem overlay_append (front back : List Parameters) :
    overlay (front ++ back) = overlay front ∪ overlay back := by
  induction front with
  | nil => simp
  | cons bottom front ih => rw [List.cons_append, overlay_cons, overlay_cons, ih, union_assoc]

/-- A name has the value of the last layer that holds it. -/
theorem getElem?_overlay (layers : List Parameters) (name : String) :
    (overlay layers)[name]? = layers.reverse.findSome? (·[name]?) := by
  induction layers with
  | nil => simp
  | cons bottom layers ih =>
    rw [overlay_cons, Std.ExtTreeMap.getElem?_union, ih, List.reverse_cons, List.findSome?_append]
    simp

end Parameters

end UrlRouting
