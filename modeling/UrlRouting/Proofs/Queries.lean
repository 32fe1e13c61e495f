import UrlRouting.Proofs.Encoding
import UrlRouting.Proofs.Layers

/-! # Queries item by item

A query is read one item at a time, and nothing that stands in one item has a say in another: the
query that two queries make with an ampersand between them has what the first has and then what the
second has. An item is left out on account of how it is written, since decoding makes no name empty
that was not empty before, whatever escapes it has.

* `Query.component_eq_empty_iff`: only the empty text is decoded to the empty text.
* `Query.pairs_eq`: the names and values of a query are those of its items, without the items that
  are empty or start with an equals sign.
* `Request.pairs_of_joined_queries`: two queries in one. -/

namespace UrlRouting.Url

/-! ### Decoding to nothing -/

theorem Percent.decode_eq_nil_iff {octets : List UInt8} : decode octets = [] ↔ octets = [] := by
  fun_cases decode octets with
  | case1 a b c rest octet h => simp
  | case2 a b c rest h => simp
  | case3 short hshort => exact Iff.rfl

namespace Query

theorem octets_ne_nil {cs : List Char} (h : cs ≠ []) : octets cs ≠ [] := by
  obtain ⟨c, rest, rfl⟩ := List.exists_cons_of_ne_nil h
  simp [octets]

theorem eq_nil_of_fromUTF8? {octets : List UInt8}
    (h : String.fromUTF8? octets.toByteArray = some "") : octets = [] := by
  rw [String.fromUTF8?] at h
  split at h
  · have hbytes := congrArg String.toByteArray (Option.some.inj h)
    simpa [String.fromUTF8] using hbytes
  · cases h

/-- **Only the empty text is decoded to the empty text**, be the escapes of the text good or broken,
and be its octets a text or not. -/
theorem component_eq_empty_iff {raw : List Char} : component raw = "" ↔ raw = [] := by
  refine ⟨fun h => ?_, by rintro rfl; rfl⟩
  by_contra hraw
  have hspaced : unplus raw ≠ [] := by simpa [unplus] using hraw
  have hdecoded : Percent.decode (octets (unplus raw)) ≠ [] :=
    mt Percent.decode_eq_nil_iff.mp (octets_ne_nil hspaced)
  have hcomponent : component raw =
      (String.fromUTF8? (Percent.decode (octets (unplus raw))).toByteArray).getD
        (.ofList (unplus raw)) := rfl
  rw [hcomponent] at h
  cases hread : String.fromUTF8? (Percent.decode (octets (unplus raw))).toByteArray with
  | some text =>
    rw [hread, Option.getD_some] at h
    rw [h] at hread
    exact hdecoded (eq_nil_of_fromUTF8? hread)
  | none =>
    -- The octets are no text, so that the escapes stay as they are written.
    rw [hread, Option.getD_none] at h
    exact hspaced (by simpa using h)

/-! ### Items -/

/-- What stands between the ampersands of a query. -/
def items (query : String) : List (List Char) := query.toList.splitOn '&'

/-- Whether an item counts: it is not empty and does not start with an equals sign. -/
def Counts (item : List Char) : Prop := item ≠ [] ∧ item.head? ≠ some '='

instance (item : List Char) : Decidable (Counts item) := inferInstanceAs (Decidable (_ ∧ _))

/-- What stands in an item before its first equals sign and what stands after it, each decoded by
itself. -/
def read (item : List Char) : String × String :=
  (component (item.takeWhile (· != '=')), component (item.dropWhile (· != '=')).tail)

theorem counts_iff {item : List Char} : Counts item ↔ item.takeWhile (· != '=') ≠ [] := by
  cases item with
  | nil => simp [Counts]
  | cons c item => by_cases h : c = '=' <;> simp [Counts, h]

/-- **Which items are read** can be told before anything is decoded. -/
theorem pair?_eq (item : List Char) :
    pair? item = if Counts item then some (read item) else none := by
  have hvalue : (item.dropWhile (· != '=')).tail?.getD [] =
      (item.dropWhile (· != '=')).tail := by
    cases item.dropWhile (· != '=') <;> rfl
  rw [pair?, Text.cut]
  simp only [component_eq_empty_iff, hvalue]
  by_cases h : item.takeWhile (· != '=') = []
  · rw [if_pos h, if_neg (by rw [counts_iff]; exact not_not.mpr h)]
  · rw [if_neg h, if_pos (counts_iff.mpr h), read]

/-- **The names and values of a query** are those of the items that count. -/
theorem pairs_eq (query : String) :
    pairs query = ((items query).filter fun item => Counts item).map read := by
  rw [pairs, ← items]
  induction items query with
  | nil => rfl
  | cons item rest ih =>
    rw [List.filterMap_cons, pair?_eq, ih, List.filter_cons]
    by_cases h : Counts item
    · rw [if_pos h, if_pos (decide_eq_true h)]
      rfl
    · rw [if_neg h, if_neg (by simpa using h)]

theorem items_append (front back : String) :
    items (front ++ "&" ++ back) = items front ++ items back := by
  rw [items, items, items, ← List.splitOn_append_cons_self]
  simp

/-- What stands in one item has no say in another. -/
theorem pairs_append (front back : String) :
    pairs (front ++ "&" ++ back) = pairs front ++ pairs back := by
  rw [pairs_eq, items_append, List.filter_append, List.map_append, ← pairs_eq, ← pairs_eq]

end Query

end UrlRouting.Url

namespace UrlRouting.Request

open Url

/-- The names and values of a request are those of the items of its query that count. -/
theorem pairs_eq_items (request : Request) :
    request.pairs = ((request.query.toList.flatMap Query.items).filter fun item =>
      Query.Counts item).map Query.read := by
  obtain ⟨path, query | query⟩ := request
  · rfl
  · simpa [Request.pairs] using Query.pairs_eq query

theorem parameters_of_pairs_append {whole front back : Request}
    (h : whole.pairs = front.pairs ++ back.pairs) :
    whole.parameters = .overlay [front.parameters, back.parameters] := by
  rw [Request.parameters, h, Parameters.ofTexts_append]
  simp [Parameters.overlay_cons, Request.parameters]

theorem queried?_of_pairs_append {whole front back : Request}
    (h : whole.pairs = front.pairs ++ back.pairs) (name : String) :
    whole.queried? name = (back.queried? name).or (front.queried? name) := by
  simp [queried?, h, Option.map_or]

/-- **Two queries in one.** With an ampersand between them they have the names and values of the
first and then those of the second, and what they set is what the first sets under what the second
sets: of the items with one name, however it is spelt in each, the last one counts. Of every query
those items are read, in order, that are not empty and do not start with an equals sign, each name
and each value by itself; for no name becomes empty by being decoded. -/
theorem pairs_of_joined_queries {path front back tail : String} (hpath : MarkFree path)
    (hfront : '#' ∉ front.toList) (hback : '#' ∉ back.toList) (htail : IsFragment tail) :
    let asked (query : String) : Request := ofUrl (path ++ "?" ++ query ++ tail)
    let whole := asked (front ++ "&" ++ back)
    whole.pairs = (asked front).pairs ++ (asked back).pairs ∧
    whole.parameters = .overlay [(asked front).parameters, (asked back).parameters] ∧
    (∀ name, whole.parameters[name]? =
      ((asked back).queried? name).or ((asked front).queried? name)) ∧
    (∀ request : Request, request.pairs = ((request.query.toList.flatMap Query.items).filter
      fun item => Query.Counts item).map Query.read) ∧
    ∀ raw, Query.component raw = "" ↔ raw = [] := by
  intro asked whole
  have hasked : ∀ query : String, '#' ∉ query.toList → asked query = ⟨path, some query⟩ :=
    fun query hquery => ofUrl_query hpath hquery htail
  have hwhole : whole = ⟨path, some (front ++ "&" ++ back)⟩ :=
    hasked _ (by simp [hfront, hback])
  have hpairs : whole.pairs = (asked front).pairs ++ (asked back).pairs := by
    rw [hwhole, hasked front hfront, hasked back hback]
    exact Query.pairs_append front back
  refine ⟨hpairs, parameters_of_pairs_append hpairs, fun name => ?_, pairs_eq_items,
    fun raw => Query.component_eq_empty_iff⟩
  rw [getElem?_parameters, queried?_of_pairs_append hpairs]

/-- A name spelt in two ways, broken escapes, octets that are no text, and an item without a name. -/
theorem pairs_of_two_spellings :
    let whole := ofUrl "find?a=1&%&%61=2&=x&%ff+=%zz#top"
    let front := ofUrl "find?a=1&%#top"
    let back := ofUrl "find?%61=2&=x&%ff+=%zz#top"
    (whole.pairs = front.pairs ++ back.pairs ∧
      whole.parameters = .overlay [front.parameters, back.parameters]) ∧
    whole.pairs = [("a", "1"), ("%", ""), ("a", "2"), ("%ff ", "%zz")] ∧
    whole.parameters["a"]? = some (.string "2") := by
  intro whole front back
  obtain ⟨hpairs, hparameters, hvalue, hitems, -⟩ := @pairs_of_joined_queries "find" "a=1&%"
    "%61=2&=x&%ff+=%zz" "#top" (by decide) (by decide) (by decide) (by decide)
  refine ⟨⟨hpairs, hparameters⟩, (hitems whole).trans (by decide +kernel), ?_⟩
  exact (hvalue "a").trans (by decide +kernel)

end UrlRouting.Request
