import UrlRouting.Proofs.Segments
import UrlRouting.Request

/-! # Requests of URLs

The path of a URL ends at its first `?` or `#`, and what follows decides the query alone.

* `Request.ofUrl_append`: a text without these marks in front of a URL goes to its path.
* `Request.regular_segments`: what a router sees first is regular.
* `Request.markFree_of_mem_segments`, `Request.segments_ofUrl_join`: the segments of URLs are those
  without marks. -/

namespace UrlRouting

open Url

namespace Request

/-- A text without the marks that end the path of a URL. -/
def MarkFree (text : String) : Prop := '?' ∉ text.toList ∧ '#' ∉ text.toList

instance (text : String) : Decidable (MarkFree text) :=
  inferInstanceAs (Decidable ('?' ∉ text.toList ∧ '#' ∉ text.toList))

/-- The end of a URL from its query or its fragment on, or an empty one. -/
def IsTail (text : String) : Prop :=
  text = "" ∨ text.toList.head? = some '?' ∨ text.toList.head? = some '#'

instance (text : String) : Decidable (IsTail text) :=
  inferInstanceAs (Decidable (text = "" ∨ _ ∨ _))

/-- The end of a URL from its fragment on, or an empty one. -/
def IsFragment (text : String) : Prop := text = "" ∨ text.toList.head? = some '#'

instance (text : String) : Decidable (IsFragment text) :=
  inferInstanceAs (Decidable (text = "" ∨ _))

theorem MarkFree.append {a b : String} (ha : MarkFree a) (hb : MarkFree b) :
    MarkFree (a ++ b) := by
  simp [MarkFree, ha.1, ha.2, hb.1, hb.2]

theorem regular_segments (request : Request) : Path.Regular request.segments :=
  Path.regular_split request.path

theorem cut_append {c : Char} {s t : List Char} (h : c ∉ s) :
    Text.cut c (s ++ t) = (s ++ (Text.cut c t).1, (Text.cut c t).2) := by
  have hs : ∀ x ∈ s, (x != c) = true := fun x hx => by
    rw [bne_iff_ne]; rintro rfl; exact h hx
  rw [Text.cut, List.takeWhile_append_of_pos hs, List.dropWhile_append_of_pos hs]
  rfl

/-- **A text without marks in front of a URL** goes to its path and leaves its query. -/
theorem ofUrl_append {front : String} (h : MarkFree front) (url : String) :
    ofUrl (front ++ url) = ⟨front ++ (ofUrl url).path, (ofUrl url).query⟩ := by
  obtain ⟨hq, hf⟩ := h
  simp only [ofUrl, String.toList_append, cut_append hf, cut_append hq, String.ofList_append,
    String.ofList_toList]

theorem path_ofUrl_of_isTail {tail : String} (h : IsTail tail) : (ofUrl tail).path = "" := by
  rcases h with rfl | h | h
  · rfl
  · obtain ⟨rest, hrest⟩ := List.head?_eq_some_iff.mp h
    simp [ofUrl, hrest, Text.cut]
  · obtain ⟨rest, hrest⟩ := List.head?_eq_some_iff.mp h
    simp [ofUrl, hrest, Text.cut]

/-- A path without marks is the path of the URL that it makes with a query and a fragment. -/
theorem ofUrl_append_tail {path tail : String} (h : MarkFree path) (ht : IsTail tail) :
    ofUrl (path ++ tail) = ⟨path, (ofUrl tail).query⟩ := by
  rw [ofUrl_append h, path_ofUrl_of_isTail ht, String.append_empty]

/-- A path without marks is a URL, with no query. -/
theorem ofUrl_of_markFree {path : String} (h : MarkFree path) : ofUrl path = ⟨path, none⟩ := by
  have hurl := @ofUrl_append_tail path "" h (Or.inl rfl)
  rwa [String.append_empty] at hurl

theorem cut_fragment {text tail : String} (h : '#' ∉ text.toList) (ht : IsFragment tail) :
    (Text.cut '#' (text ++ tail).toList).1 = text.toList := by
  rcases ht with rfl | ht
  · rw [String.append_empty, Text.cut_of_not_mem h]
  · obtain ⟨rest, hrest⟩ := List.head?_eq_some_iff.mp ht
    rw [String.toList_append, hrest, Text.cut_append_cons h]

/-- A path and a query without the marks that end them are those of the URL that they make with a
fragment. -/
theorem ofUrl_query {path query tail : String} (hpath : MarkFree path) (hquery : '#' ∉ query.toList)
    (ht : IsFragment tail) : ofUrl (path ++ "?" ++ query ++ tail) = ⟨path, some query⟩ := by
  have hfront : '#' ∉ (path ++ "?" ++ query).toList := by simp [hpath.2, hquery]
  have hcut : Text.cut '?' (path ++ "?" ++ query).toList = (path.toList, some query.toList) := by
    simpa using Text.cut_append_cons (t := query.toList) hpath.1
  rw [ofUrl, cut_fragment hfront ht, hcut]
  simp

/-- The path of a URL stands at its front. -/
theorem exists_eq_path_append (url : String) : ∃ tail, url = (ofUrl url).path ++ tail := by
  have hfragment := List.takeWhile_prefix (l := url.toList) (· != '#')
  have hquery := List.takeWhile_prefix (l := url.toList.takeWhile (· != '#')) (· != '?')
  obtain ⟨tail, htail⟩ := hquery.trans hfragment
  refine ⟨.ofList tail, ?_⟩
  rw [← String.toList_inj]
  simpa [ofUrl, Text.cut] using htail.symm

/-! ### Segments without marks -/

theorem markFree_path_ofUrl (url : String) : MarkFree (ofUrl url).path := by
  simp only [MarkFree, ofUrl, Text.cut, String.toList_ofList]
  have hcut := List.takeWhile_prefix (l := url.toList.takeWhile (· != '#')) (· != '?')
  refine ⟨fun h => ?_, fun h => ?_⟩
  · simpa using List.mem_takeWhile_imp h
  · simpa using List.mem_takeWhile_imp (hcut.subset h)

/-- **No segment of a URL has a mark.** -/
theorem markFree_of_mem_segments {url segment : String} (h : segment ∈ (ofUrl url).segments) :
    MarkFree segment :=
  ⟨fun hq => (markFree_path_ofUrl url).1 (Path.mem_toList_of_mem_split h hq),
    fun hf => (markFree_path_ofUrl url).2 (Path.mem_toList_of_mem_split h hf)⟩

theorem markFree_join {segments : List String} (h : ∀ segment ∈ segments, MarkFree segment) :
    MarkFree (Path.join segments) := by
  refine ⟨fun hq => ?_, fun hf => ?_⟩
  · obtain hc | ⟨segment, hm, hc⟩ := Path.mem_toList_join hq
    · cases hc
    · exact (h segment hm).1 hc
  · obtain hc | ⟨segment, hm, hc⟩ := Path.mem_toList_join hf
    · cases hc
    · exact (h segment hm).2 hc

/-- **Segments without marks, joined to a URL,** are the segments of that URL. -/
theorem segments_ofUrl_join {segments : List String} (hreg : Path.Regular segments)
    (h : ∀ segment ∈ segments, MarkFree segment) :
    (ofUrl (Path.join segments)).segments = segments := by
  rw [ofUrl_of_markFree (markFree_join h), Request.segments, hreg.split_join]

end Request

end UrlRouting
