import Mathlib.Data.List.TakeWhile
import UrlRouting.Template

/-! # Segments of paths

Which lists of segments a path can have, and what becomes of them when they are joined and split
again.

* `Regular`: slash-free segments, either the empty one alone or without an empty one at either end;
  these are the lists that `split` makes (`regular_split`), and `split` undoes `join` on them
  (`Regular.split_join`).
* `split_join_of_getLast`: of slash-free segments that do not end in an empty one, joining and
  splitting drops the empty ones in front and nothing else.
* `split_append_slash`: the segments of two paths with a slash between them.
* `Template.split_rest`: the segments of the path that a template leaves over; they are never those
  of the root (`Template.split_rest_ne_root`).
* `Template.not_isRoot_of_fitsStart`: what the template of the root does not fit. -/

namespace UrlRouting.Url.Path

/-! ### Trimmed texts -/

theorem trimChars_of_ends {cs : List Char} (hd : cs.head? ≠ some '/')
    (hl : cs.getLast? ≠ some '/') : trimChars cs = cs := by
  unfold trimChars
  rw [List.dropWhile_beq_eq_self_of_head?_ne hd, List.dropWhile_beq_eq_self_of_head?_ne
    (by rwa [List.head?_reverse]), List.reverse_reverse]

theorem getLast?_trimChars (cs : List Char) : (trimChars cs).getLast? ≠ some '/' := by
  unfold trimChars
  rw [List.getLast?_reverse]
  intro h
  have := List.head?_dropWhile_not (· == '/') (cs.dropWhile (· == '/')).reverse
  simp [h] at this

theorem trimChars_prefix (cs : List Char) : trimChars cs <+: cs.dropWhile (· == '/') := by
  unfold trimChars
  rw [← List.reverse_suffix, List.reverse_reverse]
  exact List.dropWhile_suffix _

theorem head?_trimChars (cs : List Char) : (trimChars cs).head? ≠ some '/' := by
  intro h
  obtain ⟨tail, ht⟩ := trimChars_prefix cs
  have := List.head?_dropWhile_not (· == '/') cs
  rw [← ht, List.head?_append, h] at this
  simp at this

theorem trimChars_trimChars (cs : List Char) : trimChars (trimChars cs) = trimChars cs :=
  trimChars_of_ends (head?_trimChars cs) (getLast?_trimChars cs)

@[simp] theorem trimChars_cons_slash (cs : List Char) :
    trimChars ('/' :: cs) = trimChars cs := by
  simp [trimChars]

theorem trimChars_append_replicate {cs : List Char} (hd : cs.head? ≠ some '/')
    (hl : cs.getLast? ≠ some '/') (n : ℕ) : trimChars (cs ++ List.replicate n '/') = cs := by
  rcases cs with _ | ⟨c, cs⟩
  · induction n with
    | zero => rfl
    | succ n ih => rw [List.replicate_succ, List.nil_append, trimChars_cons_slash]; exact ih
  · have hd' : (c :: cs ++ List.replicate n '/').head? ≠ some '/' := by simpa using hd
    unfold trimChars
    rw [List.dropWhile_beq_eq_self_of_head?_ne hd', List.reverse_append, List.reverse_replicate,
      List.dropWhile_append_of_pos (by simp [List.mem_replicate]),
      List.dropWhile_beq_eq_self_of_head?_ne (by rwa [List.head?_reverse]), List.reverse_reverse]

theorem takeWhile_slash (cs : List Char) :
    cs.takeWhile (· == '/') = .replicate (cs.takeWhile (· == '/')).length '/' :=
  List.eq_replicate_of_mem fun c hc => by simpa using List.mem_takeWhile_imp hc

/-- A text is its trimmed text with slashes around it. -/
theorem exists_eq_append_trimChars (cs : List Char) :
    ∃ n, cs = cs.takeWhile (· == '/') ++ trimChars cs ++ List.replicate n '/' := by
  set inner := cs.dropWhile (· == '/') with hinner
  refine ⟨(inner.reverse.takeWhile (· == '/')).length, ?_⟩
  have hback : inner =
      trimChars cs ++ List.replicate (inner.reverse.takeWhile (· == '/')).length '/' := by
    rw [← List.reverse_replicate, ← takeWhile_slash, trimChars, ← List.reverse_append,
      List.takeWhile_append_dropWhile, List.reverse_reverse]
  rw [List.append_assoc, ← hback, List.takeWhile_append_dropWhile]

theorem trimChars_eq_nil_iff {cs : List Char} : trimChars cs = [] ↔ ∀ c ∈ cs, c = '/' := by
  constructor
  · intro h c hc
    obtain ⟨n, hn⟩ := exists_eq_append_trimChars cs
    rw [h, List.append_nil, takeWhile_slash] at hn
    rw [hn, List.mem_append] at hc
    exact hc.elim List.eq_of_mem_replicate List.eq_of_mem_replicate
  · intro h
    have hnil : cs.dropWhile (· == '/') = [] :=
      List.dropWhile_eq_nil_iff.mpr fun c hc => by simp [h c hc]
    simp [trimChars, hnil]

/-! ### Joining -/

theorem join_cons (segment : String) {segments : List String} (h : segments ≠ []) :
    join (segment :: segments) = segment ++ "/" ++ join segments :=
  String.intercalate_cons_of_ne_nil h

theorem join_append {front back : List String} (hf : front ≠ []) (hb : back ≠ []) :
    join (front ++ back) = join front ++ "/" ++ join back :=
  String.intercalate_append_of_ne_nil hf hb

theorem toList_join (segments : List String) :
    (join segments).toList = ['/'].intercalate (segments.map String.toList) := by
  simp [join]

/-- The characters of a joined text are those of its segments, and slashes. -/
theorem mem_toList_join {segments : List String} {c : Char} (h : c ∈ (join segments).toList) :
    c = '/' ∨ ∃ segment ∈ segments, c ∈ segment.toList := by
  induction segments with
  | nil => simp [join] at h
  | cons segment segments ih =>
    by_cases hs : segments = []
    · subst hs; exact Or.inr ⟨segment, by simp, by simpa [join] using h⟩
    · rw [join_cons _ hs] at h
      simp only [String.toList_append, List.mem_append] at h
      rcases h with (h | h) | h
      · exact Or.inr ⟨segment, by simp, h⟩
      · exact Or.inl (by simpa using h)
      · rcases ih h with hc | ⟨other, hm, hc⟩
        · exact Or.inl hc
        · exact Or.inr ⟨other, by simp [hm], hc⟩

theorem mem_toList_join_of_mem {segments : List String} {segment : String}
    (hm : segment ∈ segments) {c : Char} (hc : c ∈ segment.toList) :
    c ∈ (join segments).toList := by
  induction segments with
  | nil => simp at hm
  | cons first rest ih =>
    by_cases hr : rest = []
    · subst hr; obtain rfl := List.mem_singleton.mp hm; simpa [join] using hc
    · rw [join_cons _ hr]
      rcases List.mem_cons.mp hm with rfl | hm
      · simp [hc]
      · simp [ih hm]

theorem head?_join {segment : String} (hne : segment ≠ "") (segments : List String) :
    (join (segment :: segments)).toList.head? = segment.toList.head? := by
  have hne' : segment.toList ≠ [] := by simpa using hne
  obtain ⟨c, cs, hc⟩ := List.exists_cons_of_ne_nil hne'
  by_cases h : segments = []
  · subst h; simp [join]
  · rw [join_cons _ h]; simp [hc]

theorem getLast?_join (segments : List String) {segment : String} (hne : segment ≠ "") :
    (join (segments ++ [segment])).toList.getLast? = segment.toList.getLast? := by
  have hne' : segment.toList ≠ [] := by simpa using hne
  obtain ⟨c, cs, hc⟩ := List.exists_cons_of_ne_nil hne'
  by_cases h : segments = []
  · subst h; simp [join]
  · rw [join_append h (by simp)]
    simp [join, hc, List.getLast?_append, List.getLast?_eq_some_getLast (List.cons_ne_nil c cs)]

/-! ### Splitting -/

theorem slash_not_mem_of_mem_splitOn :
    ∀ {cs segment : List Char}, segment ∈ cs.splitOn '/' → '/' ∉ segment
  | [], segment, h => by simp at h; simp [h]
  | c :: cs, segment, h => by
    rw [List.splitOn_cons_eq_if_modifyHead] at h
    obtain ⟨first, others, hs⟩ := List.exists_cons_of_ne_nil (List.splitOn_ne_nil '/' cs)
    have ih : ∀ s ∈ first :: others, '/' ∉ s := fun s hm => slash_not_mem_of_mem_splitOn (hs ▸ hm)
    split_ifs at h with hc
    · rcases List.mem_cons.mp h with rfl | h
      · simp
      · exact ih segment (hs ▸ h)
    · rw [hs, List.modifyHead_cons] at h
      rcases List.mem_cons.mp h with rfl | h
      · rw [List.mem_cons, not_or]
        exact ⟨fun he => hc (by simp [he.symm]), ih first (by simp)⟩
      · exact ih segment (by simp [h])

/-- The lists of segments that a path can have. -/
structure Regular (segments : List String) : Prop where
  ne_nil : segments ≠ []
  noSlash : ∀ segment ∈ segments, '/' ∉ segment.toList
  ends : segments = [""] ∨ segments.head? ≠ some "" ∧ segments.getLast? ≠ some ""

/-- **The segments of a path are regular.** -/
theorem regular_split (path : String) : Regular (split path) where
  ne_nil := split_ne_nil path
  noSlash segment h := by
    obtain ⟨cs, hcs, rfl⟩ := List.mem_map.mp h
    simpa using slash_not_mem_of_mem_splitOn hcs
  ends := by
    have htrim : (join (split path)).toList = trimChars path.toList := by
      rw [join_split, trim, String.toList_ofList]
    -- An empty segment at an end would leave a slash at that end of the trimmed text.
    rw [or_iff_not_imp_left]
    refine fun hroot => ⟨fun hh => ?_, fun hl => ?_⟩
    · obtain ⟨rest, hrest⟩ := List.head?_eq_some_iff.mp hh
      have hne : rest ≠ [] := by rintro rfl; exact hroot hrest
      rw [hrest, join_cons _ hne] at htrim
      exact head?_trimChars path.toList (by rw [← htrim]; simp)
    · obtain ⟨front, hfront⟩ := List.getLast?_eq_some_iff.mp hl
      have hne : front ≠ [] := by rintro rfl; exact hroot hfront
      rw [hfront, join_append hne (by simp)] at htrim
      exact getLast?_trimChars path.toList (by rw [← htrim]; simp [join])

theorem splitOn_toList_join {segments : List String} (hne : segments ≠ [])
    (hs : ∀ segment ∈ segments, '/' ∉ segment.toList) :
    ((join segments).toList.splitOn '/').map String.ofList = segments := by
  rw [toList_join, List.splitOn_intercalate '/' (by simpa using hs) (by simpa using hne)]
  simp [Function.comp_def]

/-- **Splitting undoes joining** on regular segments. -/
theorem Regular.split_join {segments : List String} (h : Regular segments) :
    split (join segments) = segments := by
  rcases h.ends with rfl | ⟨hh, hl⟩
  · rfl
  · have hsplit := splitOn_toList_join h.ne_nil h.noSlash
    obtain ⟨first, rest, rfl⟩ := List.exists_cons_of_ne_nil h.ne_nil
    have hfirst : first ≠ "" := by simpa using hh
    have hd : (join (first :: rest)).toList.head? ≠ some '/' := by
      rw [head?_join hfirst]
      exact fun hc => h.noSlash first (by simp) (List.mem_of_head? hc)
    have hl' : (join (first :: rest)).toList.getLast? ≠ some '/' := by
      obtain ⟨front, last, hlast⟩ : ∃ front last, first :: rest = front ++ [last] :=
        ⟨_, _, (List.dropLast_concat_getLast (by simp)).symm⟩
      rw [hlast] at hl ⊢
      rw [getLast?_join front (by simpa using hl)]
      exact fun hc => h.noSlash last (by rw [hlast]; simp) (List.mem_of_getLast? hc)
    rw [split, trimChars_of_ends hd hl', hsplit]

/-- Slash-free segments are regular as soon as regular ones are empty at the same positions. -/
theorem Regular.of_map_isEmpty {segments others : List String} (h : Regular segments)
    (hempty : others.map (· == "") = segments.map (· == ""))
    (hs : ∀ segment ∈ others, '/' ∉ segment.toList) : Regular others where
  ne_nil := by
    have := h.ne_nil
    rintro rfl
    simp_all
  noSlash := hs
  ends := by
    have hhead := congrArg List.head? hempty
    have hlast := congrArg List.getLast? hempty
    rw [List.head?_map, List.head?_map] at hhead
    rw [List.getLast?_map, List.getLast?_map] at hlast
    rcases h.ends with rfl | ⟨hh, hl⟩
    · exact Or.inl (by simpa [List.map_eq_cons_iff] using hempty)
    · refine Or.inr ⟨fun he => hh ?_, fun he => hl ?_⟩
      · simpa [he] using hhead.symm
      · simpa [he] using hlast.symm

/-- The characters of the segments are characters of the path. -/
theorem mem_toList_of_mem_split {path segment : String} (hm : segment ∈ split path) {c : Char}
    (hc : c ∈ segment.toList) : c ∈ path.toList := by
  have hjoin := mem_toList_join_of_mem hm hc
  rw [join_split, trim, String.toList_ofList] at hjoin
  have htrim := trimChars_prefix path.toList
  exact (List.dropWhile_suffix _).subset (htrim.subset hjoin)

/-! ### Splitting a joined rest -/

@[simp] theorem split_slash_append (path : String) : split ("/" ++ path) = split path := by
  simp [split]

/-- **Empty segments in front are dropped**, and nothing else, if the last one is not empty. -/
theorem split_join_of_getLast {segments : List String} (hne : segments ≠ [])
    (hs : ∀ segment ∈ segments, '/' ∉ segment.toList) (hl : segments.getLast? ≠ some "") :
    split (join segments) = segments.dropWhile (· == "") := by
  induction segments with
  | nil => exact absurd rfl hne
  | cons first rest ih =>
    by_cases hf : first = ""
    · subst hf
      have hr : rest ≠ [] := by rintro rfl; simp at hl
      rw [join_cons _ hr, String.empty_append, split_slash_append,
        ih hr (fun s hm => hs s (by simp [hm])) (by rwa [List.getLast?_cons_of_ne_nil hr] at hl)]
      simp
    · have hreg : Regular (first :: rest) := ⟨hne, hs, Or.inr ⟨by simpa using hf, hl⟩⟩
      rw [hreg.split_join, List.dropWhile_cons_of_neg (by simpa using hf)]

theorem Regular.ends_of_two {segments : List String} (h : Regular segments)
    (h2 : 2 ≤ segments.length) : segments.head? ≠ some "" ∧ segments.getLast? ≠ some "" := by
  rcases h.ends with rfl | h
  · simp at h2
  · exact h

/-- **What is left after the first segments**, joined and split again, is what is left of the
segments without the empty ones in front. -/
theorem Regular.split_join_drop {segments : List String} (h : Regular segments) {n : ℕ}
    (hn : 0 < n) (hlt : n < segments.length) :
    split (join (segments.drop n)) = (segments.drop n).dropWhile (· == "") := by
  refine split_join_of_getLast ?_ (fun s hm => h.noSlash s (List.mem_of_mem_drop hm)) ?_
  · simpa using hlt
  · rw [List.getLast?_drop, if_neg (by omega)]
    exact (h.ends_of_two (by omega)).2

/-! ### Paths between slashes -/

/-- A path of slashes only, or of nothing. -/
def IsRoot (path : String) : Prop := ∀ c ∈ path.toList, c = '/'

instance (path : String) : Decidable (IsRoot path) :=
  decidable_of_iff (path.toList.all (· == '/') = true) (by simp [IsRoot])

theorem trimChars_ne_nil {path : String} (h : ¬ IsRoot path) : trimChars path.toList ≠ [] :=
  fun hnil => h (trimChars_eq_nil_iff.mp hnil)

theorem split_eq_root_iff {path : String} : split path = [""] ↔ IsRoot path := by
  rw [IsRoot, ← trimChars_eq_nil_iff]
  constructor
  · intro h
    have := join_split path
    rw [h] at this
    simpa [join, trim] using this.symm
  · intro h; simp [split, h]

theorem splitOn_replicate_append (n : ℕ) (cs : List Char) :
    (List.replicate n '/' ++ cs).splitOn '/' = List.replicate n [] ++ cs.splitOn '/' := by
  induction n with
  | zero => rfl
  | succ n ih =>
    rw [List.replicate_succ, List.cons_append, List.splitOn_cons_eq_if_modifyHead, if_pos (by simp),
      ih]
    rfl

/-- **The segments of two paths with a slash between them**: those of the first, an empty one for
each slash in front of the second, and those of the second. -/
theorem split_append_slash {front path : String} (ht : trim front = front) (hf : front ≠ "")
    (hp : ¬ IsRoot path) :
    split (front ++ "/" ++ path) = split front ++
      (List.replicate (path.toList.takeWhile (· == '/')).length "" ++ split path) := by
  have htf : trimChars front.toList = front.toList := by
    rw [← String.toList_inj] at ht; simpa [trim] using ht
  obtain ⟨c, cs, hc⟩ := List.exists_cons_of_ne_nil (show front.toList ≠ [] by simpa using hf)
  obtain ⟨n, hn⟩ := exists_eq_append_trimChars path.toList
  set slashes := path.toList.takeWhile (· == '/') with hslashes
  have hcore := trimChars_ne_nil hp
  have htrim : trimChars (front ++ "/" ++ path).toList =
      front.toList ++ '/' :: (slashes ++ trimChars path.toList) := by
    have hd := head?_trimChars front.toList
    have hl := getLast?_trimChars path.toList
    rw [htf, hc] at hd
    rw [List.getLast?_eq_some_getLast hcore] at hl
    have hall : (front ++ "/" ++ path).toList =
        front.toList ++ '/' :: (slashes ++ trimChars path.toList) ++ List.replicate n '/' := by
      simpa using hn
    rw [hall, trimChars_append_replicate (by simpa [hc] using hd)
      (by simpa [List.getLast?_append, List.getLast?_cons, List.getLast?_eq_some_getLast hcore]
        using hl)]
  rw [split, htrim, List.splitOn_append_cons_self, hslashes, takeWhile_slash,
    splitOn_replicate_append, split, split, htf]
  simp

theorem trim_trim (path : String) : trim (trim path) = trim path := by
  simp [trim, trimChars_trimChars]

theorem split_trim (path : String) : split (trim path) = split path := by
  simp [split, trim, trimChars_trimChars]

theorem isRoot_trim_iff {path : String} : IsRoot (trim path) ↔ IsRoot path := by
  rw [← split_eq_root_iff, split_trim, split_eq_root_iff]

theorem trim_ne_empty {path : String} (h : ¬ IsRoot path) : trim path ≠ "" := by
  intro ht
  exact trimChars_ne_nil h (by simpa [trim] using ht)

/-- Empty segments in front of those of a path are dropped when they are joined and split. -/
theorem split_join_replicate_append (n : ℕ) (path : String) :
    split (join (List.replicate n "" ++ split path)) = split path := by
  induction n with
  | zero => rw [List.replicate_zero, List.nil_append, join_split, split_trim]
  | succ n ih =>
    have hne : List.replicate n "" ++ split path ≠ [] := by simp [split_ne_nil]
    rw [List.replicate_succ, List.cons_append, join_cons _ hne, String.empty_append,
      split_slash_append, ih]

/-- A path below another one has the segments of both. -/
theorem split_trim_append_trim {front path : String} (hf : ¬ IsRoot front) (hp : ¬ IsRoot path) :
    split (trim front ++ "/" ++ trim path) = split front ++ split path := by
  have hslash : (trim path).toList.takeWhile (· == '/') = [] := by
    have hd := head?_trimChars path.toList
    obtain ⟨c, cs, hc⟩ := List.exists_cons_of_ne_nil (trimChars_ne_nil hp)
    rw [hc] at hd
    rw [trim, String.toList_ofList, hc]
    exact List.takeWhile_cons_of_neg (by simpa using hd)
  rw [split_append_slash (trim_trim front) (trim_ne_empty hf) (mt isRoot_trim_iff.mp hp), hslash,
    split_trim, split_trim]
  rfl

/-- **A path without doubled slashes has no empty segment**, except the root. -/
theorem ne_empty_of_mem_split {path : String} (h : ¬ ['/', '/'] <:+: (trim path).toList)
    (h2 : 2 ≤ (split path).length) : ∀ segment ∈ split path, segment ≠ "" := by
  rintro segment hm rfl
  obtain ⟨hh, hl⟩ := (regular_split path).ends_of_two h2
  obtain ⟨front, back, hsplit⟩ := List.append_of_mem hm
  have hfront : front ≠ [] := by rintro rfl; simp [hsplit] at hh
  have hback : back ≠ [] := by rintro rfl; simp [hsplit] at hl
  refine h ⟨(join front).toList, (join back).toList, ?_⟩
  rw [← join_split, hsplit, join_append hfront (by simp), join_cons _ hback]
  simp

end UrlRouting.Url.Path

namespace UrlRouting.Template

open Url

/-- **The path that a template leaves over** has the segments left over, without the empty ones in
front. -/
theorem split_rest {template : Template} {segments : List String} (hreg : Path.Regular segments)
    (h : template.leads segments = true) :
    Path.split (template.rest segments) = (segments.drop template.size).dropWhile (· == "") :=
  hreg.split_join_drop template.size_pos (leads_iff.mp h).1

theorem split_rest_suffix {template : Template} {segments : List String}
    (hreg : Path.Regular segments) (h : template.leads segments = true) :
    Path.split (template.rest segments) <:+ segments := by
  rw [split_rest hreg h]
  exact (List.dropWhile_suffix _).trans (List.drop_suffix _ _)

/-- What a template leaves over is never the root. -/
theorem split_rest_ne_root {template : Template} {segments : List String}
    (hreg : Path.Regular segments) (h : template.leads segments = true) :
    Path.split (template.rest segments) ≠ [""] := by
  rw [split_rest hreg h]
  intro hroot
  have hhead := List.head?_dropWhile_not (· == "") (segments.drop template.size)
  simp [hroot] at hhead

theorem ne_root_of_leads {template : Template} {segments : List String}
    (h : template.leads segments = true) : segments ≠ [""] := by
  have hpos := template.size_pos
  have hlt := (leads_iff.mp h).1
  rintro rfl
  rw [List.length_singleton] at hlt
  omega

/-- The template of the root has one part, which fits the empty segment alone. -/
theorem parts_of_isRoot {template : Template} (h : Path.IsRoot template.format) :
    template.parts = [.literal ""] := by
  rw [template.parts_eq, Path.split_eq_root_iff.mpr h]
  rfl

theorem fitAll_of_isRoot {template : Template} (h : Path.IsRoot template.format)
    {segments : List String} (hne : segments ≠ []) (hh : segments.head? ≠ some "") :
    Part.fitAll template.parts segments = false := by
  obtain ⟨first, others, rfl⟩ := List.exists_cons_of_ne_nil hne
  have hf : ("" == first) = false := by
    rw [beq_eq_false_iff_ne]; rintro rfl; simp at hh
  rw [parts_of_isRoot h, Part.fitAll_cons, Part.fits, hf, Bool.false_and]

theorem not_isRoot_of_fitsStart {template : Template} {segments : List String}
    (hreg : Path.Regular segments) (hne : segments ≠ [""])
    (h : template.fitsStart segments = true) : ¬ Path.IsRoot template.format := by
  intro hroot
  have hhead := (hreg.ends.resolve_left hne).1
  rw [fitsStart, fitAll_of_isRoot hroot hreg.ne_nil hhead, Bool.and_false] at h
  cases h

end UrlRouting.Template
