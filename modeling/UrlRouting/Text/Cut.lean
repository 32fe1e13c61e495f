/-! # Cutting a text at a mark

* `cut c s`: what stands before the first `c` in `s`, with what stands after it when there is a `c`
  at all. `cut_append_cons` is for a text with the mark, `cut_of_not_mem` for one without.
* `before? mark s`: what stands before the first place where `mark` starts, if there is one.
  `before?_append` is for a text with the mark, `exists_eq_append_of_before?` for the way back. -/

namespace UrlRouting.Text

/-- The text before the first `c`, and the text after it if there is one. -/
def cut (c : Char) (s : List Char) : List Char × Option (List Char) :=
  (s.takeWhile (· != c), (s.dropWhile (· != c)).tail?)

/-- The text before the first occurrence of `mark`, if there is one. -/
def before? (mark : List Char) : List Char → Option (List Char)
  | [] => if mark.isEmpty then some [] else none
  | c :: s => if mark.isPrefixOf (c :: s) then some [] else (before? mark s).map (c :: ·)

theorem cut_of_not_mem {c : Char} {s : List Char} (h : c ∉ s) : cut c s = (s, none) := by
  induction s with
  | nil => rfl
  | cons x s ih =>
    rw [List.mem_cons, not_or] at h
    simpa [cut, Ne.symm h.1] using ih h.2

theorem cut_append_cons {c : Char} {s t : List Char} (h : c ∉ s) :
    cut c (s ++ c :: t) = (s, some t) := by
  induction s with
  | nil => simp [cut]
  | cons x s ih =>
    rw [List.mem_cons, not_or] at h
    simpa [cut, Ne.symm h.1] using ih h.2

theorem before?_append {c : Char} {s : List Char} (h : c ∉ s) (mark t : List Char) :
    before? (c :: mark) (s ++ c :: (mark ++ t)) = some s := by
  induction s with
  | nil => simp [before?]
  | cons x s ih =>
    rw [List.mem_cons, not_or] at h
    rw [List.cons_append, before?, ih h.2]
    simp [h.1]

theorem exists_eq_append_of_before? {mark s front : List Char} (h : before? mark s = some front) :
    ∃ back, s = front ++ mark ++ back := by
  induction s generalizing front with
  | nil =>
    obtain ⟨hmark, rfl⟩ : mark = [] ∧ [] = front := by simpa [before?] using h
    exact ⟨[], by simp [hmark]⟩
  | cons x s ih =>
    rw [before?] at h
    split at h
    · next hmark =>
      obtain rfl := Option.some.inj h
      obtain ⟨back, hback⟩ := List.isPrefixOf_iff_prefix.mp hmark
      exact ⟨back, hback.symm⟩
    · obtain ⟨front', hfront, rfl⟩ := Option.map_eq_some_iff.mp h
      obtain ⟨back, rfl⟩ := ih hfront
      exact ⟨back, rfl⟩

end UrlRouting.Text
