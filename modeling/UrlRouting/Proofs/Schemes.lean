import UrlRouting.Proofs.Requests
import UrlRouting.Url.Scheme

/-! # URLs with a scheme

Whether a URL has a scheme is decided at its first `://`. The grammar does not say which `://` ends
the scheme, and need not: no scheme has a colon in it, so that only the first one can.

* `IsSchemeText`: the grammar of schemes; `isScheme_iff` is for the test.
* `hasScheme_iff_exists`: a URL has a scheme if it can be cut at some `://` behind one.
* `hasScheme_iff`: the same, with what can follow a scheme: anything, and nothing that stands after
  the path matters. -/

namespace UrlRouting.Url

/-! ### The grammar of schemes -/

/-- A letter from `a` to `z`, small or capital. -/
def IsAsciiLetter (c : Char) : Prop := 'a' ≤ c ∧ c ≤ 'z' ∨ 'A' ≤ c ∧ c ≤ 'Z'

/-- A digit from `0` to `9`. -/
def IsAsciiDigit (c : Char) : Prop := '0' ≤ c ∧ c ≤ '9'

/-- A character that may stand in a scheme. -/
def IsSchemeChar (c : Char) : Prop :=
  IsAsciiLetter c ∨ IsAsciiDigit c ∨ c = '+' ∨ c = '-' ∨ c = '.'

instance (c : Char) : Decidable (IsAsciiLetter c) := inferInstanceAs (Decidable (_ ∧ _ ∨ _ ∧ _))

instance (c : Char) : Decidable (IsAsciiDigit c) := inferInstanceAs (Decidable (_ ∧ _))

instance (c : Char) : Decidable (IsSchemeChar c) := inferInstanceAs (Decidable (_ ∨ _ ∨ _))

/-- **The grammar of schemes**: a letter, and any number of letters, digits, plus signs, hyphens and
dots after it. -/
def IsSchemeText (text : String) : Prop :=
  ∃ first rest, text.toList = first :: rest ∧ IsAsciiLetter first ∧ ∀ c ∈ rest, IsSchemeChar c

theorem isAlpha_iff {c : Char} : c.isAlpha = true ↔ IsAsciiLetter c := by
  have hupper : c.isUpper = decide ('A' ≤ c ∧ c ≤ 'Z') := rfl
  have hlower : c.isLower = (decide ('a' ≤ c) && decide (c ≤ 'z')) := rfl
  have halpha : c.isAlpha = (c.isUpper || c.isLower) := rfl
  simp [halpha, hupper, hlower, IsAsciiLetter, or_comm]

theorem isAlphanum_iff {c : Char} : c.isAlphanum = true ↔ IsAsciiLetter c ∨ IsAsciiDigit c := by
  have hdigit : c.isDigit = (decide ('0' ≤ c) && decide (c ≤ '9')) := rfl
  have halphanum : c.isAlphanum = (c.isAlpha || c.isDigit) := rfl
  simp [halphanum, isAlpha_iff, hdigit, IsAsciiDigit]

theorem isScheme_cons_iff {first : Char} {rest : List Char} :
    isScheme (first :: rest) = true ↔ IsAsciiLetter first ∧ ∀ c ∈ rest, IsSchemeChar c := by
  simp [isScheme, isAlpha_iff, isAlphanum_iff, IsSchemeChar, or_assoc]

theorem isScheme_iff {text : String} : isScheme text.toList = true ↔ IsSchemeText text := by
  constructor
  · intro h
    obtain ⟨first, rest, htext⟩ := List.exists_cons_of_ne_nil (l := text.toList) (by
      intro hnil
      rw [hnil] at h
      cases h)
    rw [htext, isScheme_cons_iff] at h
    exact ⟨first, rest, htext, h⟩
  · rintro ⟨first, rest, htext, h⟩
    rw [htext, isScheme_cons_iff]
    exact h

instance (text : String) : Decidable (IsSchemeText text) := decidable_of_iff _ isScheme_iff

section
variable {scheme : String} (h : IsSchemeText scheme)
include h

theorem IsSchemeText.not_mem {c : Char} (hc : ¬ IsSchemeChar c) : c ∉ scheme.toList := by
  obtain ⟨first, rest, htext, hfirst, hrest⟩ := h
  rw [htext, List.mem_cons, not_or]
  refine ⟨?_, fun hm => hc (hrest c hm)⟩
  rintro rfl
  exact hc (Or.inl hfirst)

/-- A scheme ends at the first `://`. -/
theorem IsSchemeText.before?_eq (rest : String) :
    Text.before? [':', '/', '/'] (scheme ++ "://" ++ rest).toList = some scheme.toList := by
  simpa using Text.before?_append (h.not_mem (c := ':') (by decide)) ['/', '/'] rest.toList

/-- A scheme and what ends it belong to the path. -/
theorem IsSchemeText.path_ofUrl (rest : String) :
    (Request.ofUrl (scheme ++ "://" ++ rest)).path =
      scheme ++ "://" ++ (Request.ofUrl rest).path := by
  have hscheme : Request.MarkFree scheme := ⟨h.not_mem (by decide), h.not_mem (by decide)⟩
  rw [Request.ofUrl_append (hscheme.append (by decide))]

end

/-! ### URLs -/

/-- **A URL has a scheme** if it can be cut at some `://` behind one. -/
theorem hasScheme_iff_exists {url : String} :
    hasScheme url = true ↔ ∃ scheme rest, url = scheme ++ "://" ++ rest ∧ IsSchemeText scheme := by
  constructor
  · intro h
    rw [hasScheme, Option.any_eq_true] at h
    obtain ⟨front, hfront, hscheme⟩ := h
    obtain ⟨back, hback⟩ := Text.exists_eq_append_of_before? hfront
    refine ⟨.ofList front, .ofList back, ?_, isScheme_iff.mp (by simpa using hscheme)⟩
    rw [← String.toList_inj]
    simpa using hback
  · rintro ⟨scheme, rest, rfl, h⟩
    rw [hasScheme, h.before?_eq, Option.any_some, isScheme_iff]
    exact h

theorem hasScheme_append {url : String} (h : hasScheme url = true) (more : String) :
    hasScheme (url ++ more) = true := by
  obtain ⟨scheme, rest, rfl, hscheme⟩ := hasScheme_iff_exists.mp h
  exact hasScheme_iff_exists.mpr ⟨scheme, rest ++ more, by rw [String.append_assoc], hscheme⟩

/-- Only the path says whether there is a scheme. -/
theorem hasScheme_path (url : String) : hasScheme (Request.ofUrl url).path = hasScheme url := by
  rw [Bool.eq_iff_iff]
  constructor
  · intro h
    obtain ⟨tail, htail⟩ := Request.exists_eq_path_append url
    rw [htail]
    exact hasScheme_append h tail
  · intro h
    obtain ⟨scheme, rest, rfl, hscheme⟩ := hasScheme_iff_exists.mp h
    rw [hscheme.path_ofUrl]
    exact hasScheme_iff_exists.mpr ⟨scheme, _, rfl, hscheme⟩

/-- **The URLs with a scheme** are those that can be cut at a `://` with a scheme in front of it. A
URL keeps its scheme whatever is put behind it, and whether it has one is decided by its path: no
query and no fragment makes a difference. -/
theorem hasScheme_iff (url : String) :
    (hasScheme url = true ↔
      ∃ scheme rest, url = scheme ++ "://" ++ rest ∧ IsSchemeText scheme) ∧
    (hasScheme url = true → ∀ more, hasScheme (url ++ more) = true) ∧
    hasScheme url = hasScheme (Request.ofUrl url).path ∧
    ∀ path tail, Request.MarkFree path → Request.IsTail tail →
      hasScheme (path ++ tail) = hasScheme path := by
  refine ⟨hasScheme_iff_exists, hasScheme_append, (hasScheme_path url).symm, ?_⟩
  intro path tail hpath htail
  rw [← hasScheme_path, Request.ofUrl_append_tail hpath htail]

/-- Of two `://` the first one counts, and one in a query does not. -/
theorem hasScheme_redirect :
    hasScheme "git+ssh://host?next=http://a" = true ∧
    hasScheme ("git+ssh://host?next=http://a" ++ "#://b") = true ∧
    hasScheme "users?next=http://a" = false := by
  have hurl : hasScheme "git+ssh://host?next=http://a" = true :=
    (hasScheme_iff _).1.mpr ⟨"git+ssh", "host?next=http://a", by decide, by decide⟩
  refine ⟨hurl, (hasScheme_iff _).2.1 hurl _, ?_⟩
  exact (hasScheme_iff _).2.2.1.trans (by decide)

end UrlRouting.Url
