/-! # Paths

A path is a text of segments between slashes. Slashes at its two ends carry no meaning and are
trimmed; those inside do, so that `a//b` has an empty segment in the middle. The empty path and a
path of slashes only have one segment, which is empty.

* `Path.split`: the segments of a path.
* `Path.join`: the path of some segments.
* `join_split`: joining the segments of a path gives back its trimmed text. -/

namespace UrlRouting.Url.Path

/-- The characters without the slashes at both ends. -/
def trimChars (cs : List Char) : List Char :=
  ((cs.dropWhile (· == '/')).reverse.dropWhile (· == '/')).reverse

/-- The text without the slashes at both ends. -/
def trim (path : String) : String := .ofList (trimChars path.toList)

/-- The segments of a path. -/
def split (path : String) : List String :=
  ((trimChars path.toList).splitOn '/').map String.ofList

/-- The path of some segments. -/
def join (segments : List String) : String := "/".intercalate segments

theorem split_ne_nil (path : String) : split path ≠ [] := by
  simp [split]

theorem join_split (path : String) : join (split path) = trim path := by
  rw [← String.toList_inj]
  simp [join, split, trim, Function.comp_def, List.intercalate_splitOn]

end UrlRouting.Url.Path
