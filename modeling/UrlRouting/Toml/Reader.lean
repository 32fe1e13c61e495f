/-! # Readers

A reader takes something off the front of a text, or refuses it. Readers run one after the other
with `do`; of two readers joined by `<|>` the second starts where the first did, when the first
refuses. -/

namespace UrlRouting.Toml

/-- A reader of texts. -/
abbrev Reader := StateT (List Char) Option

namespace Reader

variable {α β : Type}

/-- A character of a class. -/
def satisfy (p : Char → Bool) : Reader Char
  | [] => none
  | c :: rest => if p c then some (c, rest) else none

/-- One given character. -/
def char (c : Char) : Reader Unit := discard (satisfy (· == c))

/-- A given word. -/
def word (s : String) : Reader Unit := s.toList.forM char

/-- The longest run of characters of a class, which can be empty. -/
def span (p : Char → Bool) : Reader (List Char) :=
  fun s => some (s.takeWhile p, s.dropWhile p)

/-- The longest run of characters of a class, with at least one. -/
def run (p : Char → Bool) : Reader (List Char) := return (← satisfy p) :: (← span p)

/-- The end of the text. -/
def atEnd : Reader Unit
  | [] => some ((), [])
  | _ :: _ => none

/-- Something that is left of the text. -/
def notAtEnd : Reader Unit
  | [] => none
  | s => some ((), s)

/-- As many as `r` reads, at most the given number, after those read already. -/
def manyUpTo (r : Reader α) : Nat → List α → Reader (List α)
  | 0, found => pure found.reverse
  | n + 1, found => fun s =>
    match r s with
    | some (a, rest) => manyUpTo r n (a :: found) rest
    | none => some (found.reverse, s)

/-- As many as `r` reads. A reader that takes at least one character is never cut short. -/
def many (r : Reader α) : Reader (List α) := fun s =>
  match r s with
  | some (a, rest) => manyUpTo r rest.length [a] rest
  | none => some ([], s)

/-- A given number of what `r` reads. -/
def times (r : Reader α) : Nat → Reader (List α)
  | 0 => pure []
  | n + 1 => return (← r) :: (← times r n)

/-- At least one, with separators between them. -/
def sepBy1 (r : Reader α) (separator : Reader β) : Reader (List α) :=
  return (← r) :: (← many (separator *> r))

/-- Any number, with separators between them. -/
def sepBy (r : Reader α) (separator : Reader β) : Reader (List α) := sepBy1 r separator <|> pure []

end Reader

end UrlRouting.Toml
