import UrlRouting.Toml.Reader

/-! # Layout

What stands between the parts of a document: blanks, line breaks, and comments. A line break is a
line feed, alone or after a carriage return; a carriage return on its own is none. A comment goes to
the end of its line and holds no control character but tabs. -/

namespace UrlRouting.Toml

open Reader

/-- Spaces and tabs. -/
def isBlank (c : Char) : Bool := c == ' ' || c == '\t'

/-- Tabs, and all but the control characters of ASCII. -/
def isOrdinary (c : Char) : Bool := c == '\t' || (' ' ≤ c && c != '\x7f')

/-- Any number of blanks. -/
def blanks : Reader Unit := discard (span isBlank)

/-- A line break. -/
def newline : Reader Unit := char '\n' <|> (char '\r' *> char '\n')

/-- A comment, without the line break after it. -/
def comment : Reader Unit := char '#' *> discard (span isOrdinary)

/-- The rest of a line on which nothing more is said. -/
def lineEnd : Reader Unit := blanks *> discard (optional comment) *> (newline <|> atEnd)

/-- Any number of blanks and line breaks. -/
def space : Reader Unit := discard (many (discard (run isBlank) <|> newline))

/-- Any number of blanks, line breaks, and comments. -/
def gap : Reader Unit :=
  discard (many (discard (run isBlank) <|> newline <|> (comment *> newline)))

end UrlRouting.Toml
