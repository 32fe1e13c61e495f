import UrlRouting.Toml.Digit
import UrlRouting.Toml.Layout

/-! # Texts and names

The four ways to write a text, by the quotes around it:

* double quotes: backslashes start escapes;
* single quotes: every character stands for itself;
* three double or single quotes: the same over several lines. A line break right after the opening
  quotes is dropped. One or two quotes inside stand for themselves, also right before the closing
  ones. In double quotes a backslash at the end of a line takes away all space up to the next
  character.

A name is a text on one line, or a run of ASCII letters, digits, underscores, and dashes. -/

namespace UrlRouting.Toml

open Reader

/-! ### Escapes -/

/-- The character whose number is written with `n` hexadecimal digits. -/
def scalar (n : Nat) : Reader Char := do
  let code := valueOf 16 (← times (satisfy (isDigitOf 16)) n)
  if h : code.isValidChar then return Char.ofNatAux code h else failure

/-- The character that an escape stands for. -/
def escape : Reader Char := do
  char '\\'
  match ← satisfy fun _ => true with
  | 'b' => return '\x08'
  | 't' => return '\t'
  | 'n' => return '\n'
  | 'f' => return '\x0c'
  | 'r' => return '\x0d'
  | '"' => return '"'
  | '\\' => return '\\'
  | 'u' => scalar 4
  | 'U' => scalar 8
  | _ => failure

/-- A line break that a backslash takes away, with all space after it. -/
def continuation : Reader Unit := char '\\' *> blanks *> newline *> space

/-! ### One line -/

/-- Ordinary characters without double quotes and backslashes. -/
def isPlain (c : Char) : Bool := isOrdinary c && c != '"' && c != '\\'

/-- Ordinary characters without single quotes. -/
def isLiteral (c : Char) : Bool := isOrdinary c && c != '\x27'

/-- A text in double quotes. -/
def quoted : Reader String := do
  char '"'
  let parts ← many (run isPlain <|> ([·]) <$> escape)
  char '"'
  return .ofList parts.flatten

/-- A text in single quotes. -/
def literal : Reader String := do
  char '\x27'
  let text ← span isLiteral
  char '\x27'
  return .ofList text

/-- A name, of a field or of a table. -/
def name : Reader String :=
  quoted <|> literal <|> .ofList <$> run fun c => c.isAlphanum || c == '_' || c == '-'

/-! ### Several lines -/

/-- One or two quotes among the characters of a text. -/
def innerQuotes (quote : Char) : Reader (List Char) := do
  let quotes ← run (· == quote)
  if quotes.length < 3 then return quotes else failure

/-- The closing quotes, with the quotes before them that belong to the text. -/
def closingQuotes (quote : Char) : Reader (List Char) := do
  let quotes ← run (· == quote)
  if 3 ≤ quotes.length ∧ quotes.length ≤ 5 then return quotes.drop 3 else failure

/-- The text between two rows of three quotes that is made of the given parts. -/
def block (quote : Char) (part : Reader (List Char)) : Reader String := do
  discard (times (char quote) 3)
  discard (optional newline)
  let parts ← many (part <|> newline *> pure ['\n'] <|> innerQuotes quote)
  return .ofList (parts.flatten ++ (← closingQuotes quote))

/-- A text of any of the four kinds. -/
def text : Reader String :=
  block '"' (run isPlain <|> continuation *> pure [] <|> ([·]) <$> escape) <|> quoted <|>
    block '\x27' (run isLiteral) <|> literal

end UrlRouting.Toml
