import UrlRouting.Text.Printable

/-! # Quoted texts

A text between double quotes, on one line: quotes and backslashes have a backslash in front,
characters that are not printable are written as escapes, the commonest of them with a letter and
the others with their number in hexadecimal digits. -/

namespace UrlRouting.Text

/-- A character inside double quotes. -/
def quoteChar (c : Char) : List Char :=
  match c with
  | '\x00' => ['\\', '0']
  | '\t' => ['\\', 't']
  | '\n' => ['\\', 'n']
  | '\x0d' => ['\\', 'r']
  | '"' => ['\\', '"']
  | '\\' => ['\\', '\\']
  | c =>
    if isPrintable c then [c]
    else ['\\', 'u', '\x7b'] ++ Nat.toDigits 16 c.toNat ++ ['\x7d']

/-- A text between double quotes. -/
def quote (s : String) : String := .ofList ('"' :: s.toList.flatMap quoteChar ++ ['"'])

end UrlRouting.Text
