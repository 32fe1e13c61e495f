/-! # Percent escapes

A percent sign with two hexadecimal digits of either case stands for an octet. A percent sign that
is not followed by two such digits stands for itself, and what follows it is read on its own, so
that decoding never fails: `%%41` is `%A`. -/

namespace UrlRouting.Url.Percent

/-- The value of a hexadecimal digit. -/
def hexDigit? (b : UInt8) : Option UInt8 :=
  if 0x30 ≤ b ∧ b ≤ 0x39 then some (b - 0x30)
  else if 0x41 ≤ b ∧ b ≤ 0x46 then some (b - 0x41 + 10)
  else if 0x61 ≤ b ∧ b ≤ 0x66 then some (b - 0x61 + 10)
  else none

/-- The octet that `a`, `b`, `c` write, when they are a percent sign and two digits. -/
def escape? (a b c : UInt8) : Option UInt8 :=
  if a = 0x25 then
    match hexDigit? b, hexDigit? c with
    | some high, some low => some (high * 16 + low)
    | _, _ => none
  else none

/-- The octets with every escape replaced by the octet it stands for. -/
def decode : List UInt8 → List UInt8
  | a :: b :: c :: rest =>
    match escape? a b c with
    | some octet => octet :: decode rest
    | none => a :: decode (b :: c :: rest)
  | short => short

end UrlRouting.Url.Percent
