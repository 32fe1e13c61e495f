import UrlRouting.Toml.Digit
import UrlRouting.Toml.Reader

/-! # Numbers

Integers in four bases and reals. Digits may be grouped by underscores, each between two digits; a
decimal number has no needless zero in front. Integers have 64 bits. Only decimal numbers have a
sign. A real that is rounded to infinity is refused if it is positive. -/

namespace UrlRouting.Toml

open Reader

/-- A real number: `mantissa * 10 ^ exponent` with a sign, or one of the special ones. -/
inductive Real where
  | finite (negative : Bool) (mantissa : Nat) (exponent : Int)
  | infinite (negative : Bool)
  | undefined (negative : Bool)
  deriving DecidableEq

/-- An integer or a real. -/
inductive Number where
  | integer (n : Int)
  | real (x : Real)
  deriving DecidableEq

/-! ### Digits -/

/-- Digits, with single underscores between them left out. -/
def digits (base : Nat) : Reader (List Char) :=
  return (← satisfy (isDigitOf base)) ::
    (← many (satisfy (isDigitOf base) <|> char '_' *> satisfy (isDigitOf base)))

/-- Decimal digits without a needless zero in front. -/
def wholePart : Reader (List Char) := do
  match ← digits 10 with
  | '0' :: _ :: _ => failure
  | found => return found

/-- Whether a sign is a minus; no sign is a plus. -/
def isNegative : Reader Bool :=
  char '-' *> pure true <|> char '+' *> pure false <|> pure false

/-! ### Ranges -/

/-- An integer of 64 bits. -/
def integer64 (n : Int) : Reader Number :=
  if -9223372036854775808 ≤ n ∧ n ≤ 9223372036854775807 then pure (.integer n) else failure

/-- Whether `mantissa * 10 ^ exponent` is rounded to infinity: it lies at least half a step above
the largest double. A number of `b` bits is at most `10 ^ b`, so that the powers of ten that have to
be computed are small. -/
def overflows (mantissa : Nat) (exponent : Int) : Bool :=
  let bound := (1 <<< 1024) - (1 <<< 970)
  if mantissa = 0 then false
  else if 400 < exponent then true
  else if (Nat.log2 mantissa + 1 : Int) + exponent < 300 then false
  else if 0 ≤ exponent then bound ≤ mantissa * Nat.pow 10 exponent.toNat
  else bound * Nat.pow 10 (-exponent).toNat ≤ mantissa

/-- A real with a sign, unless it is too large. -/
def finite (negative : Bool) (mantissa : Nat) (exponent : Int) : Reader Number :=
  if !negative && overflows mantissa exponent then failure
  else pure (.real (.finite negative mantissa exponent))

/-! ### Numbers -/

/-- An integer in base sixteen, eight, or two. -/
def basedNumber : Reader Number := do
  let base ← word "0x" *> pure 16 <|> word "0o" *> pure 8 <|> word "0b" *> pure 2
  integer64 (valueOf base (← digits base))

/-- A decimal number; it is real if it has a fraction or an exponent. -/
def decimalNumber : Reader Number := do
  let negative ← isNegative
  let whole ← wholePart
  let fraction? ← optional (char '.' *> digits 10)
  let exponent? ← optional do
    discard (satisfy fun c => c == 'e' || c == 'E')
    let negative ← isNegative
    let n : Int := valueOf 10 (← digits 10)
    return if negative then -n else n
  match fraction?, exponent? with
  | none, none =>
    let n : Int := valueOf 10 whole
    integer64 (if negative then -n else n)
  | _, _ =>
    let fraction := fraction?.getD []
    finite negative (valueOf 10 (whole ++ fraction)) (exponent?.getD 0 - fraction.length)

/-- Infinity, and what is no number. -/
def specialNumber : Reader Number := do
  let negative ← isNegative
  word "inf" *> pure (.real (.infinite negative)) <|>
    word "nan" *> pure (.real (.undefined negative))

/-- A number of any kind. -/
def number : Reader Number := basedNumber <|> decimalNumber <|> specialNumber

end UrlRouting.Toml
