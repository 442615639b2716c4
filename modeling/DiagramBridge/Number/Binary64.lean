/-!
# Binary floating-point numbers, held exactly

A finite number is a sign, a mantissa and a power of two, so comparing, testing for a whole number
and converting from integers are exact integer arithmetic. Rounding happens in one place only:
`roundQuotient` takes a quotient of naturals to the nearest number with 53 significant bits and an
exponent of at least -1074, a half going to the even neighbour. A zero keeps its sign.

Every number has one form: the mantissa is odd, or it is zero and so is the exponent. The smart
constructor `ofScaled` establishes it.
-/

namespace DiagramBridge

/-- A binary floating-point number: `± mantissa * 2 ^ exponent`, an infinity, or no number. -/
inductive Binary64 where
  | finite (negative : Bool) (mantissa : Nat) (exponent : Int)
  | infinite (negative : Bool)
  | nan
  deriving DecidableEq

namespace Binary64

/-- A power of two, which is one where the exponent is negative. -/
def pow2 (e : Int) : Nat := Nat.pow 2 e.toNat

/-- A power of ten, which is one where the exponent is negative. -/
def pow10 (e : Int) : Nat := Nat.pow 10 e.toNat

/-- Moves factors of two from the mantissa to the exponent, at most as many as the first argument
says. -/
def moveTwos : Nat → Nat → Int → Nat × Int
  | 0, m, e => (m, e)
  | fuel + 1, m, e => if m % 2 = 0 then moveTwos fuel (m / 2) (e + 1) else (m, e)

/-- The number `± m * 2 ^ e`, without rounding. -/
def ofScaled (negative : Bool) (m : Nat) (e : Int) : Binary64 :=
  if m = 0 then
    .finite negative 0 0
  else
    let (m, e) := moveTwos m.log2 m e
    .finite negative m e

/-- An integer as a number, without rounding. -/
def ofInt (n : Int) : Binary64 :=
  ofScaled (n < 0) n.natAbs 0

/-- The quotient, with the remainder deciding upward: more than half goes up, and a half goes to
the even side. -/
def divideToEven (num den : Nat) : Nat :=
  let q := num / den
  let r := num % den
  if 2 * r > den || (2 * r == den && q % 2 == 1) then q + 1 else q

/-- `num / den` over `2 ^ e`, as a quotient of naturals. -/
def overPower (num den : Nat) (e : Int) : Nat × Nat :=
  if e ≥ 0 then (num, den * pow2 e) else (num * pow2 (-e), den)

/-- The number nearest to `± num / den`. What would need an exponent beyond the largest is an
infinity. -/
def roundQuotient (negative : Bool) (num den : Nat) : Binary64 :=
  if num = 0 then
    .finite negative 0 0
  else
    let low : Int := max (-1074) ((num.log2 : Int) - den.log2 - 53)
    let (n, d) := overPower num den low
    let e := if n / d ≥ pow2 53 then low + 1 else low
    let (n, d) := overPower num den e
    let m := divideToEven n d
    if e + m.log2 ≥ 1024 then .infinite negative else ofScaled negative m e

/-- The number nearest to `± m * 10 ^ e`. Far beyond the range the answer is known without
computing the power. -/
def ofDecimal (negative : Bool) (m : Nat) (e : Int) : Binary64 :=
  if m = 0 then .finite negative 0 0
  else if e > 400 then .infinite negative
  else if e < -(400 + m.log2 : Int) then .finite negative 0 0
  else if e ≥ 0 then roundQuotient negative (m * pow10 e) 1
  else roundQuotient negative m (pow10 (-e))

/-- A natural with a sign. -/
def signed (negative : Bool) (n : Nat) : Int :=
  if negative then -(n : Int) else n

/-- Strict order. What is not a number stands in no order to anything. -/
def lt : Binary64 → Binary64 → Bool
  | .nan, _ => false
  | _, .nan => false
  | .infinite n, .infinite n' => n && !n'
  | .infinite n, .finite .. => n
  | .finite .., .infinite n => !n
  | .finite s m e, .finite s' m' e' =>
    let low := min e e'
    signed s (m * pow2 (e - low)) < signed s' (m' * pow2 (e' - low))

/-- Order or equality of value; the two zeros are equal. -/
def le (x y : Binary64) : Bool :=
  match x, y with
  | .nan, _ => false
  | _, .nan => false
  | x, y => !lt y x

/-- Zero of either sign. -/
def isZero : Binary64 → Bool
  | .finite _ m _ => m == 0
  | _ => false

/-- Whether this is not a number. -/
def isNaN : Binary64 → Bool
  | .nan => true
  | _ => false

/-- The integer that a number is, if it is one. -/
def toInt? : Binary64 → Option Int
  | .finite s m e =>
    if m = 0 then some 0
    else if e ≥ 0 then some (signed s (m * pow2 e))
    else none
  | _ => none

/-- The integer part of a finite number: what stands before the point. -/
def truncate? : Binary64 → Option Int
  | .finite s m e =>
    some (signed s (if e ≥ 0 then m * pow2 e else m / pow2 (-e)))
  | _ => none

end Binary64

end DiagramBridge
