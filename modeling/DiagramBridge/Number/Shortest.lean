import DiagramBridge.Number.Binary64
import DiagramBridge.Number.Digits

/-!
# The shortest decimal that reads back

A binary number is written with the fewest decimal digits that are read as the same number again;
of the decimals with that many digits the nearest is taken. All reals between the midpoints to the
two neighbours are read as the number itself, the midpoints included when the significand is even.
If a decimal with `n` digits lies there, then so does one of the two that enclose the number on the
grid of `n` digits, so only those two are tried, for `n = 1, 2, …`; seventeen digits always do.

The layout is a matter of the writer: a point and one zero at least, and powers of ten beyond
`10 ^ 16` and below `10 ^ -4` by an exponent of at least two digits.
-/

namespace DiagramBridge.Binary64

/-- Mantissa and exponent with 53 significant bits, or as many as the least exponent leaves. -/
def significand (m : Nat) (e : Int) : Nat × Int :=
  let q := max (-1074) (m.log2 + e - 52)
  if e ≥ q then (m * pow2 (e - q), q) else (m / pow2 (q - e), q)

/-- The reals that are read as `value`, as multiples of a unit: between `low` and `high`, ends
included iff `closed`. The unit is `unitNum / unitDen`. -/
structure Interval where
  value : Nat
  low : Nat
  high : Nat
  closed : Bool
  unitNum : Nat
  unitDen : Nat

/-- The reals nearest to `m * 2 ^ e`. Below a power of two the neighbours are closer. -/
def readingInterval (m : Nat) (e : Int) : Interval :=
  let (s, q) := significand m e
  let u := q - 2
  { value := 4 * s
    low := if s = pow2 52 ∧ q > -1074 then 4 * s - 1 else 4 * s - 2
    high := 4 * s + 2
    closed := s % 2 = 0
    unitNum := if u ≥ 0 then pow2 u else 1
    unitDen := if u ≥ 0 then 1 else pow2 (-u) }

/-- How `d * 10 ^ k` compares with `n` units. -/
def Interval.compareDecimal (i : Interval) (d : Nat) (k : Int) (n : Nat) : Ordering :=
  if k ≥ 0 then compare (d * pow10 k * i.unitDen) (n * i.unitNum)
  else compare (d * i.unitDen) (n * i.unitNum * pow10 (-k))

/-- Whether `d * 10 ^ k` is read as the value. -/
def Interval.holds (i : Interval) (d : Nat) (k : Int) : Bool :=
  (match i.compareDecimal d k i.low with
    | .gt => true
    | .eq => i.closed
    | .lt => false) &&
  (match i.compareDecimal d k i.high with
    | .lt => true
    | .eq => i.closed
    | .gt => false)

/-- The largest multiple of `10 ^ k` that is at most the value, over `10 ^ k`. -/
def Interval.floorAt (i : Interval) (k : Int) : Nat :=
  if k ≥ 0 then i.value * i.unitNum / (i.unitDen * pow10 k)
  else i.value * i.unitNum * pow10 (-k) / i.unitDen

/-- Which of `d` and `d + 1` is nearer to the value on the grid of `10 ^ k`; a tie goes to the
even one. -/
def Interval.nearer (i : Interval) (d : Nat) (k : Int) : Nat :=
  -- twice the value against `(2 d + 1) * 10 ^ k`
  match i.compareDecimal (2 * d + 1) k (2 * i.value) with
  | .gt => d
  | .lt => d + 1
  | .eq => if d % 2 = 0 then d else d + 1

/-- The decimal `d * 10 ^ k` found first when `n` digits are tried, then one more, and so on.
`point` is the number of digits before the decimal point. -/
def Interval.search (i : Interval) (point : Int) : Nat → Nat → Nat × Int
  | n, 0 => (i.floorAt (point - n), point - n)
  | n, fuel + 1 =>
    let k := point - n
    let d := i.floorAt k
    match i.holds d k, i.holds (d + 1) k with
    | true, true => (i.nearer d k, k)
    | true, false => (d, k)
    | false, true => (d + 1, k)
    | false, false => i.search point (n + 1) fuel

/-- The place of the decimal point: the least `t` with the value below `10 ^ t`, found upward from
a start that is too small. -/
def Interval.pointFrom (i : Interval) : Int → Nat → Int
  | t, 0 => t
  | t, fuel + 1 => if i.compareDecimal 1 t i.value == .gt then t else i.pointFrom (t + 1) fuel

/-- Drops the zeros at the end of a number, counting them. -/
def dropZeros : Nat → Nat → Int → Nat × Int
  | 0, d, k => (d, k)
  | fuel + 1, d, k => if d % 10 = 0 then dropZeros fuel (d / 10) (k + 1) else (d, k)

/-- The shortest decimal `d * 10 ^ k` that is read as `m * 2 ^ e`, where `m` is not zero. -/
def shortestDecimal (m : Nat) (e : Int) : Nat × Int :=
  let i := readingInterval m e
  -- `2 ^ b ≤ value`, and `b * 1233 / 4096` is just below `b * log 2 / log 10`
  let b : Int := m.log2 + e
  let point := i.pointFrom (b * 1233 / 4096 - 2) 8
  let (d, k) := i.search point 1 17
  dropZeros 20 d k

/-- The text of `± d * 10 ^ k`. -/
def layOut (negative : Bool) (d : Nat) (k : Int) : List Char :=
  let ds := decimal d
  let point : Int := ds.length + k
  let body :=
    if point > 16 || point ≤ -4 then
      let e := point - 1
      let es := decimal e.natAbs
      ds.take 1 ++ (if ds.length > 1 then '.' :: ds.drop 1 else []) ++
        ['e', if e < 0 then '-' else '+'] ++ (if es.length < 2 then '0' :: es else es)
    else if point ≤ 0 then
      ['0', '.'] ++ List.replicate (-point).toNat '0' ++ ds
    else if point < ds.length then
      ds.take point.toNat ++ '.' :: ds.drop point.toNat
    else
      ds ++ List.replicate k.toNat '0' ++ ['.', '0']
  if negative then '-' :: body else body

/-- The text of a number. -/
def text : Binary64 → List Char
  | .nan => "nan".toList
  | .infinite negative => (if negative then "-inf" else "inf").toList
  | .finite negative m e =>
    if m = 0 then
      (if negative then "-0.0" else "0.0").toList
    else
      let (d, k) := shortestDecimal m e
      layOut negative d k

end DiagramBridge.Binary64
