/-
# Shortest decimals

A finite binary floating-point number is `m * 2 ^ q`. Among the decimals that read back as
that number, `Shortest.decimal` picks one with the fewest digits, and of those the nearest.
Everything is done in exact natural arithmetic: the numbers that read back form an interval
around the value, and on each decimal grid only the two neighbours of the value are tried.
-/
namespace CrawlMesh.Shortest

set_option autoImplicit false

/-- A fraction with a positive denominator. -/
structure Fraction where
  num : Nat
  den : Nat
deriving Repr

/-- `n * 2 ^ e` as a fraction. -/
def Fraction.scaled (n : Nat) (e : Int) : Fraction :=
  if 0 ≤ e then ⟨n <<< e.toNat, 1⟩ else ⟨n, 1 <<< (-e).toNat⟩

/-- `n * 10 ^ e` as a fraction. -/
def Fraction.decimal (n : Nat) (e : Int) : Fraction :=
  if 0 ≤ e then ⟨n * Nat.pow 10 e.toNat, 1⟩ else ⟨n, Nat.pow 10 (-e).toNat⟩

def Fraction.lt (a b : Fraction) : Bool := a.num * b.den < b.num * a.den

def Fraction.le (a b : Fraction) : Bool := a.num * b.den ≤ b.num * a.den

/-- The significand and the binary exponent of a positive finite number from its bits. -/
def unpack (bits : UInt64) : Nat × Int :=
  let fraction := (bits &&& 0xFFFFFFFFFFFFF).toNat
  let exponent := ((bits >>> 52) &&& 0x7FF).toNat
  if exponent == 0 then (fraction, -1074) else (1 <<< 52 + fraction, (exponent : Int) - 1075)

/-- The reals that round to `m * 2 ^ q`: below a power of two the numbers lie twice as close. -/
structure Interval where
  low : Fraction
  high : Fraction
  closed : Bool

def Interval.of (m : Nat) (q : Int) : Interval where
  low := if m == 1 <<< 52 && q != -1074 then .scaled (4 * m - 1) (q - 2)
    else .scaled (4 * m - 2) (q - 2)
  high := .scaled (4 * m + 2) (q - 2)
  closed := m % 2 == 0

def Interval.holds (i : Interval) (x : Fraction) : Bool :=
  if i.closed then i.low.le x && x.le i.high else i.low.lt x && x.lt i.high

/-- The least `k` from `start` on, among `fuel` candidates, with `v < 10 ^ k`. -/
def magnitude (v : Fraction) (start : Int) : Nat → Int
  | 0 => start
  | fuel + 1 => if v.lt (.decimal 1 start) then start else magnitude v (start + 1) fuel

/-- The grid of spacing `10 ^ e` around `v`: a neighbour of `v` that lies in the interval. -/
def onGrid (v : Fraction) (i : Interval) (e : Int) : Option Nat :=
  let step := Fraction.decimal 1 e
  let below := (v.num * step.den) / (v.den * step.num)
  let above := below + 1
  match i.holds (.decimal below e), i.holds (.decimal above e) with
  | true, true =>
    let middle := Fraction.decimal (2 * below + 1) e
    let twice : Fraction := ⟨2 * v.num, v.den⟩
    if twice.lt middle then some below
    else if middle.lt twice then some above
    else some (if below % 2 == 0 then below else above)
  | true, false => some below
  | false, true => some above
  | false, false => none

/-- Try the grids from the coarsest on. -/
def searchGrids (v : Fraction) (i : Interval) (e : Int) : Nat → Nat × Int
  | 0 => (v.num / v.den, 0)
  | fuel + 1 =>
    match onGrid v i e with
    | some n => if n == 0 then searchGrids v i (e - 1) fuel else (n, e)
    | none => searchGrids v i (e - 1) fuel

/-- Take the zeros off the end of a decimal. -/
def stripZeros (n : Nat) (e : Int) : Nat → Nat × Int
  | 0 => (n, e)
  | fuel + 1 => if n % 10 == 0 && n != 0 then stripZeros (n / 10) (e + 1) fuel else (n, e)

/-- Digits `n` and exponent `e` of a shortest decimal `n * 10 ^ e` that reads back as
`m * 2 ^ q`. -/
def decimal (m : Nat) (q : Int) : Nat × Int :=
  let v := Fraction.scaled m q
  let k := magnitude v (-325) 640
  let (n, e) := searchGrids v (.of m q) (k - 1) 20
  stripZeros n e 20

/-- `n / d` to the nearest natural, a half going to the even neighbour. -/
def roundHalfEven (n d : Nat) : Nat :=
  let floor := n / d
  let rest := 2 * (n % d)
  if rest < d || (rest == d && floor % 2 == 0) then floor else floor + 1

/-- A number that is not negative, with a fixed count of digits after the point. -/
def fixed (places : Nat) (x : Float) : String :=
  let (m, q) := unpack x.toBits
  let v := Fraction.scaled m q
  let n := roundHalfEven (v.num * Nat.pow 10 places) v.den
  let whole := toString (n / Nat.pow 10 places)
  let part := toString (n % Nat.pow 10 places)
  whole ++ "." ++ String.ofList (List.replicate (places - part.length) '0') ++ part

end CrawlMesh.Shortest
