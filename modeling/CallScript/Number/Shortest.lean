import CallScript.Number.Decimal

/-! # The shortest numeral of a double

`Binary64.shortest` finds the fewest decimal digits that read back to a given finite double, and among
those the numeral nearest to it.  It works on the interval of fractions that round to the number: for one
digit, two digits and so on it tries the two neighbours of the number on the decimal grid of that many
digits, and takes the first grid that has one inside. -/

namespace CallScript.Binary64

/-- The fractions that round to a number, as numerators over one denominator: the ends, the number
itself, and whether the ends belong to it. -/
structure Interval where
  low : Nat
  mid : Nat
  high : Nat
  den : Nat
  closed : Bool

/-- The interval of a finite positive number.  Below a power of two the neighbour is half as far. -/
def interval (x : Binary64) : Interval :=
  let m := x.significand
  let near := if m = leading && 1 < x.exponent.val then 1 else 2
  let up := Nat.pow 2 (x.place - 2).toNat
  ⟨(4 * m - near) * up, 4 * m * up, (4 * m + 2) * up, Nat.pow 2 (2 - x.place).toNat, m % 2 = 0⟩

/-- Whether the fraction `num / den'`, given as its numerator over the interval's denominator times
`unit`, lies in the interval. -/
def Interval.contains (i : Interval) (num unit : Nat) : Bool :=
  if i.closed then i.low * unit ≤ num && num ≤ i.high * unit
  else i.low * unit < num && num < i.high * unit

/-- The exponent `e` with `10 ^ e ≤ num / den < 10 ^ (e + 1)`, for a positive fraction. -/
def decimalExponent (num den : Nat) : Int :=
  if den ≤ num then (Decimal.width (num / den) : Int) - 1
  else -(Decimal.width ((den + num - 1) / num - 1) : Int)

/-- The neighbours of the number on the grid of multiples of `10 ^ grid`, if they round to it: of two the
nearer, and of two equally near the even one. -/
def onGrid (i : Interval) (grid : Int) : Option Nat :=
  let up := Nat.pow 10 grid.toNat
  let unit := Nat.pow 10 (-grid).toNat
  let step := up * i.den
  let below := i.mid * unit / step
  let fits := fun c => c ≠ 0 && i.contains (c * step) unit
  match fits below, fits (below + 1) with
  | true, false => some below
  | false, true => some (below + 1)
  | true, true =>
    let fromBelow := i.mid * unit - below * step
    let toAbove := (below + 1) * step - i.mid * unit
    if fromBelow < toAbove then some below
    else if toAbove < fromBelow then some (below + 1)
    else some (below + below % 2)
  | false, false => none

/-- Moves the zeros at the end of the digits into the exponent; `fuel` bounds their number. -/
def stripZeros : Nat → Nat → Int → Nat × Int
  | 0, n, e => (n, e)
  | fuel + 1, n, e => if n ≠ 0 && n % 10 = 0 then stripZeros fuel (n / 10) (e + 1) else (n, e)

/-- The first grid, from `tried` digits on, with a neighbour that reads back. -/
def searchGrids (i : Interval) (top : Int) : (left tried : Nat) → Nat × Int
  | 0, _ => (0, 0)
  | left + 1, tried =>
    let grid := top + 1 - tried
    match onGrid i grid with
    | some n => stripZeros (tried + 1) n grid
    | none => searchGrids i top left (tried + 1)

/-- The shortest numeral that reads back to a finite number.  Seventeen digits always do. -/
def shortest (x : Binary64) : Decimal :=
  if x.isZero then ⟨x.negative, 0, 0⟩
  else
    let i := x.interval
    let (digits, exponent) := searchGrids i (decimalExponent i.mid i.den) 17 1
    ⟨x.negative, digits, exponent⟩

end CallScript.Binary64
