import CallScript.Number.Binary64
import CallScript.Number.Bounds
import CallScript.Text.Word

/-! # Decimal numerals

A numeral is a signed integer times a power of ten.  `Decimal.toBinary64` is the double nearest to it.
`Decimal.scaled` is the reading by one multiplication or division: the leading digits that fit into 64
bits are taken exactly and scaled by a power of ten that is itself a double, so that the result may lie
one place off the nearest. -/

namespace CallScript

/-- The number `digits * 10 ^ exponent`, with a sign. -/
structure Decimal where
  negative : Bool
  digits : Nat
  exponent : Int
  deriving DecidableEq, Repr

namespace Decimal

/-- How many decimal digits a natural number has; none for zero. -/
def width (n : Nat) : Nat := if n = 0 then 0 else (Nat.toDigits 10 n).length

/-- The magnitude as a fraction. -/
def magnitude (d : Decimal) : Binary64.Ratio :=
  ⟨d.digits * Nat.pow 10 d.exponent.toNat, Nat.pow 10 (-d.exponent).toNat⟩

/-- The double nearest to a numeral.  Numerals beyond the range of doubles are told by their length, so
that no power of ten is larger than it need be. -/
def toBinary64 (d : Decimal) : Binary64 :=
  let top := (width d.digits : Int) + d.exponent
  if d.digits = 0 || top < -330 then Binary64.zero d.negative
  else if 310 < top then Binary64.infinity d.negative
  else Binary64.ofRatio d.negative d.magnitude

/-- The text of a numeral in parts, as readers find them. -/
structure Parts where
  negative : Bool
  whole : List Char
  fraction : List Char
  exponentNegative : Bool
  exponent : List Char

/-- The numeral that the parts spell. -/
def ofParts (p : Parts) : Decimal :=
  let e : Int := Text.digitsToNat p.exponent
  ⟨p.negative, Text.digitsToNat (p.whole ++ p.fraction),
    (if p.exponentNegative then -e else e) - p.fraction.length⟩

/-- Takes digits into an integer for as long as it fits into 64 bits; returns it with the digits left. -/
def takeFitting : Nat → List Char → Nat × List Char
  | n, [] => (n, [])
  | n, c :: rest =>
    let next := n * 10 + (c.toNat - '0'.toNat)
    if next < Bounds.unsigned then takeFitting next rest else (n, c :: rest)

/-- The largest power of ten by which a number is scaled in one step. -/
def largestStep : Nat := 308

/-- The double `10 ^ n`, for `n` up to `largestStep`. -/
def power (n : Nat) : Binary64 := Binary64.ofNat (Nat.pow 10 n)

/-- Scales a double up or down by a power of ten; `none` beyond the largest double. -/
def scaleBy (x : Binary64) (exponent : Int) : Option Binary64 :=
  if x.isZero then some x
  else if 0 ≤ exponent then
    if largestStep < exponent.toNat then none
    else
      let y := x.mul (power exponent.toNat)
      if y.IsFinite then some y else none
  else
    let down := (-exponent).toNat
    if down ≤ largestStep then some (x.div (power down))
    else scaleDown x down
where
  /-- Divides by `10 ^ down` in steps, until the number has vanished or one step is left. -/
  scaleDown (x : Binary64) (down : Nat) : Option Binary64 :=
    if x.isZero then some x
    else if _h : down ≤ largestStep then some (x.div (power down))
    else scaleDown (x.div (power largestStep)) (down - largestStep)
  termination_by down
  decreasing_by simp only [largestStep] at *; omega

/-- Reads a numeral by scaling its leading digits once; `none` if it is beyond the largest double. -/
def scaled (p : Parts) : Option Binary64 :=
  let (whole, dropped) := takeFitting 0 p.whole
  let (taken, left) := takeFitting whole p.fraction
  let used : Int := (p.fraction.length - left.length : Nat)
  let e : Int := Text.digitsToNat p.exponent
  let exponent := (if p.exponentNegative then -e else e) + dropped.length - used
  (scaleBy (Binary64.ofNat taken) exponent).map fun x => if p.negative then x.neg else x

end Decimal

end CallScript
