/-! # Double-precision numbers

A double is a sign, a biased exponent and a fraction.  All arithmetic goes through exact fractions of
natural numbers and one rounding, `ofRatio`: to the nearest double, a tie to the even one, and beyond the
largest to infinity. -/

namespace CallScript

/-- The number of fractions: the weight of the digit that stands in front of a fraction, which is not
stored. -/
abbrev Binary64.leading : Nat := 0x10000000000000

theorem Binary64.leading_eq : Binary64.leading = Nat.pow 2 52 := rfl

/-- A double-precision number, by its three fields. -/
structure Binary64 where
  negative : Bool
  exponent : Fin 2048
  fraction : Fin Binary64.leading
  deriving DecidableEq, Repr

namespace Binary64

/-- Neither infinite nor undefined. -/
def IsFinite (x : Binary64) : Prop := x.exponent.val < 2047

instance (x : Binary64) : Decidable x.IsFinite := inferInstanceAs (Decidable (_ < _))

/-- Zero of a given sign. -/
def zero (negative : Bool) : Binary64 := ⟨negative, 0, 0⟩

/-- Infinity of a given sign. -/
def infinity (negative : Bool) : Binary64 := ⟨negative, 2047, 0⟩

/-- A double that is no number. -/
def undefined : Binary64 := ⟨false, 2047, Fin.ofNat _ 0x8000000000000⟩

/-- Whether the number is zero, of either sign. -/
def isZero (x : Binary64) : Bool := x.exponent.val = 0 && x.fraction.val = 0

theorem isFinite_zero (negative : Bool) : (zero negative).IsFinite := by
  simp [zero, IsFinite]

theorem not_isFinite_infinity (negative : Bool) : ¬ (infinity negative).IsFinite :=
  Nat.lt_irrefl 2047

/-- The same magnitude with the other sign. -/
def neg (x : Binary64) : Binary64 := { x with negative := !x.negative }

theorem isFinite_neg {x : Binary64} : x.neg.IsFinite ↔ x.IsFinite := Iff.rfl

/-- The whole significand: the magnitude of a finite number is `significand * 2 ^ place`. -/
def significand (x : Binary64) : Nat :=
  if x.exponent.val = 0 then x.fraction.val else leading + x.fraction.val

/-- The exponent of the significand's last place. -/
def place (x : Binary64) : Int :=
  if x.exponent.val = 0 then -1074 else (x.exponent.val : Int) - 1075

/-- The 64 bits of the interchange format, as a number. -/
def bits (x : Binary64) : Nat :=
  (x.negative.toNat * 2048 + x.exponent.val) * leading + x.fraction.val

/-- A non-negative fraction of natural numbers. -/
structure Ratio where
  num : Nat
  den : Nat

/-- `r * 2 ^ n`. -/
def Ratio.scale (r : Ratio) (n : Int) : Ratio := ⟨r.num * Nat.pow 2 n.toNat, r.den * Nat.pow 2 (-n).toNat⟩

/-- The quotient to the nearest integer, a half to the even one. -/
def Ratio.round (r : Ratio) : Nat :=
  let q := r.num / r.den
  let rest := r.num % r.den
  if 2 * rest < r.den then q
  else if 2 * rest = r.den then q + q % 2
  else q + 1

/-- The exact magnitude of a finite number. -/
def magnitude (x : Binary64) : Ratio := Ratio.scale ⟨x.significand, 1⟩ x.place

/-- The last place that a double keeps of a positive fraction: the quotient by `2 ^ lastPlace` has 53
binary digits, or fewer if the fraction is below the normal range. -/
def lastPlace (r : Ratio) : Int :=
  let guess : Int := (r.num.log2 : Int) - r.den.log2 - 52
  let scaled := r.scale (-guess)
  max (-1074) (if scaled.num < leading * scaled.den then guess - 1 else guess)

/-- The number `m * 2 ^ place`, for an `m` of at most 53 binary digits or `2 ^ 53` itself. -/
def assemble (negative : Bool) (m : Nat) (place : Int) : Binary64 :=
  if m < leading then ⟨negative, 0, Fin.ofNat _ m⟩
  else
    let biased := (place + 1075).toNat + (if m < 2 * leading then 0 else 1)
    if 2047 ≤ biased then infinity negative
    else ⟨negative, Fin.ofNat _ biased, if m < 2 * leading then Fin.ofNat _ (m - leading) else 0⟩

/-- The double nearest to a fraction. -/
def ofRatio (negative : Bool) (r : Ratio) : Binary64 :=
  if r.num = 0 then zero negative
  else
    let place := lastPlace r
    assemble negative (r.scale (-place)).round place

/-- The double nearest to a natural number. -/
def ofNat (n : Nat) : Binary64 := ofRatio false ⟨n, 1⟩

/-- The product of two finite numbers, rounded once. -/
def mul (x y : Binary64) : Binary64 :=
  ofRatio (x.negative != y.negative) (Ratio.scale ⟨x.significand * y.significand, 1⟩ (x.place + y.place))

/-- The quotient of a finite number by a finite one that is not zero, rounded once. -/
def div (x y : Binary64) : Binary64 :=
  ofRatio (x.negative != y.negative) (Ratio.scale ⟨x.significand, y.significand⟩ (x.place - y.place))

/-- The integer that a finite number without fraction is. -/
def toInt? (x : Binary64) : Option Int :=
  if x.IsFinite then
    let r := x.magnitude
    if r.num % r.den = 0 then
      some (if x.negative then -((r.num / r.den : Nat) : Int) else ((r.num / r.den : Nat) : Int))
    else none
  else none

end Binary64

end CallScript
