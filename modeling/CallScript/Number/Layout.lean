import CallScript.Number.Shortest

/-! # How a double is written

`Layout` holds the decisions of a format: which magnitudes are written in positional notation, and the
sign of a positive exponent.  A positional number always has a digit after the point, so that it cannot
be taken for an integer. -/

namespace CallScript

/-- The decisions of a format for finite doubles. -/
structure Layout where
  /-- Whether a number whose first digit stands for `10 ^ e` is written without an exponent. -/
  positional : Int → Bool
  /-- What stands between `e` and a non-negative exponent. -/
  plus : List Char

namespace Layout

/-- From `10 ^ -5` up to `10 ^ 16` numbers are positional; a positive exponent carries its sign. -/
def scientificBeyond : Layout := ⟨fun e => -5 ≤ e && e < 16, ['+']⟩

/-- Every number is positional. -/
def positionalAlways : Layout := ⟨fun _ => true, []⟩

/-- The digits of a numeral with the point after the first `whole` of them, zeros filled in. -/
def withPoint (digits : List Char) (whole : Int) : List Char :=
  if whole ≤ 0 then
    ['0', '.'] ++ List.replicate (-whole).toNat '0' ++ digits
  else
    let before := digits.take whole.toNat
    let after := digits.drop whole.toNat
    before ++ List.replicate (whole.toNat - before.length) '0' ++ ['.']
      ++ (if after.isEmpty then ['0'] else after)

/-- The digits with the point after the first, and an exponent. -/
def withExponent (layout : Layout) (digits : List Char) (e : Int) : List Char :=
  let mantissa := match digits with
    | [] => []
    | [d] => [d]
    | d :: rest => d :: '.' :: rest
  mantissa ++ ['e'] ++ (if e < 0 then ['-'] else layout.plus) ++ Nat.toDigits 10 e.natAbs

/-- A finite double in a format. -/
def write (layout : Layout) (x : Binary64) : List Char :=
  let d := x.shortest
  let digits := Nat.toDigits 10 d.digits
  let sign := if d.negative then ['-'] else []
  if d.digits = 0 then sign ++ ['0', '.', '0']
  else
    let whole : Int := digits.length + d.exponent
    if layout.positional (whole - 1) then sign ++ withPoint digits whole
    else sign ++ layout.withExponent digits (whole - 1)

end Layout

end CallScript
