/-!
# Fixed places

A double-precision number is an integer times a power of two, so its value is
known exactly, and the nearest number with six decimal places is found in whole
numbers. Of two that are equally near the even one is taken.
-/

namespace Reindex.Decimal

/-- A quotient rounded to the nearest whole number, a half to the even one. -/
def roundDiv (dividend divisor : Nat) : Nat :=
  let quotient := dividend / divisor
  let rest := dividend % divisor
  if 2 * rest < divisor then quotient
  else if divisor < 2 * rest then quotient + 1
  else if quotient % 2 = 0 then quotient else quotient + 1

/-- The nearest number with so many significant bits. -/
def significant (bits n : Nat) : Nat :=
  let scale := 1 <<< (n.log2 + 1 - bits)
  roundDiv n scale * scale

/-- A finite non-negative number as an integer over a power of two, and another
power of two that multiplies it. -/
def decode (value : Float) : Nat × Nat × Nat :=
  let bits := value.toBits.toNat
  let exponent := bits / (1 <<< 52) % (1 <<< 11)
  let fraction := bits % (1 <<< 52)
  let mantissa := if exponent = 0 then fraction else fraction + (1 <<< 52)
  let shift := if exponent = 0 then 1 else exponent
  (mantissa, 1075 - shift, shift - 1075)

/-- A whole number of millionths with a point in front of the last six digits. -/
def pointed (millionths : Nat) : String :=
  let fraction := toString (millionths % 1000000)
  toString (millionths / 1000000) ++ "." ++
    String.ofList (List.replicate (6 - fraction.length) '0') ++ fraction

/-- A finite non-negative number with six decimal places. -/
def sixPlaces (value : Float) : String :=
  let (mantissa, down, up) := decode value
  pointed (roundDiv ((mantissa <<< up) * 1000000) (1 <<< down))

end Reindex.Decimal
