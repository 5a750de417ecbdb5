/-!
Binary floating point numbers of 64 bits, as exact values: the one nearest to a decimal number, and the shortest
decimal number to which it is nearest.
-/

namespace InstrumentLink

/-- A number with 53 bits of precision; a finite one is its mantissa times a power of two. -/
inductive Binary64 where
  | finite (negative : Bool) (mantissa : Nat) (exponent : Int)
  | infinite (negative : Bool)
  | notANumber
  deriving DecidableEq, Repr

namespace Binary64

def roundDiv (numerator denominator : Nat) : Nat :=
  let quotient := numerator / denominator
  let rest := 2 * (numerator % denominator)
  if denominator < rest ∨ (denominator = rest ∧ quotient % 2 = 1) then quotient + 1 else quotient

def up (base : Nat) (exponent : Int) : Nat := base.pow exponent.toNat

def down (base : Nat) (exponent : Int) : Nat := base.pow (-exponent).toNat

def floorLog2 (numerator denominator : Nat) : Int :=
  let guess : Int := (Nat.log2 numerator : Int) - Nat.log2 denominator
  if denominator * up 2 guess ≤ numerator * down 2 guess then guess else guess - 1

/-- The number nearest to a quotient. Below 2 to the -1022 the steps stay the same; beyond the largest number
lies infinity. -/
def ofQuotient (negative : Bool) (numerator denominator : Nat) : Binary64 :=
  if numerator = 0 then finite negative 0 0
  else
    let exponent := max (floorLog2 numerator denominator - 52) (-1074)
    let mantissa := roundDiv (numerator * down 2 exponent) (denominator * up 2 exponent)
    let (mantissa, exponent) :=
      if mantissa = 0x20000000000000 then (0x10000000000000, exponent + 1) else (mantissa, exponent)
    if 971 < exponent then infinite negative else finite negative mantissa exponent

/-- The number nearest to some digits times a power of ten. Far outside the range the digits do not matter. -/
def ofDecimal (negative : Bool) (digits : Nat) (exponent : Int) : Binary64 :=
  let size : Int := exponent + (Nat.toDigits 10 digits).length
  if digits = 0 ∨ size < -400 then finite negative 0 0
  else if 400 < size then infinite negative
  else ofQuotient negative (digits * up 10 exponent) (down 10 exponent)

def scaledLt (a : Nat) (ten : Int) (b : Nat) (two : Int) : Bool :=
  a * up 10 ten * down 2 two < b * up 2 two * down 10 ten

def scaledLe (a : Nat) (ten : Int) (b : Nat) (two : Int) : Bool :=
  a * up 10 ten * down 2 two ≤ b * up 2 two * down 10 ten

/-- The numbers that are nearest to a mantissa times a power of two, its ends included when it is even. All
is counted in quarters of the last place; below a power of two the steps are half as long. -/
def isNear (mantissa : Nat) (exponent : Int) (digits : Nat) (ten : Int) : Bool :=
  let low := if mantissa = 0x10000000000000 ∧ -1074 < exponent then 4 * mantissa - 1 else 4 * mantissa - 2
  let high := 4 * mantissa + 2
  if mantissa % 2 = 0 then
    !scaledLt digits ten low (exponent - 2) && scaledLe digits ten high (exponent - 2)
  else
    !scaledLe digits ten low (exponent - 2) && scaledLt digits ten high (exponent - 2)

def multipleNear? (mantissa : Nat) (exponent : Int) (ten : Int) : Option Nat :=
  let below := mantissa * up 2 exponent * down 10 ten / (down 2 exponent * up 10 ten)
  match isNear mantissa exponent below ten && 0 < below, isNear mantissa exponent (below + 1) ten with
  | false, false => none
  | true, false => some below
  | false, true => some (below + 1)
  | true, true => if scaledLe (2 * below + 1) ten (2 * mantissa) exponent then some (below + 1) else some below

/-- The shortest digits and their power of ten: the largest power with a multiple that is near. -/
def shortest (mantissa : Nat) (exponent : Int) : Nat × Int :=
  let powers : List Int := (List.range 660).map fun (n : Nat) => (310 : Int) - n
  (powers.findSome? fun ten => (multipleNear? mantissa exponent ten).map (·, ten)).getD (0, 0)

def positional (digits : Nat) (ten : Int) : String :=
  let written := Nat.toDigits 10 digits
  let places := (-ten).toNat
  if 0 ≤ ten then String.ofList (written ++ List.replicate ten.toNat '0' ++ ['.', '0'])
  else
    let padded := List.replicate (places + 1 - written.length) '0' ++ written
    String.ofList (padded.take (padded.length - places) ++ '.' :: padded.drop (padded.length - places))

def sign (negative : Bool) : String := if negative then "-" else ""

def text : Binary64 → String
  | finite negative 0 _ => sign negative ++ "0.0"
  | finite negative mantissa exponent =>
    let (digits, ten) := shortest mantissa exponent
    sign negative ++ positional digits ten
  | infinite negative => sign negative ++ "inf"
  | notANumber => "NaN"

end Binary64
end InstrumentLink
