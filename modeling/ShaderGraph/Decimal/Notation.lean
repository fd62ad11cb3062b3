import ShaderGraph.Decimal.Shortest

/-!
# Written numbers

A number is written with the digits of its shortest decimal. The notation is
positional when the exponent of the leading digit is at least -4 and below 16,
and then shows at least one digit after the point; otherwise one digit stands
before the point and the exponent has a sign and at least two digits. Reading
takes a decimal to the nearest number.
-/

namespace ShaderGraph
namespace Decimal

/-- The digits of a natural number without the zeros at their end. -/
def significantDigits (value : Nat) : List Char :=
  ((Nat.toDigits 10 value).reverse.dropWhile (· == '0')).reverse

/-- The digits of a decimal in positional notation; the first digit counts
`10 ^ leading`. -/
def positional (digits : List Char) (leading : Int) : List Char :=
  if leading < 0 then
    '0' :: '.' :: (List.replicate (leading.natAbs - 1) '0' ++ digits)
  else
    let whole := leading.toNat + 1
    let fraction := digits.drop whole
    digits.take whole ++ List.replicate (whole - digits.length) '0' ++
      '.' :: (if fraction.isEmpty then ['0'] else fraction)

/-- The digits of a decimal with an explicit exponent. -/
def exponential (digits : List Char) (leading : Int) : List Char :=
  let power := Nat.toDigits 10 leading.natAbs
  let fraction := digits.drop 1
  digits.take 1 ++ (if fraction.isEmpty then [] else '.' :: fraction) ++
    'e' :: (if leading < 0 then '-' else '+') ::
      (List.replicate (2 - power.length) '0' ++ power)

/-- The written form of a positive decimal. -/
def writeScaled (decimal : Scaled) : List Char :=
  let digits := significantDigits decimal.digits
  let leading := digitCount decimal.digits + decimal.exponent - 1
  if -4 <= leading && leading < 16 then positional digits leading
  else exponential digits leading

/-- Whether the sign bit of a number is set. -/
def isNegative (value : Float) : Bool :=
  value.toBits.toNat >= Nat.pow 2 63

/-- The written form of a number. -/
def write (value : Float) : String :=
  let bits := value.toBits.toNat % Nat.pow 2 63
  if bits > 0x7FF0000000000000 then "nan"
  else
    let magnitude :=
      if bits = 0x7FF0000000000000 then ['i', 'n', 'f']
      else if bits = 0 then ['0', '.', '0']
      else writeScaled (shortest (Binary.ofFloat value))
    String.ofList (if isNegative value then '-' :: magnitude else magnitude)

/-- Positive infinity. -/
def infinity : Float := Float.ofBits 0x7FF0000000000000

/-- The number that is not a number. -/
def notANumber : Float := Float.ofBits 0x7FF8000000000000

/-- The number nearest to a nonnegative decimal; the even neighbour of two. A
decimal beyond the range of the format is infinite or zero whatever its digits. -/
def nearest (decimal : Scaled) : Float :=
  if decimal.digits = 0 then 0.0
  else
    let leading := digitCount decimal.digits + decimal.exponent
    if leading > 400 then infinity
    else if leading < -400 then 0.0
    else Float.ofScientific decimal.digits (decimal.exponent < 0) decimal.exponent.natAbs

/-- The number nearest to an integer, if it is finite. -/
def ofInteger? (value : Int) : Option Float :=
  let magnitude := nearest ⟨value.natAbs, 0⟩
  if magnitude.toBits = infinity.toBits then none
  else some (if value < 0 then -magnitude else magnitude)

end Decimal
end ShaderGraph
