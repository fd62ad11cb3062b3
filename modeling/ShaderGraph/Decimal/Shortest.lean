/-!
# Shortest decimals of binary numbers

A double-precision number stands for all reals that round to it. Its shortest
decimal has the fewest digits among the decimals of that interval and, among
those, lies nearest to the number. The search tries the grids of one, two and
more digits in turn, on exact natural numbers.
-/

namespace ShaderGraph
namespace Decimal

/-- The nonnegative number `significand * 2 ^ exponent`. -/
structure Binary where
  significand : Nat
  exponent : Int

/-- The decimal number `digits * 10 ^ exponent`. -/
structure Scaled where
  digits : Nat
  exponent : Int
  deriving DecidableEq

/-- The absolute value of a finite number, as its bits give it. -/
def Binary.ofFloat (value : Float) : Binary :=
  let bits := value.toBits.toNat
  let field : Nat := bits / Nat.pow 2 52 % Nat.pow 2 11
  let fraction : Nat := bits % Nat.pow 2 52
  if field = 0 then ⟨fraction, -1074⟩ else ⟨Nat.pow 2 52 + fraction, (field : Int) - 1075⟩

/-- The power `base ^ exponent` as a numerator and a denominator. -/
def ratioPower (base : Nat) (exponent : Int) : Nat × Nat :=
  if exponent < 0 then (1, Nat.pow base exponent.natAbs) else (Nat.pow base exponent.natAbs, 1)

/-- The number of decimal digits of a natural number. -/
def digitCount (value : Nat) : Nat :=
  (Nat.toDigits 10 value).length

/-- The exponent of the leading decimal digit of a positive number. -/
def leadingExponent (number : Binary) : Int :=
  let (numerator, denominator) := ratioPower 2 number.exponent
  digitCount (number.significand * numerator * Nat.pow 10 350 / denominator) - 351

/-- The point of a decimal grid that rounds to the number, the nearer one if
two do. The grid consists of the multiples of `10 ^ unit`. -/
def onGrid? (number : Binary) (unit : Int) : Option Scaled :=
  let (two, twoUnder) := ratioPower 2 number.exponent
  let (tenUnder, ten) := ratioPower 10 unit
  let step := two * ten
  let denominator := twoUnder * tenUnder
  let below := number.significand * step / denominator
  let rest := number.significand * step % denominator
  let lowerReach := if number.significand = Nat.pow 2 52 then step else 2 * step
  let reaches (distance reach : Nat) : Bool :=
    if number.significand % 2 = 0 then 4 * distance <= reach else 4 * distance < reach
  let lowerFits := reaches rest lowerReach
  let upperFits := reaches (denominator - rest) (2 * step)
  let upperNearer :=
    2 * rest > denominator || (2 * rest = denominator && below % 2 = 1)
  if lowerFits && !(upperFits && upperNearer) then some ⟨below, unit⟩
  else if upperFits then some ⟨below + 1, unit⟩
  else none

/-- The shortest decimal of a positive number. Seventeen digits always suffice. -/
def shortest (number : Binary) : Scaled :=
  let leading := leadingExponent number
  ((List.range 17).findSome? fun (more : Nat) => onGrid? number (leading - more)).getD ⟨0, 0⟩

end Decimal
end ShaderGraph
