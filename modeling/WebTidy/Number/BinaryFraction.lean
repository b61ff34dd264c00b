/-!
# Binary fractions

A finite double is a whole number times a power of two. `BinaryFraction.ofBits?` reads it off
the bits, and `divHalfEven` rounds a quotient to the nearest whole number, a tie to the even one.
-/

namespace WebTidy

/-- The value `± significand · 2 ^ exponent`. -/
structure BinaryFraction where
  negative : Bool
  significand : Nat
  exponent : Int
  deriving DecidableEq, Repr

/-- The leading bit of a significand, which the bits of a double leave out. -/
def hiddenBit : Nat := 1 <<< 52

/-- The value of a double given by its bits; none for infinities and for what is no number. -/
def BinaryFraction.ofBits? (bits : Nat) : Option BinaryFraction :=
  let negative := bits >>> 63 % 2 == 1
  let biased : Nat := bits >>> 52 % 2048
  let fraction : Nat := bits % hiddenBit
  if biased = 2047 then none
  else if biased = 0 then some ⟨negative, fraction, -1074⟩
  else some ⟨negative, hiddenBit + fraction, (biased : Int) - 1075⟩

/-- The magnitude as a numerator over a denominator. -/
def BinaryFraction.ratio (x : BinaryFraction) : Nat × Nat :=
  if x.exponent < 0 then (x.significand, 1 <<< x.exponent.natAbs)
  else (x.significand <<< x.exponent.natAbs, 1)

/-- The whole number nearest to `n / d`, the even one of two equally near. -/
def divHalfEven (n d : Nat) : Nat :=
  let q := n / d
  let r := n % d
  if 2 * r < d then q
  else if d < 2 * r then q + 1
  else if q % 2 = 0 then q
  else q + 1

end WebTidy
