import WebTidy.Number.BinaryFraction

/-!
# Shortest decimal text of a double

A double is written with the fewest digits that read back as the same double, and of those with the
digits nearest to it. Magnitudes from `0.0001` up to `10^16` are positional, all others have an
exponent of at least two digits.
-/

namespace WebTidy

/-- The value `coefficient · 10 ^ exponent`. -/
structure DecimalFraction where
  coefficient : Nat
  exponent : Int
  deriving DecidableEq, Repr

def powerOfTen (n : Nat) : Nat := Nat.pow 10 n

/-- The decimal digits of a number. -/
def decimalDigits (n : Nat) : List Char := Nat.toDigits 10 n

/-- The exponent `k` with `10 ^ (k - 1) ≤ n / d < 10 ^ k`, for positive `n`. -/
def decimalExponent (n d : Nat) : Int :=
  if d ≤ n then (decimalDigits (n / d)).length
  else 1 - ((decimalDigits ((d - 1) / n)).length : Int)

/-- The doubles that read as the given one: all reals between the midpoints to its neighbours. -/
structure RoundingInterval where
  low : Nat
  high : Nat
  denominator : Nat
  closed : Bool

/-- In units of a quarter of the last binary place, so that every midpoint is whole. -/
def BinaryFraction.interval (x : BinaryFraction) : RoundingInterval :=
  let m := x.significand
  let up := x.exponent.toNat
  let below := if m = hiddenBit ∧ x.exponent > -1074 then 1 else 2
  ⟨(4 * m - below) <<< up, (4 * m + 2) <<< up, 4 <<< (-x.exponent).toNat, m % 2 == 0⟩

/-- Whether a decimal lies in the interval. -/
def RoundingInterval.holds (i : RoundingInterval) (d : DecimalFraction) : Bool :=
  let n := d.coefficient * powerOfTen d.exponent.toNat * i.denominator
  let scale := powerOfTen (-d.exponent).toNat
  if i.closed then i.low * scale ≤ n && n ≤ i.high * scale
  else i.low * scale < n && n < i.high * scale

/-- The nearest decimals below and above with a last place of `10 ^ exponent`, nearest first. -/
def BinaryFraction.neighbours (x : BinaryFraction) (exponent : Int) : List DecimalFraction :=
  let n := x.ratio.1 * powerOfTen (-exponent).toNat
  let d := x.ratio.2 * powerOfTen exponent.toNat
  let below := n / d
  if 2 * (n % d) < d ∨ (2 * (n % d) = d ∧ below % 2 = 0) then
    [⟨below, exponent⟩, ⟨below + 1, exponent⟩]
  else [⟨below + 1, exponent⟩, ⟨below, exponent⟩]

/-- The shortest decimal that reads as the double, for a positive significand. -/
def BinaryFraction.shortest (x : BinaryFraction) : DecimalFraction :=
  let k := decimalExponent x.ratio.1 x.ratio.2
  let candidates := (List.range 17).flatMap fun (n : Nat) => x.neighbours (k - (n + 1))
  (candidates.find? x.interval.holds).getD ⟨x.significand, x.exponent⟩

/-- The decimal in writing: its digits without trailing zeros and the place of the point. -/
def DecimalFraction.render (d : DecimalFraction) : String :=
  let all := decimalDigits d.coefficient
  let digits := (all.reverse.dropWhile (· == '0')).reverse
  let point : Int := all.length + d.exponent
  if -4 < point ∧ point ≤ 16 then
    if point ≤ 0 then "0." ++ String.ofList (List.replicate point.natAbs '0' ++ digits)
    else
      let whole := (digits ++ List.replicate point.toNat '0').take point.toNat
      let part := digits.drop point.toNat
      String.ofList whole ++ "." ++ (if part.isEmpty then "0" else String.ofList part)
  else
    let power := point - 1
    let exponent := toString power.natAbs
    String.ofList (digits.take 1)
      ++ (if digits.length ≤ 1 then "" else "." ++ String.ofList (digits.drop 1))
      ++ (if power < 0 then "e-" else "e+")
      ++ (if exponent.length < 2 then "0" ++ exponent else exponent)

def BinaryFraction.render (x : BinaryFraction) : String :=
  (if x.negative then "-" else "")
    ++ (if x.significand = 0 then "0.0" else x.shortest.render)

/-- The text of a double; what is no number is `nan`. -/
def renderFloat (x : Float) : String :=
  match BinaryFraction.ofBits? x.toBits.toNat with
  | some b => b.render
  | none => if x.isNaN then "nan" else if x < 0 then "-inf" else "inf"

end WebTidy
