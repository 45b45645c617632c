/-
# Binary numbers of 64 bits, and their shortest decimals

A positive finite number of the format is `m · 2^q` with `m < 2^53` and
`-1074 ≤ q ≤ 971`; `m` has all 53 bits unless `q = -1074`.

| direction | rule |
| --- | --- |
| ratio to number | the nearest number, of two equally near the one with even `m` |
| number to decimal | the fewest digits that read back as the number, of those the nearest decimal |

All arithmetic is on natural numbers.
-/

namespace QueryTemplate
namespace Decimal

/-- The number `mantissa · 2^exponent`. -/
structure Binary64 where
  mantissa : Nat
  exponent : Int
deriving DecidableEq, Repr

/-- `digits · 10^exponent`. -/
structure Scaled where
  digits : Nat
  exponent : Int
deriving DecidableEq, Repr

/-- The quotient rounded to the nearest natural number, a half to the even one. -/
def roundHalfEven (num den : Nat) : Nat :=
  let q := num / den
  let r := num % den
  if 2 * r < den then q
  else if den < 2 * r then q + 1
  else if q % 2 = 0 then q else q + 1

/-- `n · 2^e / d` as a quotient of natural numbers. -/
def scaleBinary (n d : Nat) (e : Int) : Nat × Nat :=
  if 0 ≤ e then (n * Nat.pow 2 e.toNat, d) else (n, d * Nat.pow 2 (-e).toNat)

/-- `n · 10^e / d` as a quotient of natural numbers. -/
def scaleDecimal (n d : Nat) (e : Int) : Nat × Nat :=
  if 0 ≤ e then (n * Nat.pow 10 e.toNat, d) else (n, d * Nat.pow 10 (-e).toNat)

namespace Binary64

/-- The binary exponent at which `num / den` has 53 bits before the point. -/
def gridExponent (num den : Nat) : Int :=
  let guess : Int := (num.log2 : Int) - den.log2 - 52
  let r := scaleBinary num den (-guess)
  if r.1 < Nat.pow 2 52 * r.2 then guess - 1 else guess

/-- The number nearest to `num / den`, or `none` beyond the largest one. -/
def nearest (num den : Nat) : Option Binary64 :=
  if num = 0 then some ⟨0, -1074⟩ else
    let q := max (gridExponent num den) (-1074)
    let r := scaleBinary num den (-q)
    let m := roundHalfEven r.1 r.2
    let x : Binary64 := if m = Nat.pow 2 53 then ⟨Nat.pow 2 52, q + 1⟩ else ⟨m, q⟩
    if 971 < x.exponent then none else some x

/-- How many decimal places stand between the point and the first digit of
`num / den < 1`, counted up to `fuel`. -/
def leadingZeros (num den : Nat) : Nat → Nat
  | 0 => 0
  | fuel + 1 => if den ≤ num * 10 then 0 else leadingZeros (num * 10) den fuel + 1

/-- The `e` with `10^(e-1) ≤ num / den < 10^e`. -/
def magnitude (num den : Nat) : Int :=
  if den ≤ num then (Nat.toDigits 10 (num / den)).length
  else -(leadingZeros num den 400)

/-- The decimal with `n` digits that reads back as `x`, the nearer one if two do. -/
def decimalOf? (x : Binary64) (n : Nat) : Option Scaled :=
  let value := scaleBinary (4 * x.mantissa) 1 (x.exponent - 2)
  let below : Nat := if x.mantissa = Nat.pow 2 52 ∧ -1074 < x.exponent then 1 else 2
  let k : Int := magnitude value.1 value.2 - n
  let unit := scaleDecimal 1 1 k
  let low := scaleBinary (4 * x.mantissa - below) 1 (x.exponent - 2)
  let high := scaleBinary (4 * x.mantissa + 2) 1 (x.exponent - 2)
  let closed := x.mantissa % 2 = 0
  let down := value.1 * unit.2 / (value.2 * unit.1)
  let up := down + 1
  let readsBack (d : Nat) : Bool :=
    let l := low.1 * unit.2
    let l' := d * unit.1 * low.2
    let h := d * unit.1 * high.2
    let h' := high.1 * unit.2
    if closed then l ≤ l' && h ≤ h' else l < l' && h < h'
  let nearerDown : Bool :=
    2 * value.1 * unit.2 < (down + up) * unit.1 * value.2
  match readsBack down, readsBack up with
  | false, false => none
  | true, false => some ⟨down, k⟩
  | false, true => some ⟨up, k⟩
  | true, true => some ⟨if nearerDown then down else up, k⟩

/-- The shortest decimal that reads back as `x`; seventeen digits always do. -/
def shortest (x : Binary64) : Scaled :=
  if x.mantissa = 0 then ⟨0, 0⟩
  else ((List.range' 1 17).findSome? x.decimalOf?).getD ⟨x.mantissa, 0⟩

end Binary64
end Decimal
end QueryTemplate
