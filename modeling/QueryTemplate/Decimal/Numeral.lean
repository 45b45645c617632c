/-
# Decimal numerals

A numeral is an optional minus, digits with at most one point among them, and an
optional exponent: `42`, `-1.5e3`, `.25`, `5.`.  Its value is taken as the nearest
binary number of 64 bits and written back with the shortest digits, always
positional: `1e21` becomes a one and twenty-one zeros, `-0.0` becomes `-0`.
-/

import QueryTemplate.Decimal.Binary64

namespace QueryTemplate
namespace Decimal

/-- `± digits · 10^exponent`, as written. -/
structure Numeral where
  negative : Bool
  digits : Nat
  exponent : Int
deriving DecidableEq, Repr

/-- The natural number that a list of ASCII digits denotes. -/
def ofDigits (cs : List Char) : Nat :=
  cs.foldl (fun n c => 10 * n + (c.toNat - 48)) 0

/-- The exponent part, `e` with an optional sign and digits, or nothing. -/
def exponentOf? : List Char → Option Int
  | [] => some 0
  | e :: rest =>
    if e != 'e' && e != 'E' then none else
      let (negative, ds) := match rest with
        | '-' :: ds => (true, ds)
        | '+' :: ds => (false, ds)
        | ds => (false, ds)
      if ds.isEmpty || !ds.all Char.isDigit then none
      else some (if negative then -(ofDigits ds : Int) else ofDigits ds)

/-- Reads a numeral that takes up the whole text. -/
def Numeral.ofChars? (cs : List Char) : Option Numeral :=
  let (negative, body) := match cs with
    | '-' :: r => (true, r)
    | r => (false, r)
  let whole := body.takeWhile Char.isDigit
  let tail := body.dropWhile Char.isDigit
  let (fraction, expo) := match tail with
    | '.' :: r => (r.takeWhile Char.isDigit, r.dropWhile Char.isDigit)
    | r => ([], r)
  if whole.isEmpty && fraction.isEmpty then none
  else (exponentOf? expo).map fun e =>
    ⟨negative, ofDigits (whole ++ fraction), e - fraction.length⟩

/-- The absolute value as the nearest binary number, `none` if that is infinite.
A value outside `10^±400` is decided by its magnitude alone. -/
def Numeral.binary? (x : Numeral) : Option Binary64 :=
  let size : Int := (Nat.toDigits 10 x.digits).length
  if x.digits = 0 ∨ size + x.exponent < -400 then some ⟨0, -1074⟩
  else if 400 < size + x.exponent then none
  else
    let r := scaleDecimal x.digits 1 x.exponent
    Binary64.nearest r.1 r.2

/-- Positional text of a scaled decimal, without trailing zeros after the point. -/
def Scaled.plain (x : Scaled) : String :=
  let ds := (Nat.toDigits 10 x.digits)
  if 0 ≤ x.exponent then String.ofList (ds ++ List.replicate x.exponent.toNat '0')
  else
    let places := (-x.exponent).toNat
    let padded := List.replicate (places + 1 - ds.length) '0' ++ ds
    let whole := padded.take (padded.length - places)
    let fraction := ((padded.drop (padded.length - places)).reverse.dropWhile (· == '0')).reverse
    String.ofList (if fraction.isEmpty then whole else whole ++ '.' :: fraction)

/-- The text of a numeral's value: sign, then the shortest digits; `none` if infinite. -/
def Numeral.text? (x : Numeral) : Option String :=
  x.binary?.map fun b =>
    let digits := if b.mantissa = 0 then "0" else b.shortest.plain
    if x.negative then "-" ++ digits else digits

end Decimal
end QueryTemplate
