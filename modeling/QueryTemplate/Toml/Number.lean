/-
# Integers and floats

| number | digits | between digits |
| --- | --- | --- |
| decimal | optional sign; no zero in front of other digits | one underscore |
| hexadecimal, octal, binary | behind `0x`, `0o`, `0b`; no sign | one underscore |
| float | a decimal with a fraction, an exponent or both | one underscore |
| special float | `inf` and `nan` with an optional sign | |

An integer has 64 bits, with a sign.
-/

import QueryTemplate.Decimal.Numeral
import QueryTemplate.Toml.Text

namespace QueryTemplate
namespace Toml
namespace Number

open Reader

/-- A sign, if there is one. -/
def sign : Reader (Option Char) := (one fun x => x == '+' || x == '-').option

/-- Further digits, each after an underscore or not. -/
def moreDigits (isDigit : Char → Bool) : Reader Unit := do
  let digit : Reader Unit := do
    let _ ← one isDigit
  let _ ← many <| either digit do
    char '_'
    expecting "digit" (commit digit)

/-- Digits, the first of which is not optional. -/
def digits (isDigit : Char → Bool) : Reader Unit := do
  let _ ← one isDigit
  moreDigits isDigit

/-- A decimal integer as it is written. -/
def decimal : Reader (List Char) :=
  labelled "integer" <| consumed do
    let _ ← sign
    either
      (do
        let _ ← one fun x => '1' ≤ x && x ≤ '9'
        moreDigits Char.isDigit)
      (do
        let _ ← one Char.isDigit)

/-! ## Integers -/

/-- An integer of 64 bits. -/
def inRange (n : Int) : Except Cause Int :=
  if Int64.maxValue.toInt < n then .error .tooLarge
  else if n < Int64.minValue.toInt then .error .tooSmall
  else .ok n

/-- The value of a decimal integer. -/
def decimalValue (xs : List Char) : Int :=
  let n : Int := Decimal.ofDigits (xs.filter Char.isDigit)
  if xs.head? == some '-' then -n else n

/-- An integer in another base, behind its mark. -/
def based (label mark : String) (base : Nat) (isDigit : Char → Bool) : Reader Int :=
  commit <| checked
    (labelled label do
      literal mark.toList
      consumed (commit (digits isDigit)))
    fun xs =>
      inRange ((xs.filter isDigit).foldl (fun n x => base * n + Text.hexValue x) 0 : Nat)

/-- An integer. -/
def integer : Reader Int := fun c =>
  match c.rest.take 2 with
  | ['0', 'x'] => based "hexadecimal integer" "0x" 16 Text.isHexDigit c
  | ['0', 'o'] => based "octal integer" "0o" 8 (fun x => '0' ≤ x && x ≤ '7') c
  | ['0', 'b'] => based "binary integer" "0b" 2 (fun x => x == '0' || x == '1') c
  | _ =>
    match decimal c with
    | .error e => .error e
    | .ok (xs, c') =>
      match inRange (decimalValue xs) with
      | .error cause => commit (failFor cause) c
      | .ok n => .ok (n, c')

/-! ## Floats -/

/-- A point and digits. -/
def fraction : Reader Unit := do
  char '.'
  expecting "digit" (commit (digits Char.isDigit))

/-- An exponent. -/
def exponent : Reader Unit := do
  let _ ← one fun x => x == 'e' || x == 'E'
  let _ ← sign
  commit (digits Char.isDigit)

/-- A float as it is written. -/
def written : Reader (List Char) :=
  consumed do
    let _ ← decimal
    either exponent do
      fraction
      let _ ← exponent.option

/-- The text of the number that is nearest to a written float; `none` if that is beyond
the greatest one. -/
def nearestText? (xs : List Char) : Option String :=
  let plain := (xs.filter (· != '_')).dropWhile (· == '+')
  let text? := (Decimal.Numeral.ofChars? plain).bind Decimal.Numeral.text?
  match text? with
  | some text => some (if text.toList.contains '.' then text else text ++ ".0")
  | none => if plain.head? == some '-' then some "-inf" else none

/-- A float in digits. -/
def inDigits : Reader String := fun c =>
  match written c with
  | .error e => .error e
  | .ok (xs, c') =>
    match nearestText? xs with
    | some text => .ok (text, c')
    | none => commit fail c

/-- Infinity, without sign. -/
def infinity : Reader String := do
  literal "inf".toList
  return "inf"

/-- Not a number. -/
def notNumber : Reader String := do
  literal "nan".toList
  return "NaN"

/-- A special float. -/
def special : Reader String := do
  let s ← sign
  let text ← either infinity notNumber
  return if s == some '-' && text == "inf" then "-inf" else text

/-- A float. -/
def float : Reader String := labelled "floating-point number" (either inDigits special)

end Number
end Toml
end QueryTemplate
