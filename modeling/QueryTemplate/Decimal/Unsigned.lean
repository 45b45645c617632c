/-
# Unsigned numbers of 64 bits

Digits are read from the left, and the first fault is the one that is reported: in
`99999999999999999999.5` the number is too large before the point is seen.
-/

namespace QueryTemplate
namespace Decimal

/-- Why a text is no unsigned number. -/
inductive UnsignedFault where
  | empty
  | notDigit
  | tooLarge
deriving DecidableEq, Repr

/-- The wording of a fault. -/
def UnsignedFault.message : UnsignedFault → String
  | .empty => "cannot parse integer from empty string"
  | .notDigit => "invalid digit found in string"
  | .tooLarge => "number too large to fit in target type"

/-- The largest unsigned number of 64 bits. -/
def maxUnsigned : Nat := UInt64.size - 1

/-- Reads further digits behind the number `n`. -/
def unsignedFrom (n : Nat) : List Char → Except UnsignedFault Nat
  | [] => .ok n
  | c :: rest =>
    if !c.isDigit then .error .notDigit
    else
      let m := 10 * n + (c.toNat - 48)
      if m ≤ maxUnsigned then unsignedFrom m rest else .error .tooLarge

/-- The number that a text is. -/
def unsigned (text : String) : Except UnsignedFault Nat :=
  if text.isEmpty then .error .empty else unsignedFrom 0 text.toList

end Decimal
end QueryTemplate
