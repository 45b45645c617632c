/-
# The shortest decimal of a number

The decimal of a given length is next to the number, on one of its two sides
(`Binary64.decimalOf?_eq`).  If neither side reads back, no decimal of that length does
(`Binary64.decimalOf?_eq_none`); otherwise it is the nearest one that does
(`Binary64.decimalOf?_eq_some`).  Seventeen digits are always enough
(`Binary64.exists_holds_seventeen`), so for a natural number the search stops, and it stops no later
than at the point (`Binary64.exists_shortest`).
-/

import QueryTemplate.Proofs.Decimal.Rounding

namespace QueryTemplate
namespace Decimal
namespace Binary64

variable {x : Binary64} {y : ℚ} {n : ℕ}

/-! ## Decimals with a given number of digits -/

/-- The number as a quotient. -/
def quotient (x : Binary64) : ℕ × ℕ := scaleBinary (4 * x.mantissa) 1 (x.exponent - 2)

/-- Scaling in quarters of the last place. -/
theorem scaleBinary_quarters (n : ℕ) (q : ℤ) :
    0 < (scaleBinary n 1 (q - 2)).2 ∧
      ((scaleBinary n 1 (q - 2)).1 : ℚ) / (scaleBinary n 1 (q - 2)).2 = n / 4 * 2 ^ q := by
  obtain ⟨hpos, hratio⟩ := scaleBinary_ratio n (q - 2)
  refine ⟨hpos, ?_⟩
  rw [hratio, zpow_sub₀ two_ne_zero]
  norm_num
  ring

/-- The quotient is the number. -/
theorem quotient_ratio (x : Binary64) :
    0 < x.quotient.2 ∧ (x.quotient.1 : ℚ) / x.quotient.2 = x.value := by
  obtain ⟨hpos, hratio⟩ := scaleBinary_quarters (4 * x.mantissa) x.exponent
  refine ⟨hpos, hratio.trans ?_⟩
  rw [value]
  push_cast
  ring

/-- The ends of the cell as quotients. -/
theorem low_ratio (hx : x.FromOne) :
    let below : ℕ := if x.mantissa = Nat.pow 2 52 ∧ -1074 < x.exponent then 1 else 2
    let r := scaleBinary (4 * x.mantissa - below) 1 (x.exponent - 2)
    0 < r.2 ∧ (r.1 : ℚ) / r.2 = x.low := by
  intro below r
  obtain ⟨hpos, hratio⟩ := scaleBinary_quarters (4 * x.mantissa - below) x.exponent
  refine ⟨hpos, hratio.trans ?_⟩
  have hmin := hx.le_mantissa
  have hexponent : -1074 < x.exponent := lt_of_lt_of_le (by decide) hx.le_exponent
  by_cases hm : x.mantissa = 2 ^ 52
  · have hbelow : below = 1 := if_pos ⟨hm, hexponent⟩
    rw [hbelow, low, if_pos hm, Nat.cast_sub (by omega)]
    push_cast
    ring
  · have hbelow : below = 2 := if_neg fun h => hm h.1
    rw [hbelow, low, if_neg hm, Nat.cast_sub (by omega)]
    push_cast
    ring

/-- The upper end of the cell as a quotient. -/
theorem high_ratio (x : Binary64) :
    let r := scaleBinary (4 * x.mantissa + 2) 1 (x.exponent - 2)
    0 < r.2 ∧ (r.1 : ℚ) / r.2 = x.high := by
  obtain ⟨hpos, hratio⟩ := scaleBinary_quarters (4 * x.mantissa + 2) x.exponent
  refine ⟨hpos, hratio.trans ?_⟩
  rw [high]
  push_cast
  ring

/-- Whether a multiple of a unit is in a cell, decided by cross multiplication. -/
theorem inCell_iff_cross {m d : ℕ} {low high unit : ℕ × ℕ} (hlow : 0 < low.2) (hhigh : 0 < high.2)
    (hunit : 0 < unit.2) :
    InCell m (low.1 / low.2) (high.1 / high.2) (d * (unit.1 / unit.2)) ↔
      (if m % 2 = 0 then
        decide (low.1 * unit.2 ≤ d * unit.1 * low.2) && decide (d * unit.1 * high.2 ≤ high.1 * unit.2)
      else
        decide (low.1 * unit.2 < d * unit.1 * low.2) && decide (d * unit.1 * high.2 < high.1 * unit.2))
        = true := by
  have hlow' : (0 : ℚ) < low.2 := by exact_mod_cast hlow
  have hhigh' : (0 : ℚ) < high.2 := by exact_mod_cast hhigh
  have hunit' : (0 : ℚ) < unit.2 := by exact_mod_cast hunit
  rw [InCell, ← mul_div_assoc, div_le_div_iff₀ hlow' hunit', div_le_div_iff₀ hunit' hhigh',
    div_lt_div_iff₀ hlow' hunit', div_lt_div_iff₀ hunit' hhigh']
  split
  · rw [Bool.and_eq_true, decide_eq_true_iff, decide_eq_true_iff]
    exact_mod_cast Iff.rfl
  · rw [Bool.and_eq_true, decide_eq_true_iff, decide_eq_true_iff]
    exact_mod_cast Iff.rfl

/-- The quotient of two quotients, rounded down. -/
theorem cross_div_bounds {value unit : ℕ × ℕ} (hvalue : 0 < value.2) (hunit₁ : 0 < unit.1)
    (hunit₂ : 0 < unit.2) :
    let down := value.1 * unit.2 / (value.2 * unit.1)
    (down * (unit.1 / unit.2) : ℚ) ≤ value.1 / value.2 ∧
      (value.1 / value.2 : ℚ) < (down + 1 : ℕ) * (unit.1 / unit.2) := by
  intro down
  have hvalue' : (0 : ℚ) < value.2 := by exact_mod_cast hvalue
  have hunit' : (0 : ℚ) < unit.2 := by exact_mod_cast hunit₂
  have hle : down * (value.2 * unit.1) ≤ value.1 * unit.2 := Nat.div_mul_le_self _ _
  have hlt : value.1 * unit.2 < (down + 1) * (value.2 * unit.1) :=
    Nat.lt_mul_of_div_lt (Nat.lt_succ_self _) (Nat.mul_pos hvalue hunit₁)
  rw [← mul_div_assoc, ← mul_div_assoc, div_le_div_iff₀ hunit' hvalue', div_lt_div_iff₀ hvalue' hunit']
  constructor
  · exact_mod_cast (by linarith : down * unit.1 * value.2 ≤ value.1 * unit.2)
  · exact_mod_cast (by linarith : value.1 * unit.2 < (down + 1) * unit.1 * value.2)

/-- How many digits the number has before the point. -/
def places (x : Binary64) : ℕ := (Nat.toDigits 10 (x.quotient.1 / x.quotient.2)).length

/-- A number from one on is at least one. -/
theorem one_le_value (hx : x.FromOne) : 1 ≤ x.value := by
  have hstep : (2 : ℚ) ^ (-52 : ℤ) ≤ 2 ^ x.exponent :=
    zpow_le_zpow_right₀ one_le_two hx.le_exponent
  have hunit : (2 : ℚ) ^ 52 * 2 ^ (-52 : ℤ) = 1 := by norm_num
  calc (1 : ℚ) = 2 ^ 52 * 2 ^ (-52 : ℤ) := hunit.symm
    _ ≤ x.mantissa * 2 ^ x.exponent := mul_le_mul hx.le_cast hstep (by positivity) (by positivity)

/-- The quotient of a number from one on is at least one. -/
theorem quotient_le (hx : x.FromOne) : x.quotient.2 ≤ x.quotient.1 := by
  obtain ⟨hpos, hratio⟩ := x.quotient_ratio
  have hone := one_le_value hx
  rw [← hratio, one_le_div (by exact_mod_cast hpos)] at hone
  exact_mod_cast hone

/-- Every number has a place before the point. -/
theorem places_pos (x : Binary64) : 0 < x.places := Nat.length_toDigits_pos

/-- A number lies below the power of ten of its places. -/
theorem value_lt_pow (x : Binary64) : x.value < 10 ^ x.places := by
  obtain ⟨hpos, hratio⟩ := x.quotient_ratio
  have hlt : x.quotient.1 / x.quotient.2 < 10 ^ x.places :=
    (Nat.length_toDigits_le_iff (by decide) x.places_pos).1 le_rfl
  rw [Nat.div_lt_iff_lt_mul hpos] at hlt
  rw [← hratio, div_lt_iff₀ (by exact_mod_cast hpos)]
  exact_mod_cast hlt

/-- A number lies above the power of ten of one place less. -/
theorem pow_le_value (hx : x.FromOne) : 10 ^ x.places ≤ 10 * x.value := by
  obtain ⟨hpos, hratio⟩ := x.quotient_ratio
  obtain ⟨k, hk⟩ := Nat.exists_eq_add_one.2 x.places_pos
  have hle : 10 ^ k ≤ x.quotient.1 / x.quotient.2 := by
    rcases Nat.eq_zero_or_pos k with rfl | hk₀
    · exact Nat.div_pos (quotient_le hx) hpos
    · refine not_lt.1 fun hlt => ?_
      have hshort : x.places ≤ k := (Nat.length_toDigits_le_iff (by decide) hk₀).2 hlt
      omega
  rw [Nat.le_div_iff_mul_le hpos] at hle
  have hle' : (10 : ℚ) ^ k ≤ x.value := by
    rw [← hratio, le_div_iff₀ (by exact_mod_cast hpos)]
    exact_mod_cast hle
  rw [hk, pow_succ]
  linarith

/-- The magnitude of the quotient counts the places before the point. -/
theorem magnitude_quotient (hx : x.FromOne) :
    magnitude x.quotient.1 x.quotient.2 = x.places :=
  if_pos (quotient_le hx)

/-- The choice of `decimalOf?`: the decimals of one length on both sides of the number, which of
them read back, and which is the nearer one. -/
theorem decimalOf?_eq (hx : x.FromOne) (n : ℕ) :
    ∃ (down : ℕ) (first second nearer : Bool),
      let unit : ℚ := 10 ^ ((x.places : ℤ) - n)
      (down * unit ≤ x.value ∧ x.value < (down + 1 : ℕ) * unit) ∧
      (x.Holds (down * unit) ↔ first = true) ∧
      (x.Holds ((down + 1 : ℕ) * unit) ↔ second = true) ∧
      (2 * x.value < (down + (down + 1) : ℕ) * unit ↔ nearer = true) ∧
      x.decimalOf? n = match first, second with
        | false, false => none
        | true, false => some ⟨down, x.places - n⟩
        | false, true => some ⟨down + 1, x.places - n⟩
        | true, true => some ⟨if nearer then down else down + 1, x.places - n⟩ := by
  obtain ⟨hlow, hlowratio⟩ := low_ratio hx
  obtain ⟨hhigh, hhighratio⟩ := x.high_ratio
  obtain ⟨hvalue, hvalueratio⟩ := x.quotient_ratio
  obtain ⟨hunit, hunitratio⟩ := scaleDecimal_ratio 1 ((x.places : ℤ) - n)
  rw [Nat.cast_one, one_mul] at hunitratio
  have hvalue' : (0 : ℚ) < x.quotient.2 := by exact_mod_cast hvalue
  have hunit' : (0 : ℚ) < (scaleDecimal 1 1 ((x.places : ℤ) - n)).2 := by exact_mod_cast hunit
  have hnumerator : 0 < (scaleDecimal 1 1 ((x.places : ℤ) - n)).1 := by
    rw [div_eq_iff hunit'.ne'] at hunitratio
    have : (0 : ℚ) < (scaleDecimal 1 1 ((x.places : ℤ) - n)).1 := by
      rw [hunitratio]
      positivity
    exact_mod_cast this
  unfold decimalOf?
  have hquotient : scaleBinary (4 * x.mantissa) 1 (x.exponent - 2) = x.quotient := rfl
  simp only [hquotient, magnitude_quotient hx]
  simp only [Holds, ← hlowratio, ← hhighratio, ← hunitratio, ← hvalueratio]
  refine ⟨_, _, _, _, ?_, inCell_iff_cross hlow hhigh hunit, inCell_iff_cross hlow hhigh hunit,
    ?_, rfl⟩
  · exact cross_div_bounds hvalue hnumerator hunit
  · rw [decide_eq_true_iff, ← mul_div_assoc, ← mul_div_assoc, div_lt_div_iff₀ hvalue' hunit']
    exact_mod_cast Iff.rfl

/-- If a multiple of a unit reads back, so does the one next to the number on its side, which is
nearer. -/
theorem Holds.neighbour {down c : ℕ} {unit : ℚ} (hunit : 0 < unit)
    (hle : down * unit ≤ x.value) (hlt : x.value < (down + 1 : ℕ) * unit) (h : x.Holds (c * unit)) :
    (x.Holds (down * unit) ∧ x.value - down * unit ≤ |c * unit - x.value|) ∨
      (x.Holds ((down + 1 : ℕ) * unit) ∧ (down + 1 : ℕ) * unit - x.value ≤ |c * unit - x.value|) := by
  rcases Nat.lt_or_ge down c with hc | hc
  · right
    have hmul : ((down + 1 : ℕ) : ℚ) * unit ≤ c * unit :=
      mul_le_mul_of_nonneg_right (Nat.cast_le.2 hc) hunit.le
    exact ⟨x.holds_value.between h hlt.le hmul, by linarith [le_abs_self (c * unit - x.value)]⟩
  · left
    have hmul : (c : ℚ) * unit ≤ down * unit :=
      mul_le_mul_of_nonneg_right (Nat.cast_le.2 hc) hunit.le
    exact ⟨h.between x.holds_value hmul hle, by linarith [neg_le_abs (c * unit - x.value)]⟩

/-- Where no decimal of `n` digits is found, the cell holds none. -/
theorem decimalOf?_eq_none (hx : x.FromOne) (h : x.decimalOf? n = none) (c : ℕ) :
    ¬x.Holds (c * 10 ^ ((x.places : ℤ) - n)) := by
  obtain ⟨down, first, second, nearer, ⟨hle, hlt⟩, hfirst, hsecond, -, heq⟩ := decimalOf?_eq hx n
  intro hc
  rw [h] at heq
  rcases hc.neighbour (by positivity) hle hlt with ⟨hdown, -⟩ | ⟨hup, -⟩
  · rw [hfirst.1 hdown] at heq
    cases second <;> cases heq
  · rw [hsecond.1 hup] at heq
    cases first <;> cases heq

/-- A decimal of `n` digits that is found is in the cell, and none in the cell is nearer. -/
theorem decimalOf?_eq_some {s : Scaled} (hx : x.FromOne) (h : x.decimalOf? n = some s) :
    s.exponent = x.places - n ∧ x.Holds (s.digits * 10 ^ s.exponent) ∧
      ∀ c : ℕ, x.Holds (c * 10 ^ s.exponent) →
        |s.digits * 10 ^ s.exponent - x.value| ≤ |c * 10 ^ s.exponent - x.value| := by
  obtain ⟨down, first, second, nearer, ⟨hle, hlt⟩, hfirst, hsecond, hnearer, heq⟩ :=
    decimalOf?_eq hx n
  rw [h] at heq
  have hunit : (0 : ℚ) < 10 ^ ((x.places : ℤ) - n) := by positivity
  have hdown := abs_sub_comm (down * 10 ^ ((x.places : ℤ) - n) : ℚ) x.value
  rw [abs_of_nonneg (sub_nonneg.2 hle)] at hdown
  have hup := abs_of_pos (sub_pos.2 hlt)
  have hmiddle : ((down + (down + 1) : ℕ) : ℚ) * 10 ^ ((x.places : ℤ) - n) =
      down * 10 ^ ((x.places : ℤ) - n) + (down + 1 : ℕ) * 10 ^ ((x.places : ℤ) - n) := by
    rw [Nat.cast_add, add_mul]
  rw [hmiddle] at hnearer
  match first, second, nearer with
  | false, false, _ => cases heq
  | true, false, _ =>
    obtain rfl := Option.some.inj heq
    refine ⟨rfl, hfirst.2 rfl, fun c hc => ?_⟩
    rcases hc.neighbour hunit hle hlt with ⟨-, hnear⟩ | ⟨hholds, -⟩
    · exact hdown.trans_le hnear
    · cases hsecond.1 hholds
  | false, true, _ =>
    obtain rfl := Option.some.inj heq
    refine ⟨rfl, hsecond.2 rfl, fun c hc => ?_⟩
    rcases hc.neighbour hunit hle hlt with ⟨hholds, -⟩ | ⟨-, hnear⟩
    · cases hfirst.1 hholds
    · exact hup.trans_le hnear
  | true, true, true =>
    obtain rfl := Option.some.inj heq
    have hcloser := hnearer.2 rfl
    refine ⟨rfl, hfirst.2 rfl, fun c hc => hdown.trans_le ?_⟩
    rcases hc.neighbour hunit hle hlt with ⟨-, hnear⟩ | ⟨-, hnear⟩
    · exact hnear
    · linarith
  | true, true, false =>
    obtain rfl := Option.some.inj heq
    have hcloser := not_lt.1 (mt hnearer.1 Bool.false_ne_true)
    refine ⟨rfl, hsecond.2 rfl, fun c hc => hup.trans_le ?_⟩
    rcases hc.neighbour hunit hle hlt with ⟨-, hnear⟩ | ⟨-, hnear⟩
    · linarith
    · exact hnear

/-! ## The first length that reads back -/

/-- Half a unit of the seventeenth digit is less than the way to either end of the cell. -/
theorem seventeenth_digit (hx : x.FromOne) :
    (10 : ℚ) ^ ((x.places : ℤ) - 17) / 2 < x.value - x.low ∧
      (10 : ℚ) ^ ((x.places : ℤ) - 17) / 2 < x.high - x.value := by
  have hunit : (10 : ℚ) ^ 17 * 10 ^ ((x.places : ℤ) - 17) ≤ 10 * x.value := by
    refine le_trans (le_of_eq ?_) (pow_le_value hx)
    rw [← zpow_natCast 10 17, ← zpow_add₀ (by norm_num), ← zpow_natCast]
    congr 1
    push_cast
    ring
  generalize (10 : ℚ) ^ ((x.places : ℤ) - 17) = unit at hunit ⊢
  have hstep := x.step_pos
  have hmax : x.value ≤ 2 ^ 53 * 2 ^ x.exponent :=
    mul_le_mul_of_nonneg_right (by linarith [hx.cast_lt]) hstep.le
  constructor
  · rw [low, sub_mul]
    rw [value] at hmax hunit ⊢
    split
    · rename_i hm
      rw [hm] at hunit ⊢
      push_cast at hunit ⊢
      linarith
    · linarith
  · rw [high, add_mul]
    rw [value] at hmax hunit ⊢
    linarith

/-- **Seventeen digits are always enough.** -/
theorem exists_holds_seventeen (hx : x.FromOne) :
    ∃ c : ℕ, x.Holds (c * 10 ^ ((x.places : ℤ) - (17 : ℕ))) := by
  obtain ⟨down, -, -, -, ⟨hle, hlt⟩, -⟩ := decimalOf?_eq hx 17
  obtain ⟨hlow, hhigh⟩ := seventeenth_digit hx
  rw [Nat.cast_ofNat] at hle hlt ⊢
  rw [Nat.cast_succ, add_one_mul] at hlt
  rcases le_total (x.value - down * 10 ^ ((x.places : ℤ) - 17))
    (10 ^ ((x.places : ℤ) - 17) / 2) with hnear | hnear
  · exact ⟨down, inCell_of_lt (by linarith) (by linarith [x.value_lt_high])⟩
  · refine ⟨down + 1, inCell_of_lt ?_ ?_⟩
    · rw [Nat.cast_succ, add_one_mul]
      linarith [x.low_lt_value]
    · rw [Nat.cast_succ, add_one_mul]
      linarith

/-- A natural number has no places after the point. -/
theorem exists_holds {v : ℕ} (hx : x.FromOne) (hv : x.value = v) :
    ∃ n ∈ List.range' 1 17, n ≤ x.places ∧
      ∃ c : ℕ, x.Holds (c * 10 ^ ((x.places : ℤ) - n)) := by
  have hpos := x.places_pos
  by_cases hlong : x.places ≤ 17
  · refine ⟨x.places, List.mem_range'_1.2 (by omega), le_rfl, v, ?_⟩
    rw [sub_self, zpow_zero, mul_one, ← hv]
    exact x.holds_value
  · exact ⟨17, List.mem_range'_1.2 (by omega), by omega, exists_holds_seventeen hx⟩

/-- The shortest decimal is the one of the first length that has one. -/
theorem exists_shortest {v : ℕ} (hx : x.FromOne) (hv : x.value = v) :
    ∃ n, 1 ≤ n ∧ n ≤ x.places ∧ x.decimalOf? n = some x.shortest ∧
      ∀ n', 1 ≤ n' → n' < n → x.decimalOf? n' = none := by
  obtain ⟨n₀, hn₀, hplaces, c, hc⟩ := exists_holds hx hv
  have hm : x.mantissa ≠ 0 := fun h => absurd hx.le_mantissa (by rw [h]; norm_num)
  cases hfind : (List.range' 1 17).findSome? x.decimalOf? with
  | none => exact absurd hc (decimalOf?_eq_none hx (List.findSome?_eq_none_iff.1 hfind n₀ hn₀) c)
  | some s =>
    have hshortest : x.shortest = s := by
      rw [shortest, if_neg hm, hfind, Option.getD_some]
    obtain ⟨before, n, after, hsplit, hsome, hbefore⟩ := List.findSome?_eq_some_iff.1 hfind
    obtain ⟨k, -, rfl, hrest⟩ := List.range'_eq_append_iff.1 hsplit
    obtain ⟨hn, -, -⟩ := List.range'_eq_cons_iff.1 hrest.symm
    have hnone {n' : ℕ} (h₁ : 1 ≤ n') (hlt : n' < n) : x.decimalOf? n' = none :=
      hbefore n' (List.mem_range'_1.2 (by omega))
    refine ⟨n, by omega, ?_, hsome.trans (congrArg some hshortest.symm), fun n' => hnone⟩
    by_contra hover
    rw [List.mem_range'_1] at hn₀
    exact decimalOf?_eq_none hx (hnone hn₀.1 (by omega)) c hc

end Binary64
end Decimal
end QueryTemplate
