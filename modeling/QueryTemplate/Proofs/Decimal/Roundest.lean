/-
# The roundest integer

Many natural numbers are read as one binary number.  The one that is written for all of them ends
in the most zeros, and of these it is the nearest to the binary number (`Binary64.Roundest`).  There
is exactly one such number (`Binary64.Roundest.unique`, `Binary64.roundest_shortest`).
-/

import Mathlib.Data.Nat.Factorization.Basic
import QueryTemplate.Decimal.Numeral
import QueryTemplate.Proofs.Decimal.Shortest

namespace QueryTemplate
namespace Decimal
namespace Binary64

variable {x : Binary64} {y : ℚ} {n m m' : ℕ}

/-- `m` is read as `x`, and of the natural numbers that are, none ends in more zeros, and none with
as many is nearer. -/
structure Roundest (x : Binary64) (m : ℕ) : Prop where
  reads : nearest m 1 = some x
  zeros : ∀ m' k, nearest m' 1 = some x → 10 ^ k ∣ m' → 10 ^ k ∣ m
  nearer : ∀ m', nearest m' 1 = some x → (∀ k, 10 ^ k ∣ m → 10 ^ k ∣ m') →
    |(m : ℚ) - x.value| ≤ |(m' : ℚ) - x.value|

/-! ## Integers in one cell -/

/-- A whole number is its own rounding. -/
theorem rounds_natCast (n : ℕ) : Rounds n n := inCell_of_lt (by linarith) (by linarith)

/-- Up to the last place before the point, a cell has no natural number but its own. -/
theorem Holds.value_eq (h : x.Holds n) (hexponent : x.exponent ≤ 0) : x.value = n := by
  obtain ⟨k, hk⟩ : ∃ k : ℕ, x.exponent = -k := ⟨(-x.exponent).toNat, by omega⟩
  have hrounds := h.rounds
  have hdiv : (n : ℚ) / 2 ^ x.exponent = (n * 2 ^ k : ℕ) := by
    rw [hk, zpow_neg, div_inv_eq_mul, zpow_natCast]
    push_cast
    rfl
  rw [hdiv] at hrounds
  rw [value, hrounds.unique (rounds_natCast _), ← hdiv, div_mul_cancel₀ _ x.step_pos.ne']

/-- The number whose cell holds a whole number is whole itself. -/
theorem Holds.exists_natCast (h : x.Holds n) : ∃ v : ℕ, x.value = v := by
  rcases le_or_gt x.exponent 0 with hexponent | hexponent
  · exact ⟨n, h.value_eq hexponent⟩
  · obtain ⟨k, hk⟩ := Int.eq_ofNat_of_zero_le hexponent.le
    refine ⟨x.mantissa * 2 ^ k, ?_⟩
    rw [value, hk]
    push_cast
    rfl

/-- A cell is narrow: it reaches by a part of `2^53` up and down. -/
theorem Holds.abs_sub_le (h : x.Holds y) (hx : x.FromOne) : |y - x.value| ≤ x.value / 2 ^ 53 := by
  have hstep := x.step_pos
  have hmin : 2 ^ 52 * 2 ^ x.exponent ≤ x.value :=
    mul_le_mul_of_nonneg_right hx.le_cast hstep.le
  have hlow : x.value - 2 ^ x.exponent / 2 ≤ x.low := by
    rw [value, low, sub_mul]
    split
    · linarith
    · linarith
  have hhigh : x.high = x.value + 2 ^ x.exponent / 2 := by
    rw [value, high]
    ring
  have hy := h.le
  rw [abs_le]
  constructor
  · linarith
  · linarith

/-- Multiples of a unit that is not too small are apart. -/
theorem Holds.multiple_unique {c c' : ℕ} {unit : ℚ} (h : x.Holds (c * unit))
    (h' : x.Holds (c' * unit)) (hx : x.FromOne) (hunit : x.value / 2 ^ 52 < unit) : c = c' := by
  wlog hle : c < c' generalizing c c'
  · rcases (not_lt.1 hle).eq_or_lt with heq | hlt
    · exact heq.symm
    · exact (this h' h hlt).symm
  have hpos : 0 < unit :=
    lt_of_le_of_lt (div_nonneg (by linarith [one_le_value hx]) (by norm_num)) hunit
  have hmul : (c + 1 : ℚ) * unit ≤ c' * unit :=
    mul_le_mul_of_nonneg_right (by exact_mod_cast hle) hpos.le
  have hlow := (abs_le.1 (h.abs_sub_le hx)).1
  have hhigh := (abs_le.1 (h'.abs_sub_le hx)).2
  linarith

/-- The nearest number is the one whose cell holds the given one. -/
theorem nearest_iff_holds (hx : x.FromOne) (hexponent : x.exponent ≤ 971) :
    nearest m 1 = some x ↔ x.Holds m := by
  rcases eq_or_ne m 0 with rfl | hm
  · refine iff_of_false (fun h => ?_) fun h => ?_
    · obtain rfl := Option.some.inj h
      exact absurd hx.le_mantissa (by norm_num)
    · have hzero := (abs_le.1 (h.abs_sub_le hx)).1
      rw [Nat.cast_zero] at hzero
      linarith [one_le_value hx]
  · rw [nearest_eq_some_iff hm]
    exact ⟨fun h => h.2.2, fun h => ⟨hx, hexponent, h⟩⟩

/-! ## One integer -/

/-- Zero is the roundest number in its cell. -/
theorem roundest_zero : Roundest ⟨0, -1074⟩ 0 where
  reads := rfl
  zeros := fun _ _ _ _ => dvd_zero _
  nearer := fun m' _ _ => by
    rw [value, Nat.cast_zero, zero_mul, sub_zero, abs_zero]
    exact abs_nonneg _

/-- If the number is halfway between two multiples of a power of ten, the power is more than the
cell is wide. -/
theorem two_mul_step_le {k a : ℕ} (hexponent : 0 < x.exponent) (ha : Odd a)
    (hvalue : (10 ^ k * a : ℕ) = 2 * x.value) : (2 : ℚ) * 2 ^ x.exponent ≤ 10 ^ k := by
  obtain ⟨e, he⟩ := Int.eq_ofNat_of_zero_le hexponent.le
  rw [value, he, zpow_natCast] at hvalue
  have heq : 10 ^ k * a = x.mantissa * 2 ^ (e + 1) := by
    have hcast : ((10 ^ k * a : ℕ) : ℚ) = (x.mantissa * 2 ^ (e + 1) : ℕ) := by
      rw [hvalue]
      push_cast
      ring
    exact_mod_cast hcast
  have hcoprime : Nat.Coprime (2 ^ (e + 1)) a := Nat.Coprime.pow_left _ (Nat.coprime_two_left.2 ha)
  have hdvd : 2 ^ (e + 1) ∣ 10 ^ k :=
    hcoprime.dvd_of_dvd_mul_right (heq ▸ Nat.dvd_mul_left _ _)
  have hle : 2 * 2 ^ e ≤ 10 ^ k := by
    rw [← pow_succ']
    exact Nat.le_of_dvd (by positivity) hdvd
  rw [he, zpow_natCast]
  exact_mod_cast hle

/-- **No two integers are the roundest.** -/
theorem Roundest.unique (h : x.Roundest m) (h' : x.Roundest m') : m = m' := by
  rcases eq_or_ne m 0 with rfl | hm
  · refine (not_ne_iff.1 fun hm' => ?_).symm
    obtain rfl := Option.some.inj h.reads
    obtain ⟨hx, -, -⟩ := (nearest_eq_some_iff hm').1 h'.reads
    exact absurd hx.le_mantissa (by norm_num)
  obtain ⟨hx, hlimit, hholds⟩ := (nearest_eq_some_iff hm).1 h.reads
  have hholds' := (nearest_iff_holds hx hlimit).1 h'.reads
  by_contra hne
  have hdvd (k : ℕ) : 10 ^ k ∣ m ↔ 10 ^ k ∣ m' := ⟨h'.zeros m k h.reads, h.zeros m' k h'.reads⟩
  -- As far away as each other and not equal, they are on both sides of the number.
  have hdist : |(m : ℚ) - x.value| = |(m' : ℚ) - x.value| :=
    le_antisymm (h.nearer m' h'.reads fun k => (hdvd k).1)
      (h'.nearer m h.reads fun k => (hdvd k).2)
  have hsum : (m + m' : ℚ) = 2 * x.value := by
    rcases abs_eq_abs.1 hdist with heq | heq
    · exact absurd (by exact_mod_cast sub_left_injective heq) hne
    · linarith
  obtain ⟨k, a, ha, rfl⟩ := Nat.exists_eq_pow_mul_and_not_dvd hm 10 (by decide)
  obtain ⟨a', rfl⟩ := (hdvd k).1 (Nat.dvd_mul_right _ _)
  have hmul : ((10 ^ k * (a + a') : ℕ) : ℚ) = 2 * x.value := by
    rw [← hsum]
    push_cast
    ring
  rcases Nat.even_or_odd' (a + a') with ⟨c, hc | hc⟩
  · -- The number itself ends in as many zeros.
    have hvalue : x.value = (10 ^ k * c : ℕ) := by
      rw [hc] at hmul
      push_cast at hmul ⊢
      linarith
    have hnear := h.nearer (10 ^ k * c) ((nearest_iff_holds hx hlimit).2 (hvalue ▸ x.holds_value))
      fun k' hk' => ?_
    · rw [← hvalue, sub_self, abs_zero] at hnear
      have hm := abs_nonpos_iff.1 hnear
      exact hne (by exact_mod_cast (by linarith : ((10 ^ k * a : ℕ) : ℚ) = (10 ^ k * a' : ℕ)))
    · have hle : k' ≤ k := by
        by_contra hlt
        have hdvd' : 10 ^ k * 10 ∣ 10 ^ k * a := (Nat.pow_dvd_pow 10 (not_le.1 hlt)).trans hk'
        exact ha (Nat.dvd_of_mul_dvd_mul_left (Nat.pow_pos (by decide)) hdvd')
      exact (Nat.pow_dvd_pow 10 hle).trans (Nat.dvd_mul_right _ _)
  · -- The power of ten is more than the cell is wide.
    have hpositive : 0 < x.exponent := not_le.1 fun hle =>
      hne (by exact_mod_cast (hholds.value_eq hle).symm.trans (hholds'.value_eq hle))
    have hwide := two_mul_step_le hpositive ⟨c, hc⟩ hmul
    have hvalue := x.holds_value.lt_of_fromOne hx
    have hcast (b : ℕ) : ((10 ^ k * b : ℕ) : ℚ) = b * 10 ^ k := by
      push_cast
      ring
    rw [hcast] at hholds hholds'
    have haa' := hholds.multiple_unique hholds' hx (by linarith)
    exact hne (by rw [haa'])

/-! ## The integer that is written -/

/-- A power of ten beyond the number that is a unit of numbers in its cell is in the cell. -/
theorem Holds.pow_places {c k : ℕ} (h : x.Holds (c * 10 ^ k)) (hx : x.FromOne)
    (hk : x.places ≤ k) : k = x.places ∧ x.Holds ((10 : ℕ) * 10 ^ ((x.places : ℤ) - (1 : ℕ))) := by
  have hone := one_le_value hx
  have hvalue := x.value_lt_pow
  have hnear := abs_le.1 (h.abs_sub_le hx)
  have hc : (1 : ℚ) ≤ c := by
    rcases Nat.eq_zero_or_pos c with rfl | hpos
    · rw [Nat.cast_zero, zero_mul] at hnear
      linarith
    · exact_mod_cast hpos
  have hpow : (10 : ℚ) ^ k ≤ c * 10 ^ k := le_mul_of_one_le_left (by positivity) hc
  have hple : (10 : ℚ) ^ x.places ≤ 10 ^ k := pow_le_pow_right₀ (by norm_num) hk
  constructor
  · by_contra hne
    have hlt : (10 : ℚ) ^ (x.places + 1) ≤ 10 ^ k := pow_le_pow_right₀ (by norm_num) (by omega)
    rw [pow_succ] at hlt
    linarith
  · have heq : ((10 : ℕ) : ℚ) * 10 ^ ((x.places : ℤ) - (1 : ℕ)) = 10 ^ x.places := by
      rw [Nat.cast_ofNat, Nat.cast_one, zpow_sub_one₀ (by norm_num), zpow_natCast]
      ring
    rw [heq]
    exact x.holds_value.between h hvalue.le (hple.trans hpow)

/-- **No integer of the cell ends in more zeros than the shortest decimal.** -/
theorem pow_dvd_shortest {j d k k' c : ℕ} (hx : x.FromOne)
    (hnone : ∀ j', 1 ≤ j' → j' < j → x.decimalOf? j' = none) (hj : 1 ≤ j) (hk : x.places = j + k)
    (hd : x.Holds (d * 10 ^ k)) (hc : x.Holds (c * 10 ^ k')) : 10 ^ k' ∣ d * 10 ^ k := by
  rcases le_or_gt k' k with hle | hlt
  · exact (Nat.pow_dvd_pow 10 hle).trans (Nat.dvd_mul_left _ _)
  rcases Nat.lt_or_ge k' x.places with hshort | hlong
  · -- Fewer digits would have been found before.
    have hcast : (k' : ℤ) = x.places - (x.places - k' : ℕ) := by omega
    rw [← zpow_natCast, hcast] at hc
    exact absurd hc (decimalOf?_eq_none hx (hnone _ (by omega) (by omega)) c)
  · -- The number is next to a power of ten, which is found with the first digit.
    obtain ⟨rfl, hten⟩ := hc.pow_places hx hlong
    have hj₁ : j = 1 := by
      by_contra hne
      exact decimalOf?_eq_none hx (hnone 1 le_rfl (by omega)) 10 hten
    have hunit : ((x.places : ℤ) - (1 : ℕ)) = k := by omega
    have hvalue := x.value_lt_pow
    have hpos : (0 : ℚ) < 10 ^ k := by positivity
    rw [hk, hj₁, pow_add, pow_one] at hvalue
    rw [hunit, zpow_natCast] at hten
    obtain rfl := hd.multiple_unique hten hx (by linarith)
    rw [hk, hj₁, pow_add, pow_one]

/-- **The shortest decimal of a natural number is the roundest integer.** -/
theorem roundest_shortest (hn : nearest n 1 = some x) (hn₀ : n ≠ 0) :
    ∃ d k : ℕ, x.shortest = ⟨d, k⟩ ∧ x.Roundest (d * 10 ^ k) := by
  obtain ⟨hx, hlimit, hholds⟩ := (nearest_eq_some_iff hn₀).1 hn
  obtain ⟨v, hv⟩ := hholds.exists_natCast
  obtain ⟨j, hj, hplaces, hsome, hnone⟩ := exists_shortest hx hv
  obtain ⟨hexponent, hreads, hnearer⟩ := decimalOf?_eq_some hx hsome
  obtain ⟨k, hk⟩ : ∃ k, x.places = j + k := Nat.exists_eq_add_of_le hplaces
  have hzeros : x.shortest.exponent = k := by omega
  have hcast (c : ℕ) : (c : ℚ) * 10 ^ x.shortest.exponent = (c * 10 ^ k : ℕ) := by
    rw [hzeros, zpow_natCast]
    push_cast
    rfl
  rw [hcast] at hreads
  refine ⟨x.shortest.digits, k, by rw [← hzeros],
    (nearest_iff_holds hx hlimit).2 hreads, fun m' k' hm' hdvd => ?_, fun m' hm' hdvd => ?_⟩
  · obtain ⟨c, rfl⟩ := hdvd
    have hc := (nearest_iff_holds hx hlimit).1 hm'
    refine pow_dvd_shortest hx hnone hj hk ?_ (c := c) ?_
    · exact_mod_cast hreads
    · rw [mul_comm] at hc
      exact_mod_cast hc
  · obtain ⟨c, rfl⟩ := hdvd k (Nat.dvd_mul_left _ _)
    have hc := (nearest_iff_holds hx hlimit).1 hm'
    rw [mul_comm, ← hcast] at hc
    rw [← hcast, mul_comm (10 ^ k), ← hcast]
    exact hnearer c hc

/-! ## Integers that are kept -/

/-- Of fewer than 54 bits, or of at most fifteen digits in front of zeros. -/
def IsShort (n : ℕ) : Prop := n < 2 ^ 53 ∨ ∃ c k, c < 10 ^ 15 ∧ n = c * 10 ^ k

/-- **The roundest integer that is read like a short one is the short one itself.** -/
theorem Roundest.eq_of_isShort (h : x.Roundest m) (hn : nearest n 1 = some x) (hshort : IsShort n) :
    m = n := by
  rcases eq_or_ne n 0 with rfl | hn₀
  · obtain rfl := Option.some.inj hn
    exact h.unique roundest_zero
  obtain ⟨hx, hlimit, hholds⟩ := (nearest_eq_some_iff hn₀).1 hn
  have hholds' := (nearest_iff_holds hx hlimit).1 h.reads
  rcases hshort with hlt | ⟨c, k, hc, rfl⟩
  · have hexponent : x.exponent ≤ 0 := by
      by_contra hpos
      have hstep : (2 : ℚ) ^ (1 : ℤ) ≤ 2 ^ x.exponent :=
        zpow_le_zpow_right₀ one_le_two (by omega)
      have hlow := hx.le_low.trans hholds.le.1
      have hn : (n + 1 : ℚ) ≤ 2 ^ 53 := by exact_mod_cast hlt
      rw [zpow_one] at hstep
      linarith
    exact_mod_cast (hholds'.value_eq hexponent).symm.trans (hholds.value_eq hexponent)
  · obtain ⟨c', rfl⟩ := h.zeros _ k hn (Nat.dvd_mul_left _ _)
    have hcast (b : ℕ) : ((b * 10 ^ k : ℕ) : ℚ) = b * 10 ^ k := by
      push_cast
      rfl
    rw [mul_comm, hcast] at hholds'
    rw [hcast] at hholds
    have hpos : (0 : ℚ) < 10 ^ k := by positivity
    have hmul : (c : ℚ) * 10 ^ k ≤ 10 ^ 15 * 10 ^ k :=
      mul_le_mul_of_nonneg_right (by exact_mod_cast hc.le) hpos.le
    have hnear := (abs_le.1 (hholds.abs_sub_le hx)).1
    rw [hholds'.multiple_unique hholds hx (by linarith), mul_comm]

end Binary64

/-! ## Written integers -/

/-- A power of ten puts zeros behind the digits. -/
theorem toDigits_mul_pow {d : ℕ} (hd : 0 < d) (k : ℕ) :
    Nat.toDigits 10 (d * 10 ^ k) = Nat.toDigits 10 d ++ List.replicate k '0' := by
  induction k with
  | zero => simp
  | succ k ih =>
    have happend := Nat.toDigits_append_toDigits (b := 10) (n := d * 10 ^ k) (d := 0) (by decide)
      (Nat.mul_pos hd (Nat.pow_pos (by decide))) (by decide)
    rw [Nat.toDigits_zero, Nat.add_zero, ih] at happend
    rw [pow_succ, ← mul_assoc, mul_comm _ 10, ← happend, List.append_assoc,
      List.replicate_succ']

/-- A decimal without places after the point is written as the integer that it is. -/
theorem Scaled.plain_natCast {d : ℕ} (hd : 0 < d) (k : ℕ) :
    Scaled.plain ⟨d, k⟩ = toString (d * 10 ^ k) := by
  unfold Scaled.plain
  dsimp only
  rw [if_pos (Int.natCast_nonneg k), Int.toNat_natCast, ← toDigits_mul_pow hd,
    Nat.toString_eq_ofList_toDigits]

namespace Binary64

/-- **What is written for a natural number is the roundest integer.** -/
theorem exists_roundest (hn : nearest n 1 = some x) :
    ∃ m, x.Roundest m ∧ (if x.mantissa = 0 then "0" else x.shortest.plain) = toString m := by
  rcases eq_or_ne n 0 with rfl | hn₀
  · obtain rfl := Option.some.inj hn
    exact ⟨0, roundest_zero, rfl⟩
  · obtain ⟨hx, hlimit, -⟩ := (nearest_eq_some_iff hn₀).1 hn
    obtain ⟨d, k, hshortest, hroundest⟩ := roundest_shortest hn hn₀
    have hm : x.mantissa ≠ 0 := fun h => absurd hx.le_mantissa (by rw [h]; norm_num)
    have hd : 0 < d := by
      refine Nat.pos_of_ne_zero ?_
      rintro rfl
      have hreads := hroundest.reads
      rw [zero_mul] at hreads
      obtain rfl := Option.some.inj hreads
      exact hm rfl
    exact ⟨d * 10 ^ k, hroundest, by rw [if_neg hm, hshortest, Scaled.plain_natCast hd]⟩

end Binary64
end Decimal
end QueryTemplate
