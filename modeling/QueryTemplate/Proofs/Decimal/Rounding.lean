/-
# Natural numbers as binary numbers of 64 bits

A binary number `m · 2^q` with all 53 bits stands for the numbers of an interval, its cell
(`Binary64.Holds`).  The cell reaches half a step up, and half a step down or, below a power of
two, a quarter; its ends belong to it if `m` is even.  No two cells meet
(`Binary64.Holds.unique`), and nothing in a cell is nearer to another number
(`Binary64.Holds.closest`).  A natural number is read as the number whose cell it is in
(`Binary64.nearest_eq_some_iff`); from `2^1024 - 2^970` on that number would be beyond the largest
one (`Binary64.nearest_eq_none_iff`).
-/

import Mathlib.Algebra.Order.Field.Power
import Mathlib.Algebra.Order.Field.Rat
import Mathlib.Tactic.Linarith
import Mathlib.Tactic.NormNum
import Mathlib.Tactic.Positivity
import Mathlib.Tactic.Ring
import QueryTemplate.Decimal.Binary64

namespace QueryTemplate
namespace Decimal

/-- Between two bounds, which count if `m` is even. -/
def InCell (m : ℕ) (low high y : ℚ) : Prop :=
  if m % 2 = 0 then low ≤ y ∧ y ≤ high else low < y ∧ y < high

section InCell

variable {m : ℕ} {low high y z t : ℚ}

/-- Strictly between the bounds, `m` does not matter. -/
theorem inCell_of_lt (hlow : low < y) (hhigh : y < high) : InCell m low high y := by
  unfold InCell
  split
  · exact ⟨hlow.le, hhigh.le⟩
  · exact ⟨hlow, hhigh⟩

/-- The bounds are bounds. -/
theorem InCell.le (h : InCell m low high y) : low ≤ y ∧ y ≤ high := by
  unfold InCell at h
  split at h
  · exact h
  · exact ⟨h.1.le, h.2.le⟩

/-- The bounds are strict if `m` is odd. -/
theorem InCell.lt (h : InCell m low high y) (hm : m % 2 = 1) : low < y ∧ y < high := by
  rwa [InCell, if_neg (by omega)] at h

/-- Cells have no gaps. -/
theorem InCell.between (hy : InCell m low high y) (hz : InCell m low high z) (hyt : y ≤ t)
    (htz : t ≤ z) : InCell m low high t := by
  unfold InCell at *
  split
  · rename_i hm
    rw [if_pos hm] at hy hz
    exact ⟨hy.1.trans hyt, htz.trans hz.2⟩
  · rename_i hm
    rw [if_neg hm] at hy hz
    exact ⟨hy.1.trans_le hyt, htz.trans_lt hz.2⟩

/-- A wider cell holds as much. -/
theorem InCell.mono {low' high' : ℚ} (h : InCell m low high y) (hlow : low' ≤ low)
    (hhigh : high ≤ high') : InCell m low' high' y := by
  unfold InCell at *
  split
  · rename_i hm
    rw [if_pos hm] at h
    exact ⟨hlow.trans h.1, h.2.trans hhigh⟩
  · rename_i hm
    rw [if_neg hm] at h
    exact ⟨hlow.trans_lt h.1, h.2.trans_le hhigh⟩

/-- A cell may be scaled. -/
theorem inCell_mul_iff (ht : 0 < t) :
    InCell m (low * t) (high * t) (y * t) ↔ InCell m low high y := by
  unfold InCell
  split
  · rw [mul_le_mul_iff_left₀ ht, mul_le_mul_iff_left₀ ht]
  · rw [mul_lt_mul_iff_left₀ ht, mul_lt_mul_iff_left₀ ht]

end InCell

/-! ## Rounding a quotient -/

/-- The natural number `m` is the one nearest to `y`, the even one if there are two. -/
def Rounds (m : ℕ) (y : ℚ) : Prop := InCell m (m - 1 / 2) (m + 1 / 2) y

/-- The quotient, half to even, is a rounding. -/
theorem rounds_roundHalfEven (num : ℕ) {den : ℕ} (hden : 0 < den) :
    Rounds (roundHalfEven num den) (num / den) := by
  have hd : (0 : ℚ) < den := by exact_mod_cast hden
  have hdiv : (num : ℚ) / den = (num / den : ℕ) + ((num % den : ℕ) : ℚ) / den := by
    rw [div_eq_iff hd.ne', add_mul, div_mul_cancel₀ _ hd.ne']
    exact_mod_cast (Nat.div_add_mod' num den).symm
  have hr₀ : (0 : ℚ) ≤ ((num % den : ℕ) : ℚ) / den := by positivity
  have hr₁ : ((num % den : ℕ) : ℚ) / den < 1 := by
    rw [div_lt_one hd]
    exact_mod_cast Nat.mod_lt num hden
  unfold roundHalfEven Rounds
  dsimp only
  rw [hdiv]
  split_ifs with hdown hup heven
  · have : ((num % den : ℕ) : ℚ) / den < 1 / 2 := by
      rw [div_lt_iff₀ hd]
      have : (2 * (num % den : ℕ) : ℚ) < den := by exact_mod_cast hdown
      linarith
    exact inCell_of_lt (by linarith) (by linarith)
  · have : 1 / 2 < ((num % den : ℕ) : ℚ) / den := by
      rw [lt_div_iff₀ hd]
      have : (den : ℚ) < 2 * (num % den : ℕ) := by exact_mod_cast hup
      linarith
    push_cast
    exact inCell_of_lt (by linarith) (by linarith)
  all_goals
    have hhalf : ((num % den : ℕ) : ℚ) / den = 1 / 2 := by
      rw [div_eq_iff hd.ne']
      have : (2 * (num % den : ℕ) : ℚ) = den := by exact_mod_cast (by omega)
      linarith
    rw [hhalf, InCell]
  · rw [if_pos heven]
    exact ⟨by linarith, le_rfl⟩
  · rw [if_pos (by omega)]
    push_cast
    exact ⟨by linarith, by linarith⟩

/-- A number has one rounding to even. -/
theorem Rounds.unique {m m' : ℕ} {y : ℚ} (h : Rounds m y) (h' : Rounds m' y) : m = m' := by
  wlog hle : m < m' generalizing m m'
  · rcases (not_lt.1 hle).eq_or_lt with heq | hlt
    · exact heq.symm
    · exact (this h' h hlt).symm
  have hm : (m + 1 : ℚ) ≤ m' := by exact_mod_cast hle
  have heq : m' = m + 1 := by
    have : (m' : ℚ) ≤ m + 1 := by linarith [h.le, h'.le]
    exact le_antisymm (by exact_mod_cast this) hle
  rcases Nat.mod_two_eq_zero_or_one m with heven | hodd
  · linarith [h.le, h'.lt (by omega)]
  · linarith [h.lt hodd, h'.le]

/-! ## Quotients with a power -/

/-- Scaling multiplies the ratio by a power of the base. -/
theorem scale_ratio {b : ℕ} (hb : 0 < b) (n : ℕ) {d : ℕ} (hd : 0 < d) (e : ℤ) :
    let r := if 0 ≤ e then (n * Nat.pow b e.toNat, d) else (n, d * Nat.pow b (-e).toNat)
    0 < r.2 ∧ (r.1 : ℚ) / r.2 = n / d * b ^ e := by
  split
  · rename_i he
    lift e to ℕ using he
    refine ⟨hd, ?_⟩
    simp only [Nat.pow_eq, Int.toNat_natCast, Nat.cast_mul, Nat.cast_pow, zpow_natCast]
    ring
  · obtain ⟨k, rfl⟩ : ∃ k : ℕ, e = -k := ⟨(-e).toNat, by omega⟩
    refine ⟨Nat.mul_pos hd (Nat.pow_pos hb), ?_⟩
    simp only [Nat.pow_eq, neg_neg, Int.toNat_natCast, Nat.cast_mul, Nat.cast_pow, zpow_neg,
      zpow_natCast]
    rw [← div_div, div_eq_mul_inv]

/-- Scaling by two gives the ratio `n * 2 ^ e`. -/
theorem scaleBinary_ratio (n : ℕ) (e : ℤ) :
    0 < (scaleBinary n 1 e).2 ∧
      ((scaleBinary n 1 e).1 : ℚ) / (scaleBinary n 1 e).2 = n * 2 ^ e := by
  have h := scale_ratio Nat.two_pos n Nat.one_pos e
  rwa [Nat.cast_one, div_one, Nat.cast_ofNat] at h

/-- Scaling by ten gives the ratio `n * 10 ^ e`. -/
theorem scaleDecimal_ratio (n : ℕ) (e : ℤ) :
    0 < (scaleDecimal n 1 e).2 ∧
      ((scaleDecimal n 1 e).1 : ℚ) / (scaleDecimal n 1 e).2 = n * 10 ^ e := by
  have h := scale_ratio (by decide : 0 < 10) n Nat.one_pos e
  rwa [Nat.cast_one, div_one, Nat.cast_ofNat] at h

namespace Binary64

/-! ## Cells -/

/-- The number itself. -/
def value (x : Binary64) : ℚ := x.mantissa * 2 ^ x.exponent

/-- The lower end of the cell, nearer if the number before is one exponent down. -/
def low (x : Binary64) : ℚ :=
  (x.mantissa - if x.mantissa = 2 ^ 52 then 1 / 4 else 1 / 2) * 2 ^ x.exponent

/-- The upper end of the cell. -/
def high (x : Binary64) : ℚ := (x.mantissa + 1 / 2) * 2 ^ x.exponent

/-- `y` is in the cell of `x`. -/
def Holds (x : Binary64) (y : ℚ) : Prop := InCell x.mantissa x.low x.high y

/-- A number of 53 bits that is at least one, of any size. -/
structure FromOne (x : Binary64) : Prop where
  le_mantissa : 2 ^ 52 ≤ x.mantissa
  mantissa_lt : x.mantissa < 2 ^ 53
  le_exponent : -52 ≤ x.exponent

variable {x x' : Binary64} {y : ℚ} {n : ℕ}

theorem FromOne.le_cast (hx : x.FromOne) : (2 ^ 52 : ℚ) ≤ x.mantissa := by
  exact_mod_cast hx.le_mantissa

theorem FromOne.cast_lt (hx : x.FromOne) : (x.mantissa + 1 : ℚ) ≤ 2 ^ 53 := by
  exact_mod_cast hx.mantissa_lt

theorem step_pos (x : Binary64) : (0 : ℚ) < 2 ^ x.exponent := by positivity

/-- A number is above the lower end of its cell. -/
theorem low_lt_value (x : Binary64) : x.low < x.value := by
  refine mul_lt_mul_of_pos_right ?_ x.step_pos
  split
  · linarith
  · linarith

/-- A number is below the upper end of its cell. -/
theorem value_lt_high (x : Binary64) : x.value < x.high :=
  mul_lt_mul_of_pos_right (by linarith) x.step_pos

/-- A number is in its own cell. -/
theorem holds_value (x : Binary64) : x.Holds x.value :=
  inCell_of_lt x.low_lt_value x.value_lt_high

/-- A cell stays above what has fewer bits. -/
theorem FromOne.le_low (hx : x.FromOne) : (2 ^ 52 - 1 / 4) * 2 ^ x.exponent ≤ x.low := by
  refine mul_le_mul_of_nonneg_right ?_ x.step_pos.le
  split
  · linarith [hx.le_cast]
  · have : (2 ^ 52 + 1 : ℚ) ≤ x.mantissa := by
      exact_mod_cast Nat.lt_of_le_of_ne hx.le_mantissa (Ne.symm ‹_›)
    linarith

/-- What is in the cell rounds to the number, in units of its last place. -/
theorem Holds.rounds (h : x.Holds y) : Rounds x.mantissa (y / 2 ^ x.exponent) := by
  rw [Rounds, ← inCell_mul_iff x.step_pos, div_mul_cancel₀ _ x.step_pos.ne']
  refine h.mono (mul_le_mul_of_nonneg_right ?_ x.step_pos.le) le_rfl
  split
  · linarith
  · exact le_rfl

/-- What rounds to the number is in its cell, unless it is below a power of two. -/
theorem holds_of_rounds (h : Rounds x.mantissa (y / 2 ^ x.exponent))
    (hy : x.mantissa = 2 ^ 52 → x.value ≤ y) : x.Holds y := by
  rw [Rounds, ← inCell_mul_iff x.step_pos, div_mul_cancel₀ _ x.step_pos.ne'] at h
  by_cases hm : x.mantissa = 2 ^ 52
  · rw [Holds, InCell, if_pos (by rw [hm]; rfl)]
    exact ⟨x.low_lt_value.le.trans (hy hm), h.le.2⟩
  · rw [Holds, low, if_neg hm]
    exact h

/-- What is in a cell is below the lower end of the first cell one exponent up. -/
theorem Holds.lt_of_fromOne (h : x.Holds y) (hx : x.FromOne) :
    y < (2 ^ 53 - 1 / 2) * 2 ^ x.exponent := by
  have hhigh : x.high ≤ (2 ^ 53 - 1 / 2) * 2 ^ x.exponent :=
    mul_le_mul_of_nonneg_right (by linarith [hx.cast_lt]) x.step_pos.le
  rcases Nat.mod_two_eq_zero_or_one x.mantissa with heven | hodd
  · have hm : (x.mantissa + 1 + 1 : ℚ) ≤ 2 ^ 53 := by
      exact_mod_cast (by have := hx.mantissa_lt; omega : x.mantissa + 1 + 1 ≤ 2 ^ 53)
    exact h.le.2.trans_lt (mul_lt_mul_of_pos_right (by linarith) x.step_pos)
  · exact (h.lt hodd).2.trans_le hhigh

/-- No two cells meet. -/
theorem Holds.unique (hx : x.FromOne) (hx' : x'.FromOne) (h : x.Holds y) (h' : x'.Holds y) :
    x = x' := by
  wlog hle : x.exponent ≤ x'.exponent generalizing x x'
  · exact (this hx' hx h' h (le_of_not_ge hle)).symm
  obtain ⟨m, q⟩ := x
  obtain ⟨m', q'⟩ := x'
  obtain rfl | hlt := hle.eq_or_lt
  · obtain rfl : m = m' := h.rounds.unique h'.rounds
    rfl
  · have hstep : (2 : ℚ) * 2 ^ q ≤ 2 ^ q' := by
      rw [← zpow_one_add₀ two_ne_zero]
      exact zpow_le_zpow_right₀ one_le_two (by dsimp only at hlt; omega)
    have hlow := hx'.le_low.trans h'.le.1
    have hhigh := h.lt_of_fromOne hx
    dsimp only at hlow hhigh
    linarith

/-- Any other number is at least twice as far away as the end of the cell. -/
theorem FromOne.value_le_or_le (hx : x.FromOne) (hx' : x'.FromOne) (hne : x ≠ x') :
    x'.value ≤ 2 * x.low - x.value ∨ 2 * x.high - x.value ≤ x'.value := by
  obtain ⟨m, q⟩ := x
  obtain ⟨m', q'⟩ := x'
  have hmin := hx.le_cast
  have hmin' := hx'.le_cast
  have hmax := hx.cast_lt
  have hmax' := hx'.cast_lt
  have hpos : (0 : ℚ) < 2 ^ q := by positivity
  have hpos' : (0 : ℚ) < 2 ^ q' := by positivity
  simp only [value, low, high] at hmin hmin' hmax hmax' ⊢
  rcases lt_trichotomy q' q with hlt | rfl | hlt
  · left
    have hstep : (2 : ℚ) ^ q' * 2 ≤ 2 ^ q := by
      rw [← zpow_add_one₀ two_ne_zero]
      exact zpow_le_zpow_right₀ one_le_two (by omega)
    have hvalue : (m' : ℚ) * 2 ^ q' ≤ (2 ^ 53 - 1) * 2 ^ q' :=
      mul_le_mul_of_nonneg_right (by linarith) hpos'.le
    split
    · rename_i hm
      rw [hm]
      push_cast
      linarith
    · have hm : (2 ^ 52 : ℚ) * 2 ^ q ≤ (m - 1) * 2 ^ q := by
        refine mul_le_mul_of_nonneg_right ?_ hpos.le
        have : (2 ^ 52 + 1 : ℚ) ≤ m := by
          exact_mod_cast Nat.lt_of_le_of_ne hx.le_mantissa (Ne.symm ‹_›)
        linarith
      linarith
  · rcases Nat.lt_or_gt_of_ne fun h : m' = m => hne (by rw [h]) with hm | hm
    · left
      have : m ≠ 2 ^ 52 := fun h => absurd hx'.le_mantissa (by dsimp only; omega)
      rw [if_neg this]
      have : (m' + 1 : ℚ) * 2 ^ q' ≤ m * 2 ^ q' :=
        mul_le_mul_of_nonneg_right (by exact_mod_cast hm) hpos.le
      linarith
    · right
      have : (m + 1 : ℚ) * 2 ^ q' ≤ m' * 2 ^ q' :=
        mul_le_mul_of_nonneg_right (by exact_mod_cast hm) hpos.le
      linarith
  · right
    have hstep : (2 : ℚ) ^ q * 2 ≤ 2 ^ q' := by
      rw [← zpow_add_one₀ two_ne_zero]
      exact zpow_le_zpow_right₀ one_le_two (by omega)
    have hvalue : (2 ^ 52 : ℚ) * 2 ^ q' ≤ m' * 2 ^ q' := mul_le_mul_of_nonneg_right hmin' hpos'.le
    have hm : (m + 1 : ℚ) * 2 ^ q ≤ 2 ^ 53 * 2 ^ q := mul_le_mul_of_nonneg_right hmax hpos.le
    linarith

/-- **What is in the cell of a number is nowhere nearer to another number.** -/
theorem Holds.closest (h : x.Holds y) (hx : x.FromOne) (hx' : x'.FromOne) :
    |y - x.value| ≤ |y - x'.value| := by
  rcases eq_or_ne x x' with rfl | hne
  · exact le_rfl
  have hlow := x.low_lt_value
  have hhigh := x.value_lt_high
  have hy := h.le
  rw [abs_le]
  rcases hx.value_le_or_le hx' hne with hfar | hfar
  · have hself := le_abs_self (y - x'.value)
    constructor
    · linarith
    · linarith
  · have hself := neg_le_abs (y - x'.value)
    constructor
    · linarith
    · linarith

/-! ## Reading a natural number -/

/-- The place at which a natural number has 53 bits before the point. -/
theorem div_log2_bounds (hn : n ≠ 0) :
    2 ^ 52 ≤ (n : ℚ) / 2 ^ ((n.log2 : ℤ) - 52) ∧ (n : ℚ) / 2 ^ ((n.log2 : ℤ) - 52) < 2 ^ 53 := by
  have hle : (2 : ℚ) ^ n.log2 ≤ n := by exact_mod_cast Nat.log2_self_le hn
  have hlt : (n : ℚ) < 2 ^ n.log2 * 2 := by
    rw [← pow_succ]
    exact_mod_cast Nat.lt_log2_self
  have hstep : (2 : ℚ) ^ ((n.log2 : ℤ) - 52) = 2 ^ n.log2 / 2 ^ 52 := by
    rw [zpow_sub₀ two_ne_zero, zpow_natCast]
    rfl
  have hpos : (0 : ℚ) < 2 ^ n.log2 / 2 ^ 52 := by positivity
  rw [hstep, le_div_iff₀ hpos, div_lt_iff₀ hpos]
  constructor
  · linarith
  · linarith

/-- The last place of a whole number is 52 bits below its first one. -/
theorem gridExponent_natCast (hn : n ≠ 0) : gridExponent n 1 = n.log2 - 52 := by
  obtain ⟨hpos, hratio⟩ := scaleBinary_ratio n (-((n.log2 : ℤ) - 52))
  rw [zpow_neg, ← div_eq_mul_inv] at hratio
  have hbits := (div_log2_bounds hn).1
  rw [← hratio, le_div_iff₀ (by exact_mod_cast hpos)] at hbits
  have hlog : Nat.log2 1 = 0 := by decide
  unfold gridExponent
  simp only [hlog, Nat.cast_zero, sub_zero, Nat.pow_eq]
  exact if_neg (not_lt.2 (by exact_mod_cast hbits))

/-- Rounded up to one bit more, a number is in the first cell one exponent up. -/
theorem holds_of_carry {q : ℤ} (h : Rounds (2 ^ 53) (y / 2 ^ q)) (hlt : y / 2 ^ q < 2 ^ 53) :
    Holds ⟨2 ^ 52, q + 1⟩ y := by
  have hstep : (0 : ℚ) < 2 ^ q := by positivity
  have hle := h.le.1
  rw [le_div_iff₀ hstep] at hle
  rw [div_lt_iff₀ hstep] at hlt
  rw [Holds, InCell, if_pos (by norm_num), low, high, if_pos rfl, zpow_add_one₀ two_ne_zero]
  push_cast at hle ⊢
  constructor
  · linarith
  · linarith

/-- A natural number is in the cell of some number of any size, and it is read as that number
unless the number is too large. -/
theorem exists_holds_nearest (hn : n ≠ 0) :
    ∃ x : Binary64, x.FromOne ∧ x.Holds n ∧
      nearest n 1 = if 971 < x.exponent then none else some x := by
  have hq : max (gridExponent n 1) (-1074) = (n.log2 : ℤ) - 52 := by
    rw [gridExponent_natCast hn]
    omega
  obtain ⟨hlow, hhigh⟩ := div_log2_bounds hn
  obtain ⟨hpos, hratio⟩ := scaleBinary_ratio n (-((n.log2 : ℤ) - 52))
  rw [zpow_neg, ← div_eq_mul_inv] at hratio
  have hm := rounds_roundHalfEven (scaleBinary n 1 (-((n.log2 : ℤ) - 52))).1 hpos
  rw [hratio] at hm
  unfold nearest
  rw [if_neg hn]
  simp only [hq, Nat.pow_eq]
  generalize roundHalfEven _ _ = m at hm ⊢
  generalize hqq : (n.log2 : ℤ) - 52 = q at hm hlow hhigh ⊢
  have hmlow : 2 ^ 52 ≤ m := by
    by_contra hlt
    have : (m + 1 : ℚ) ≤ 2 ^ 52 := by exact_mod_cast not_le.1 hlt
    linarith [hm.le]
  have hmhigh : m ≤ 2 ^ 53 := by
    by_contra hlt
    have : (2 ^ 53 + 1 : ℚ) ≤ m := by exact_mod_cast not_le.1 hlt
    linarith [hm.le]
  by_cases hcarry : m = 2 ^ 53
  · refine ⟨⟨2 ^ 52, q + 1⟩, ⟨le_rfl, by norm_num, by dsimp only; omega⟩, ?_, by rw [if_pos hcarry]⟩
    exact holds_of_carry (hcarry ▸ hm) hhigh
  · refine ⟨⟨m, q⟩, ⟨hmlow, by dsimp only; omega, by dsimp only; omega⟩,
      holds_of_rounds hm fun hmin => ?_, by rw [if_neg hcarry]⟩
    dsimp only at hmin
    rw [value, ← le_div_iff₀ (by positivity)]
    dsimp only
    rw [hmin]
    exact_mod_cast hlow

/-- **A natural number is read as the number whose cell it is in.** -/
theorem nearest_eq_some_iff (hn : n ≠ 0) :
    nearest n 1 = some x ↔ x.FromOne ∧ x.exponent ≤ 971 ∧ x.Holds n := by
  obtain ⟨x', hx', hholds, hnearest⟩ := exists_holds_nearest hn
  rw [hnearest]
  constructor
  · intro h
    split at h
    · cases h
    · obtain rfl := Option.some.inj h
      exact ⟨hx', by omega, hholds⟩
  · rintro ⟨hx, hexponent, h⟩
    obtain rfl := h.unique hx hx' hholds
    exact if_neg (by omega)

/-- The least number that rounds to none of 64 bits. -/
def firstInfinite : ℕ := 2 ^ 1024 - 2 ^ 970

/-- The first infinite number lies half a place above the largest one. -/
theorem cast_firstInfinite : (firstInfinite : ℚ) = (2 ^ 53 - 1 / 2) * 2 ^ (971 : ℤ) := by
  have hcast {a b : ℕ} (h : a ≤ b) : ((2 ^ b - 2 ^ a : ℕ) : ℚ) = 2 ^ b - 2 ^ a := by
    rw [Nat.cast_sub (Nat.pow_le_pow_right Nat.two_pos h), Nat.cast_pow, Nat.cast_pow,
      Nat.cast_ofNat]
  have hsplit : (2 : ℚ) ^ 1024 = 2 ^ 53 * 2 ^ 971 := pow_add 2 53 971
  have hhalf : (2 : ℚ) ^ 971 = 2 ^ 970 * 2 := pow_succ 2 970
  rw [firstInfinite, hcast (by decide), hsplit, zpow_ofNat, hhalf]
  generalize (2 : ℚ) ^ 970 = half
  ring

/-- **From half a step beyond the largest number on, a natural number is read as none.** -/
theorem nearest_eq_none_iff : nearest n 1 = none ↔ firstInfinite ≤ n := by
  rcases eq_or_ne n 0 with rfl | hn
  · rw [nearest, if_pos rfl]
    have hpos : (0 : ℚ) < firstInfinite := by
      rw [cast_firstInfinite]
      exact mul_pos (by norm_num) (by positivity)
    have hpos' : 0 < firstInfinite := by exact_mod_cast hpos
    simp only [reduceCtorEq, false_iff, not_le, hpos']
  obtain ⟨x, hx, hholds, hnearest⟩ := exists_holds_nearest hn
  rw [hnearest]
  have hcast : firstInfinite ≤ n ↔ (2 ^ 53 - 1 / 2) * 2 ^ (971 : ℤ) ≤ (n : ℚ) := by
    rw [← cast_firstInfinite, Nat.cast_le]
  rw [hcast]
  split
  · rename_i hlarge
    refine iff_of_true rfl ?_
    have hstep : (2 : ℚ) ^ (971 : ℤ) * 2 ≤ 2 ^ x.exponent := by
      rw [← zpow_add_one₀ two_ne_zero]
      exact zpow_le_zpow_right₀ one_le_two (by omega)
    linarith [hx.le_low, hholds.le.1]
  · rename_i hsmall
    refine iff_of_false (by simp) (not_le.2 ?_)
    refine (hholds.lt_of_fromOne hx).trans_le (mul_le_mul_of_nonneg_left ?_ (by norm_num))
    exact zpow_le_zpow_right₀ one_le_two (by omega)

end Binary64
end Decimal
end QueryTemplate
