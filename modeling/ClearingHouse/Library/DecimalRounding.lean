import Mathlib.Algebra.Order.Round
import Mathlib.Data.Int.Log
import Mathlib.Data.Rat.Floor
import Mathlib.Tactic

/-!
# Decimal rounding

Exact rationals carry the values of decimal arithmetic.  This file fixes the two roundings used by
decimal libraries and databases: to a number of significant digits with ties to even, and to a
fixed scale with ties away from zero.  Both are instances of rounding to the nearest multiple of a
unit, and every property below follows from that.
-/

namespace DecimalRounding

/-- A choice of nearest integer for every rational. -/
def IsNearest (nearest : ℚ → ℤ) : Prop :=
  ∀ x, |(nearest x : ℚ) - x| ≤ 1 / 2

namespace IsNearest

variable {nearest : ℚ → ℤ}

theorem mono (h : IsNearest nearest) : Monotone nearest := by
  intro x y x_le_y
  by_contra exceeds
  have gap : nearest y + 1 ≤ nearest x := by omega
  have gapRat : (nearest y : ℚ) + 1 ≤ nearest x := by exact_mod_cast gap
  have upper := (abs_le.mp (h x)).2
  have lower := (abs_le.mp (h y)).1
  have x_eq_y : x = y := by linarith
  subst x_eq_y
  omega

theorem intCast (h : IsNearest nearest) (n : ℤ) : nearest n = n := by
  have near := abs_le.mp (h n)
  have upper : (nearest n : ℚ) < n + 1 := by linarith [near.2]
  have lower : (n : ℚ) - 1 < nearest n := by linarith [near.1]
  have upperInt : nearest n < n + 1 := by exact_mod_cast upper
  have lowerInt : n - 1 < nearest n := by exact_mod_cast lower
  omega

end IsNearest

/-- Nearest integer, a tie going to the even neighbour. -/
def halfEven (x : ℚ) : ℤ :=
  if Int.fract x < 1 / 2 then ⌊x⌋
  else if 1 / 2 < Int.fract x then ⌊x⌋ + 1
  else if ⌊x⌋ % 2 = 0 then ⌊x⌋ else ⌊x⌋ + 1

/-- Nearest integer, a tie going away from zero. -/
def halfAway (x : ℚ) : ℤ :=
  if 0 ≤ x then round x else -round (-x)

theorem halfEven_nearest : IsNearest halfEven := by
  intro x
  have split_x := Int.floor_add_fract x
  have fract_nonneg := Int.fract_nonneg x
  have fract_lt := Int.fract_lt_one x
  rw [halfEven]
  split_ifs with below above even <;> push_cast <;> rw [abs_le] <;> constructor <;> linarith

theorem halfAway_nearest : IsNearest halfAway := by
  intro x
  rw [halfAway]
  split_ifs with nonneg
  · rw [abs_sub_comm]
    exact abs_sub_round x
  · push_cast
    rw [show -(round (-x) : ℚ) - x = -x - round (-x) by ring]
    exact abs_sub_round (-x)

theorem halfAway_neg (x : ℚ) : halfAway (-x) = -halfAway x := by
  unfold halfAway
  rcases lt_trichotomy x 0 with negative | rfl | positive
  · simp [negative.le, not_le.mpr negative]
  · simp
  · simp [positive.le, not_le.mpr positive]

private theorem halfEven_neg_of_fract_ne {x : ℚ} (fractional : Int.fract x ≠ 0) :
    halfEven (-x) = -halfEven x := by
  have fract_neg := Int.fract_neg fractional
  have floor_neg : ⌊-x⌋ = -⌊x⌋ - 1 := by
    have split_x := Int.floor_add_fract x
    have split_neg := Int.floor_add_fract (-x)
    have : (⌊-x⌋ : ℚ) = -⌊x⌋ - 1 := by linarith
    exact_mod_cast this
  unfold halfEven
  rw [fract_neg, floor_neg]
  split_ifs <;> first | omega | (exfalso; linarith)

theorem halfEven_neg (x : ℚ) : halfEven (-x) = -halfEven x := by
  by_cases integral : Int.fract x = 0
  · obtain ⟨n, rfl⟩ := Int.fract_eq_zero_iff.mp integral
    rw [← Int.cast_neg, halfEven_nearest.intCast, halfEven_nearest.intCast]
  · exact halfEven_neg_of_fract_ne integral

theorem abs_halfAway_lt (x : ℚ) (n : ℤ) : |halfAway x| < n ↔ |x| + 1 / 2 < n := by
  wlog nonneg : 0 ≤ x generalizing x
  · have flipped := this (-x) (by linarith)
    rwa [halfAway_neg, abs_neg, abs_neg] at flipped
  have halves : (0 : ℚ) ≤ x + 1 / 2 := by linarith
  rw [halfAway, if_pos nonneg, round_eq, abs_of_nonneg (Int.floor_nonneg.mpr halves),
    abs_of_nonneg nonneg, Int.floor_lt]

theorem halfAway_pos (x : ℚ) : 0 < halfAway x ↔ 1 / 2 ≤ x := by
  rw [halfAway]
  split_ifs with nonneg
  · rw [round_eq, Int.floor_pos]
    constructor <;> intro <;> linarith
  · have below : 0 ≤ round (-x) := by
      rw [round_eq]
      exact Int.floor_nonneg.mpr (by linarith)
    constructor <;> intro above
    · omega
    · linarith

/-- Nearest multiple of `unit`. -/
def toUnit (nearest : ℚ → ℤ) (unit x : ℚ) : ℚ :=
  nearest (x / unit) * unit

section ToUnit

variable {nearest : ℚ → ℤ} {unit : ℚ}

theorem toUnit_mul (h : IsNearest nearest) (unit_pos : 0 < unit) (n : ℤ) :
    toUnit nearest unit (n * unit) = n * unit := by
  rw [toUnit, mul_div_cancel_right₀ _ unit_pos.ne', h.intCast]

theorem toUnit_mono (h : IsNearest nearest) (unit_pos : 0 < unit) :
    Monotone (toUnit nearest unit) := by
  intro x y x_le_y
  have scaled : x / unit ≤ y / unit := div_le_div_of_nonneg_right x_le_y unit_pos.le
  exact mul_le_mul_of_nonneg_right (by exact_mod_cast h.mono scaled) unit_pos.le

theorem abs_toUnit_sub_le (h : IsNearest nearest) (unit_pos : 0 < unit) (x : ℚ) :
    |toUnit nearest unit x - x| ≤ unit / 2 := by
  have scaled : toUnit nearest unit x - x = (nearest (x / unit) - x / unit) * unit := by
    rw [toUnit, sub_mul, div_mul_cancel₀ _ unit_pos.ne']
  rw [scaled, abs_mul, abs_of_pos unit_pos]
  calc
    |(nearest (x / unit) : ℚ) - x / unit| * unit ≤ 1 / 2 * unit :=
      mul_le_mul_of_nonneg_right (h _) unit_pos.le
    _ = unit / 2 := by ring

theorem toUnit_neg (odd : ∀ x, nearest (-x) = -nearest x) (x : ℚ) :
    toUnit nearest unit (-x) = -toUnit nearest unit x := by
  rw [toUnit, toUnit, neg_div, odd]
  push_cast
  ring

end ToUnit

/-- Assignment to a fixed-point column with `precision` digits, `scale` of them after the point;
`none` is an overflow. -/
def toFixed (precision scale : ℕ) (x : ℚ) : Option ℚ :=
  let rounded := toUnit halfAway (1 / 10 ^ scale) x
  if |rounded| < 10 ^ (precision - scale) then some rounded else none

/-- The multiples of the last decimal place of a fixed-point column. -/
def fixedGrid (scale : ℕ) : AddSubgroup ℚ :=
  AddSubgroup.zmultiples (1 / 10 ^ scale : ℚ)

theorem mem_fixedGrid {scale : ℕ} {x : ℚ} :
    x ∈ fixedGrid scale ↔ ∃ n : ℤ, x = n * (1 / 10 ^ scale) := by
  simp [fixedGrid, AddSubgroup.mem_zmultiples_iff, eq_comm]

theorem toUnit_mem_fixedGrid (scale : ℕ) (nearest : ℚ → ℤ) (x : ℚ) :
    toUnit nearest (1 / 10 ^ scale) x ∈ fixedGrid scale :=
  mem_fixedGrid.mpr ⟨_, rfl⟩

theorem toUnit_of_mem_fixedGrid {scale : ℕ} {nearest : ℚ → ℤ} (h : IsNearest nearest) {x : ℚ}
    (member : x ∈ fixedGrid scale) : toUnit nearest (1 / 10 ^ scale) x = x := by
  obtain ⟨n, rfl⟩ := mem_fixedGrid.mp member
  exact toUnit_mul h (by positivity) n

theorem toFixed_eq_some {precision scale : ℕ} {x y : ℚ}
    (stored : toFixed precision scale x = some y) :
    y = toUnit halfAway (1 / 10 ^ scale) x ∧ |y| < 10 ^ (precision - scale) := by
  simp only [toFixed] at stored
  split_ifs at stored with fits
  obtain rfl := Option.some.inj stored
  exact ⟨rfl, fits⟩

/-- A column holds a value if its magnitude does not round up to the next power of ten. -/
theorem toFixed_isSome_iff {precision scale : ℕ} {x : ℚ} :
    (toFixed precision scale x).isSome ↔
      |x| < 10 ^ (precision - scale) - 1 / 10 ^ scale / 2 := by
  have unit_pos : (0 : ℚ) < 1 / 10 ^ scale := by positivity
  have scaled : |toUnit halfAway (1 / 10 ^ scale) x| < 10 ^ (precision - scale) ↔
      |halfAway (x / (1 / 10 ^ scale))| < (10 ^ (precision - scale) * 10 ^ scale : ℤ) := by
    rw [toUnit, abs_mul, abs_of_pos unit_pos, mul_one_div, div_lt_iff₀ (by positivity)]
    exact_mod_cast Iff.rfl
  have held : (toFixed precision scale x).isSome ↔
      |toUnit halfAway (1 / 10 ^ scale) x| < 10 ^ (precision - scale) := by
    simp only [toFixed]
    split_ifs with fits
    · exact iff_of_true rfl fits
    · exact iff_of_false Bool.false_ne_true fits
  rw [held, scaled, abs_halfAway_lt, abs_div, abs_of_pos unit_pos, ← lt_sub_iff_add_lt,
    div_lt_iff₀ unit_pos]
  push_cast
  rw [sub_mul, mul_assoc, mul_one_div_cancel (by positivity), mul_one, one_div_mul_eq_div]

/-- A stored value is positive from half a unit on. -/
theorem toFixed_pos_iff {precision scale : ℕ} {x y : ℚ}
    (stored : toFixed precision scale x = some y) :
    0 < y ↔ 1 / 10 ^ scale / 2 ≤ x := by
  have unit_pos : (0 : ℚ) < 1 / 10 ^ scale := by positivity
  rw [(toFixed_eq_some stored).1, toUnit, mul_pos_iff_of_pos_right unit_pos, Int.cast_pos,
    halfAway_pos, le_div_iff₀ unit_pos, one_div_mul_eq_div]

theorem toFixed_mem {precision scale : ℕ} {x y : ℚ} (stored : toFixed precision scale x = some y) :
    y ∈ fixedGrid scale := by
  rw [(toFixed_eq_some stored).1]
  exact toUnit_mem_fixedGrid scale halfAway x

/-- A value already on the grid is stored as it is. -/
theorem toFixed_of_mem {precision scale : ℕ} {x : ℚ} (member : x ∈ fixedGrid scale)
    (fits : |x| < 10 ^ (precision - scale)) : toFixed precision scale x = some x := by
  simp only [toFixed, toUnit_of_mem_fixedGrid halfAway_nearest member, fits, if_true]

/-- Unit of the last kept digit when `x` is written with `digits` significant digits. -/
def lastPlace (digits : ℕ) (x : ℚ) : ℚ :=
  10 ^ (Int.log 10 |x| - (digits - 1 : ℤ))

/-- Rounding to `digits` significant decimal digits, ties to even. -/
def toDigits (digits : ℕ) (x : ℚ) : ℚ :=
  toUnit halfEven (lastPlace digits x) x

theorem lastPlace_pos (digits : ℕ) (x : ℚ) : 0 < lastPlace digits x :=
  zpow_pos (by norm_num) _

@[simp] theorem toDigits_zero (digits : ℕ) : toDigits digits 0 = 0 := by
  have nearest_zero : halfEven 0 = 0 := by simpa using halfEven_nearest.intCast 0
  simp [toDigits, toUnit, nearest_zero]

@[simp] theorem toDigits_neg (digits : ℕ) (x : ℚ) : toDigits digits (-x) = -toDigits digits x := by
  have place : lastPlace digits (-x) = lastPlace digits x := by simp [lastPlace]
  rw [toDigits, toDigits, place]
  exact toUnit_neg halfEven_neg x

/-- A value with at most `digits` significant digits is not rounded. -/
theorem toDigits_eq_self {digits : ℕ} {x : ℚ} {m e : ℤ} (x_eq : x = m * 10 ^ e)
    (short : |m| < 10 ^ digits) : toDigits digits x = x := by
  by_cases x_ne : x = 0
  · simp [x_ne]
  have abs_pos : 0 < |x| := abs_pos.mpr x_ne
  have abs_lt : |x| < 10 ^ (digits + e) := by
    have short_rat : |(m : ℚ)| < 10 ^ digits := by exact_mod_cast short
    rw [x_eq, abs_mul, abs_of_pos (zpow_pos (by norm_num : (0 : ℚ) < 10) e),
      zpow_add₀ (by norm_num), zpow_natCast]
    exact mul_lt_mul_of_pos_right short_rat (zpow_pos (by norm_num) e)
  have log_lt : Int.log 10 |x| < digits + e := by
    rw [← Int.lt_zpow_iff_log_lt (by norm_num) abs_pos]
    exact_mod_cast abs_lt
  obtain ⟨shift, shift_eq⟩ : ∃ shift : ℕ, e = Int.log 10 |x| - (digits - 1 : ℤ) + shift :=
    ⟨(e - (Int.log 10 |x| - (digits - 1 : ℤ))).toNat, by omega⟩
  have multiple : x = ((m * 10 ^ shift : ℤ) : ℚ) * lastPlace digits x := by
    rw [lastPlace]
    conv_lhs => rw [x_eq, shift_eq, zpow_add₀ (by norm_num), zpow_natCast]
    push_cast
    ring
  rw [toDigits]
  conv_lhs => rw [multiple]
  rw [show lastPlace digits (((m * 10 ^ shift : ℤ) : ℚ) * lastPlace digits x) =
    lastPlace digits x by rw [← multiple]]
  rw [toUnit_mul halfEven_nearest (lastPlace_pos digits x), ← multiple]

/-- The decade of a positive value bounds its rounding from below. -/
theorem zpow_log_le_toDigits {digits : ℕ} (digits_pos : 0 < digits) {x : ℚ} (x_pos : 0 < x) :
    (10 : ℚ) ^ Int.log 10 x ≤ toDigits digits x := by
  have decade_le : (10 : ℚ) ^ Int.log 10 x ≤ x := by
    exact_mod_cast Int.zpow_log_le_self (b := 10) (by norm_num) x_pos
  have multiple : (10 : ℚ) ^ Int.log 10 x =
      ((10 ^ (digits - 1) : ℤ) : ℚ) * lastPlace digits x := by
    rw [lastPlace, abs_of_pos x_pos]
    push_cast
    rw [← zpow_natCast, ← zpow_add₀ (by norm_num)]
    congr 1
    omega
  rw [toDigits, multiple,
    ← toUnit_mul halfEven_nearest (lastPlace_pos digits x) (10 ^ (digits - 1))]
  apply toUnit_mono halfEven_nearest (lastPlace_pos digits x)
  rw [← multiple]
  exact decade_le

/-- The next decade of a positive value bounds its rounding from above. -/
theorem toDigits_le_zpow_log {digits : ℕ} {x : ℚ} (x_pos : 0 < x) :
    toDigits digits x ≤ (10 : ℚ) ^ (Int.log 10 x + 1) := by
  have le_decade : x ≤ (10 : ℚ) ^ (Int.log 10 x + 1) := by
    exact_mod_cast (Int.lt_zpow_succ_log_self (b := 10) (by norm_num) x).le
  have multiple : (10 : ℚ) ^ (Int.log 10 x + 1) =
      ((10 ^ digits : ℤ) : ℚ) * lastPlace digits x := by
    rw [lastPlace, abs_of_pos x_pos]
    push_cast
    rw [← zpow_natCast, ← zpow_add₀ (by norm_num)]
    congr 1
    omega
  rw [toDigits, multiple, ← toUnit_mul halfEven_nearest (lastPlace_pos digits x) (10 ^ digits)]
  apply toUnit_mono halfEven_nearest (lastPlace_pos digits x)
  rw [← multiple]
  exact le_decade

theorem toDigits_pos {digits : ℕ} (digits_pos : 0 < digits) {x : ℚ} (x_pos : 0 < x) :
    0 < toDigits digits x :=
  (zpow_pos (by norm_num) _).trans_le (zpow_log_le_toDigits digits_pos x_pos)

theorem toDigits_nonneg {digits : ℕ} (digits_pos : 0 < digits) {x : ℚ} (x_nonneg : 0 ≤ x) :
    0 ≤ toDigits digits x := by
  rcases x_nonneg.eq_or_lt with rfl | x_pos
  · simp
  · exact (toDigits_pos digits_pos x_pos).le

private theorem toDigits_mono_pos {digits : ℕ} (digits_pos : 0 < digits) {x y : ℚ}
    (x_pos : 0 < x) (x_le_y : x ≤ y) : toDigits digits x ≤ toDigits digits y := by
  have y_pos := x_pos.trans_le x_le_y
  rcases (Int.log_mono_right (b := 10) x_pos x_le_y).eq_or_lt with same | smaller
  · have place : lastPlace digits x = lastPlace digits y := by
      rw [lastPlace, lastPlace, abs_of_pos x_pos, abs_of_pos y_pos, same]
    rw [toDigits, toDigits, place]
    exact toUnit_mono halfEven_nearest (lastPlace_pos digits y) x_le_y
  · calc
      toDigits digits x ≤ (10 : ℚ) ^ (Int.log 10 x + 1) := toDigits_le_zpow_log x_pos
      _ ≤ (10 : ℚ) ^ Int.log 10 y := zpow_le_zpow_right₀ (by norm_num) smaller
      _ ≤ toDigits digits y := zpow_log_le_toDigits digits_pos y_pos

theorem toDigits_mono {digits : ℕ} (digits_pos : 0 < digits) : Monotone (toDigits digits) := by
  intro x y x_le_y
  rcases lt_or_ge 0 x with x_pos | x_nonpos
  · exact toDigits_mono_pos digits_pos x_pos x_le_y
  rcases lt_or_ge y 0 with y_neg | y_nonneg
  · have flipped := toDigits_mono_pos digits_pos (neg_pos.mpr y_neg) (neg_le_neg x_le_y)
    simpa using flipped
  · have below : toDigits digits x ≤ 0 := by
      simpa using toDigits_nonneg digits_pos (neg_nonneg.mpr x_nonpos)
    exact below.trans (toDigits_nonneg digits_pos y_nonneg)

theorem toDigits_eq_zero_iff {digits : ℕ} (digits_pos : 0 < digits) {x : ℚ} :
    toDigits digits x = 0 ↔ x = 0 := by
  constructor
  · intro vanishes
    by_contra x_ne
    rcases lt_or_gt_of_ne x_ne with x_neg | x_pos
    · have positive := toDigits_pos digits_pos (neg_pos.mpr x_neg)
      rw [toDigits_neg, vanishes] at positive
      simp at positive
    · exact (toDigits_pos digits_pos x_pos).ne' vanishes
  · rintro rfl
    exact toDigits_zero digits

/-- The relative error of one rounding. -/
theorem abs_toDigits_sub_le (digits : ℕ) (x : ℚ) :
    |toDigits digits x - x| ≤ |x| * (10 ^ (1 - digits : ℤ) / 2) := by
  by_cases x_eq : x = 0
  · simp [x_eq]
  have decade_le : (10 : ℚ) ^ Int.log 10 |x| ≤ |x| := by
    exact_mod_cast Int.zpow_log_le_self (b := 10) (by norm_num) (abs_pos.mpr x_eq)
  have place : lastPlace digits x = 10 ^ Int.log 10 |x| * (10 : ℚ) ^ (1 - digits : ℤ) := by
    rw [lastPlace, ← zpow_add₀ (by norm_num)]
    congr 1
    ring
  calc
    |toDigits digits x - x| ≤ lastPlace digits x / 2 :=
      abs_toUnit_sub_le halfEven_nearest (lastPlace_pos digits x) x
    _ = 10 ^ Int.log 10 |x| * ((10 : ℚ) ^ (1 - digits : ℤ) / 2) := by rw [place]; ring
    _ ≤ |x| * (10 ^ (1 - digits : ℤ) / 2) :=
      mul_le_mul_of_nonneg_right decade_le (by positivity)

/-- Rounding yields a value with at most `digits` digits, up to the carry into the next decade. -/
theorem toDigits_toDigits {digits : ℕ} (digits_pos : 0 < digits) (x : ℚ) :
    toDigits digits (toDigits digits x) = toDigits digits x := by
  wlog x_nonneg : 0 ≤ x generalizing x
  · have flipped := this (-x) (by linarith)
    simpa using flipped
  rcases x_nonneg.eq_or_lt with rfl | x_pos
  · simp
  rcases (@toDigits_le_zpow_log digits x x_pos).eq_or_lt with carried | below
  · apply toDigits_eq_self (m := 1) (e := Int.log 10 x + 1) (by rw [carried]; simp)
    simpa using one_lt_pow₀ (by norm_num : (1 : ℤ) < 10) digits_pos.ne'
  · refine toDigits_eq_self (m := halfEven (x / lastPlace digits x))
      (e := Int.log 10 |x| - (digits - 1 : ℤ)) rfl ?_
    have place_pos := lastPlace_pos digits x
    have rounded_nonneg := toDigits_nonneg digits_pos x_nonneg
    have coefficient_nonneg : (0 : ℚ) ≤ halfEven (x / lastPlace digits x) :=
      nonneg_of_mul_nonneg_left rounded_nonneg place_pos
    have decade : (10 : ℚ) ^ (Int.log 10 x + 1) = 10 ^ digits * lastPlace digits x := by
      rw [lastPlace, abs_of_pos x_pos, ← zpow_natCast, ← zpow_add₀ (by norm_num)]
      congr 1
      omega
    have coefficient_lt : (halfEven (x / lastPlace digits x) : ℚ) < 10 ^ digits := by
      rw [decade] at below
      exact lt_of_mul_lt_mul_right below place_pos.le
    rw [abs_of_nonneg (by exact_mod_cast coefficient_nonneg)]
    exact_mod_cast coefficient_lt

/-- A value on a fixed-point grid with few enough digits is not rounded. -/
theorem toDigits_of_mem_fixedGrid {digits scale : ℕ} {x : ℚ} (member : x ∈ fixedGrid scale)
    (fits : |x| * 10 ^ scale < 10 ^ digits) : toDigits digits x = x := by
  obtain ⟨n, rfl⟩ := mem_fixedGrid.mp member
  apply toDigits_eq_self (m := n) (e := -scale) (by rw [zpow_neg, zpow_natCast, one_div])
  have scaled : |(n : ℚ)| < 10 ^ digits := by
    rw [abs_mul, abs_of_pos (by positivity : (0 : ℚ) < 1 / 10 ^ scale), mul_assoc,
      one_div_mul_cancel (by positivity), mul_one] at fits
    exact fits
  exact_mod_cast scaled

/-- A rounding loses at most a relative part of a non-negative value. -/
theorem mul_le_toDigits (digits : ℕ) {x : ℚ} (x_nonneg : 0 ≤ x) :
    x * (1 - 10 ^ (1 - digits : ℤ) / 2) ≤ toDigits digits x := by
  have error := (abs_le.mp (abs_toDigits_sub_le digits x)).1
  rw [abs_of_nonneg x_nonneg] at error
  linarith

/-- A column that holds a value holds every smaller one. -/
theorem toFixed_isSome_of_le {precision scale : ℕ} {x y : ℚ} (x_nonneg : 0 ≤ x) (x_le_y : x ≤ y)
    (stores : (toFixed precision scale y).isSome) : (toFixed precision scale x).isSome := by
  obtain ⟨stored, stored_eq⟩ := Option.isSome_iff_exists.mp stores
  obtain ⟨rfl, fits⟩ := toFixed_eq_some stored_eq
  have monotone := toUnit_mono halfAway_nearest (by positivity : (0 : ℚ) < 1 / 10 ^ scale)
  have nonneg : 0 ≤ toUnit halfAway (1 / 10 ^ scale) x :=
    (toUnit_of_mem_fixedGrid halfAway_nearest (zero_mem (fixedGrid scale))).symm.trans_le
      (monotone x_nonneg)
  have smaller : |toUnit halfAway (1 / 10 ^ scale) x| < 10 ^ (precision - scale) := by
    rw [abs_of_nonneg nonneg]
    exact (monotone x_le_y).trans_lt ((le_abs_self _).trans_lt fits)
  simp only [toFixed, smaller, if_true, Option.isSome_some]

/-- Sum with a rounding after every addition. -/
def roundedSum (round : ℚ → ℚ) (start : ℚ) (xs : List ℚ) : ℚ :=
  xs.foldl (fun x y => round (x + y)) start

theorem roundedSum_cons (round : ℚ → ℚ) (start x : ℚ) (xs : List ℚ) :
    roundedSum round start (x :: xs) = roundedSum round (round (start + x)) xs := rfl

theorem roundedSum_mono {ι : Type*} {round : ℚ → ℚ} (monotone : Monotone round) {f g : ι → ℚ}
    {items : List ι} (below : ∀ item ∈ items, f item ≤ g item) {start other : ℚ}
    (start_le : start ≤ other) :
    roundedSum round start (items.map f) ≤ roundedSum round other (items.map g) := by
  induction items generalizing start other with
  | nil => exact start_le
  | cons item items induction =>
      obtain ⟨head, tail⟩ := List.forall_mem_cons.mp below
      exact induction tail (monotone (add_le_add start_le head))

theorem roundedSum_pos {round : ℚ → ℚ} (keeps : ∀ x, 0 < x → 0 < round x) {xs : List ℚ}
    (positive : ∀ x ∈ xs, 0 < x) {start : ℚ} (start_nonneg : 0 ≤ start)
    (some_pos : 0 < start ∨ xs ≠ []) : 0 < roundedSum round start xs := by
  induction xs generalizing start with
  | nil => exact some_pos.resolve_right (not_not.mpr rfl)
  | cons x xs induction =>
      obtain ⟨head, tail⟩ := List.forall_mem_cons.mp positive
      have next := keeps (start + x) (add_pos_of_nonneg_of_pos start_nonneg head)
      exact induction tail next.le (.inl next)

/-- No addition is rounded while the sum stays within what the rounding keeps. -/
theorem roundedSum_eq {round : ℚ → ℚ} {grid : AddSubgroup ℚ} {bound : ℚ}
    (kept : ∀ x ∈ grid, 0 ≤ x → x < bound → round x = x) {xs : List ℚ}
    (members : ∀ x ∈ xs, x ∈ grid ∧ 0 ≤ x) {start : ℚ} (start_mem : start ∈ grid)
    (start_nonneg : 0 ≤ start) (small : start + xs.sum < bound) :
    roundedSum round start xs = start + xs.sum := by
  induction xs generalizing start with
  | nil => simp [roundedSum]
  | cons x xs induction =>
      obtain ⟨⟨head_mem, head_nonneg⟩, tail⟩ := List.forall_mem_cons.mp members
      have tail_nonneg : 0 ≤ xs.sum := List.sum_nonneg fun y inside => (tail y inside).2
      rw [List.sum_cons] at small ⊢
      have next_mem := grid.add_mem start_mem head_mem
      have next_nonneg := add_nonneg start_nonneg head_nonneg
      rw [roundedSum_cons, kept _ next_mem next_nonneg (by linarith),
        induction tail next_mem next_nonneg (by linarith), add_assoc]

/-- Rounding loses at most its relative part at every addition. -/
theorem mul_pow_le_roundedSum {round : ℚ → ℚ} {keep : ℚ} (keep_nonneg : 0 ≤ keep)
    (keep_le : keep ≤ 1) (relative : ∀ x, 0 ≤ x → x * keep ≤ round x) {xs : List ℚ}
    (nonneg : ∀ x ∈ xs, 0 ≤ x) {start : ℚ} (start_nonneg : 0 ≤ start) :
    (start + xs.sum) * keep ^ xs.length ≤ roundedSum round start xs := by
  induction xs generalizing start with
  | nil => simp [roundedSum]
  | cons x xs induction =>
      obtain ⟨head, tail⟩ := List.forall_mem_cons.mp nonneg
      have sum_nonneg := add_nonneg start_nonneg head
      have rounded := relative (start + x) sum_nonneg
      have tail_nonneg : 0 ≤ xs.sum := List.sum_nonneg tail
      have next_nonneg : 0 ≤ round (start + x) := (mul_nonneg sum_nonneg keep_nonneg).trans rounded
      have kept_tail : xs.sum * keep ≤ xs.sum := mul_le_of_le_one_right tail_nonneg keep_le
      rw [roundedSum_cons, List.sum_cons, List.length_cons, pow_succ]
      calc
        (start + (x + xs.sum)) * (keep ^ xs.length * keep) =
            ((start + x) * keep + xs.sum * keep) * keep ^ xs.length := by ring
        _ ≤ (round (start + x) + xs.sum) * keep ^ xs.length :=
          mul_le_mul_of_nonneg_right (add_le_add rounded kept_tail) (pow_nonneg keep_nonneg _)
        _ ≤ roundedSum round (round (start + x)) xs := induction tail next_nonneg

end DecimalRounding
