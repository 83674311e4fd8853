import Mathlib
import DiceChat.Proofs.Number.Rounding

/-!
# Shortest decimals round back

Whatever is found on a grid rounds to the number it was searched for, and on a grid finer than a
quarter of the last place there is something to be found. The finest grid of the search is.

## Main results

* `Binary.shortest_rounds`: the shortest digits of a number round to that number.
-/

namespace DiceChat.Number.Binary

variable {x : Binary} {place : Int}

/-! ### Grids -/

theorem zpow_toNat (base : ℚ) (nonzero : base ≠ 0) (n : Int) :
    base ^ n = base ^ n.toNat / base ^ (-n).toNat := by
  conv_lhs => rw [(by omega : n = (n.toNat : Int) - (-n).toNat)]
  rw [zpow_sub₀ nonzero, zpow_natCast, zpow_natCast]

/-- On the grid of `place` the value of `x` is `numerator / denominator` steps, so that a step has
this length in units of the last place. -/
structure Grid (x : Binary) (place : Int) (numerator denominator : Nat) : Prop where
  some : 0 < numerator
  divisor : 0 < denominator
  step : (10 : ℚ) ^ place / 2 ^ x.exponent = denominator * x.significand / numerator

theorem grid_of_steps (canonical : x.Canonical) {numerator denominator : Nat}
    (steps : x.steps place = (numerator, denominator)) : x.Grid place numerator denominator := by
  have positive := canonical.positive
  have nonzero : (x.significand : ℚ) ≠ 0 := by exact_mod_cast positive.ne'
  rw [Binary.steps, Prod.mk.injEq, Nat.pow_eq, Nat.pow_eq, Nat.pow_eq, Nat.pow_eq] at steps
  obtain ⟨rfl, rfl⟩ := steps
  constructor
  case some => positivity
  case divisor => positivity
  case step =>
    push_cast
    rw [zpow_toNat 10 (by norm_num) place, zpow_toNat 2 two_ne_zero x.exponent]
    field_simp

theorem reaches_iff {numerator parts distance : Nat} (some : 0 < numerator) (cut : 0 < parts) :
    x.reaches numerator parts distance = true ↔
      (distance * x.significand / numerator : ℚ) ≤ 1 / parts ∧
        ((distance * x.significand / numerator : ℚ) = 1 / parts → x.takesEnds = true) := by
  have bottom : (0 : ℚ) < numerator := by exact_mod_cast some
  have pieces : (0 : ℚ) < parts := by exact_mod_cast cut
  rw [div_le_div_iff₀ bottom pieces, div_eq_div_iff bottom.ne' pieces.ne']
  have scaled : distance * x.significand * parts = parts * x.significand * distance := by ring
  norm_cast
  rw [one_mul, scaled, reaches]
  cases ends : x.takesEnds with
  | true => simp
  | false => simp [lt_iff_le_and_ne]

theorem halfBelow_eq (x : Binary) :
    x.halfBelow = 1 / ((if x.narrowBelow then 4 else 2 : ℕ) : ℚ) := by
  unfold halfBelow
  split <;> norm_num

section

variable {numerator denominator : Nat} (grid : x.Grid place numerator denominator)
include grid

/-- The multiple of the step below the value, in units of the last place. -/
theorem floor_units :
    (numerator / denominator : ℕ) * (10 : ℚ) ^ place / 2 ^ x.exponent =
      x.significand - (numerator % denominator : ℕ) * x.significand / numerator := by
  have nonzero : (numerator : ℚ) ≠ 0 := by exact_mod_cast grid.some.ne'
  have whole : (denominator : ℚ) * (numerator / denominator : ℕ) +
      (numerator % denominator : ℕ) = numerator := by
    exact_mod_cast Nat.div_add_mod numerator denominator
  rw [mul_div_assoc, grid.step]
  field_simp
  linear_combination (x.significand : ℚ) * whole

/-- The multiple of the step above the value, in units of the last place. -/
theorem ceil_units :
    (numerator / denominator + 1 : ℕ) * (10 : ℚ) ^ place / 2 ^ x.exponent =
      x.significand +
        (denominator - numerator % denominator : ℕ) * x.significand / numerator := by
  have floor := floor_units grid
  have rest := (Nat.mod_lt numerator grid.divisor).le
  push_cast [Nat.cast_sub rest] at floor ⊢
  rw [add_one_mul, add_div, grid.step, floor]
  ring

theorem down_iff (distance : Nat) :
    x.reaches numerator (if x.narrowBelow then 4 else 2) distance = true ↔
      (distance * x.significand / numerator : ℚ) ≤ x.halfBelow ∧
        ((distance * x.significand / numerator : ℚ) = x.halfBelow → x.takesEnds = true) := by
  rw [halfBelow_eq]
  apply reaches_iff grid.some
  split <;> decide

theorem rounds_floor (down : x.reaches numerator (if x.narrowBelow then 4 else 2)
    (numerator % denominator) = true) :
    x.Rounds ((numerator / denominator : ℕ) * 10 ^ place) := by
  obtain ⟨near, ends⟩ := (down_iff grid _).mp down
  have distance : (0 : ℚ) ≤ (numerator % denominator : ℕ) * x.significand / numerator := by
    positivity
  constructor <;> rw [floor_units grid]
  case below => linarith
  case above => linarith
  case ends =>
    -- A point below the value can meet the lower end only.
    rintro (least | most)
    · exact ends (by linarith)
    · linarith

theorem rounds_ceil
    (up : x.reaches numerator 2 (denominator - numerator % denominator) = true) :
    x.Rounds ((numerator / denominator + 1 : ℕ) * 10 ^ place) := by
  obtain ⟨near, ends⟩ := (reaches_iff grid.some two_pos).mp up
  rw [Nat.cast_ofNat] at near ends
  have distance : (0 : ℚ) ≤ (denominator - numerator % denominator : ℕ) * x.significand /
      numerator := by
    positivity
  have half := x.halfBelow_bounds.1
  constructor <;> rw [ceil_units grid]
  case below => linarith
  case above => linarith
  case ends =>
    -- And a point above it the upper end only.
    rintro (least | most)
    · linarith
    · exact ends (by linarith)

/-- On a grid finer than a quarter of the last place, the point below rounds back. -/
theorem down_of_fine (fine : (10 : ℚ) ^ place < 2 ^ (x.exponent - 2)) :
    x.reaches numerator (if x.narrowBelow then 4 else 2) (numerator % denominator) = true := by
  have quarter : (1 : ℚ) / 4 ≤ x.halfBelow := by
    unfold halfBelow
    split <;> norm_num
  have step : (denominator * x.significand / numerator : ℚ) < 1 / 4 := by
    rw [← grid.step, div_lt_iff₀ (zpow_pos two_pos _)]
    rw [zpow_sub₀ two_ne_zero] at fine
    norm_num at fine ⊢
    linarith
  -- The point below is nearer than a step, and a step is shorter than half the gap.
  have rest : ((numerator % denominator : ℕ) : ℚ) ≤ denominator := by
    exact_mod_cast (Nat.mod_lt _ grid.divisor).le
  have distance :
      ((numerator % denominator : ℕ) * x.significand / numerator : ℚ) < x.halfBelow := by
    calc _ ≤ (denominator * x.significand / numerator : ℚ) := by gcongr
      _ < 1 / 4 := step
      _ ≤ x.halfBelow := quarter
  exact (down_iff grid _).mpr ⟨distance.le, fun reached => absurd reached distance.ne⟩

end

/-- What is found on a grid rounds back. -/
theorem onGrid?_rounds (canonical : x.Canonical) {digits : Nat}
    (found : x.onGrid? place = some digits) : x.Rounds (digits * 10 ^ place) := by
  cases steps : x.steps place with
  | mk numerator denominator =>
    have grid := grid_of_steps canonical steps
    unfold onGrid? at found
    rw [steps] at found
    dsimp only at found
    split at found
    next down up =>
      split at found
      · cases found
        exact rounds_floor grid down
      · cases found
        exact rounds_ceil grid up
    next down up =>
      cases found
      exact rounds_floor grid down
    next down up =>
      cases found
      exact rounds_ceil grid up
    next => cases found

theorem onGrid?_isSome (canonical : x.Canonical)
    (fine : (10 : ℚ) ^ place < 2 ^ (x.exponent - 2)) : (x.onGrid? place).isSome = true := by
  cases steps : x.steps place with
  | mk numerator denominator =>
    unfold onGrid?
    rw [steps]
    dsimp only
    rw [down_of_fine (grid_of_steps canonical steps) fine]
    cases x.reaches numerator 2 (denominator - numerator % denominator) with
    | true => rfl
    | false => rfl

/-! ### The search -/

/-- A search that gets down to a grid finer than a quarter of the last place finds a decimal that
rounds back. -/
theorem search_rounds (canonical : x.Canonical) {grids : Nat}
    (fine : (10 : ℚ) ^ (place - grids) < 2 ^ (x.exponent - 2)) :
    x.Rounds ((x.search (grids + 1) place).digits *
      10 ^ (x.search (grids + 1) place).place) := by
  induction grids generalizing place with
  | zero =>
    rw [Nat.cast_zero, sub_zero] at fine
    obtain ⟨digits, found⟩ := Option.isSome_iff_exists.mp (onGrid?_isSome canonical fine)
    rw [search, found]
    exact onGrid?_rounds canonical found
  | succ grids ih =>
    rw [search]
    cases found : x.onGrid? place with
    | some digits => exact onGrid?_rounds canonical found
    | none =>
      -- A miss leaves one grid less, and goes one place down.
      apply ih
      rwa [sub_sub, add_comm 1, ← Nat.cast_succ]

/-- Ten to the power of `p` is less than two to the power of `q` if `p` is well below three tenths
of `q`, for exponents of the size that numbers have. -/
theorem ten_zpow_lt {p q : Int} (tenths : 100000 * (p + 21) ≤ (q + 55) * 30103)
    (range : -1076 ≤ q ∧ q ≤ 969) : (10 : ℚ) ^ p < 2 ^ q := by
  rcases le_total 0 p with nonneg | nonpos
  · -- A thousand is less than the tenth power of two.
    obtain ⟨n, rfl⟩ := Int.eq_ofNat_of_zero_le nonneg
    apply lt_of_pow_lt_pow_left₀ 3 (by positivity)
    calc ((10 : ℚ) ^ (n : Int)) ^ 3 = (10 ^ 3) ^ n := by rw [zpow_natCast, pow_right_comm]
      _ ≤ (2 ^ 10) ^ n := by gcongr; norm_num
      _ = 2 ^ ((10 * n : ℕ) : Int) := by rw [← pow_mul, zpow_natCast]
      _ < 2 ^ (q * (3 : ℕ)) := zpow_lt_zpow_right₀ one_lt_two (by omega)
      _ = (2 ^ q) ^ 3 := by rw [zpow_mul, zpow_natCast]
  · -- The tenth power of ten is more than the thirty-third power of two.
    obtain ⟨n, rfl⟩ := Int.exists_eq_neg_ofNat nonpos
    apply lt_of_pow_lt_pow_left₀ 10 (by positivity)
    calc ((10 : ℚ) ^ (-n : Int)) ^ 10 = ((10 ^ 10) ^ n)⁻¹ := by
          rw [zpow_neg, zpow_natCast, inv_pow, pow_right_comm]
      _ ≤ ((2 ^ 33) ^ n)⁻¹ := by gcongr; norm_num
      _ = 2 ^ (-(33 * n : ℕ) : Int) := by rw [← pow_mul, zpow_neg, zpow_natCast]
      _ < 2 ^ (q * (10 : ℕ)) := zpow_lt_zpow_right₀ one_lt_two (by omega)
      _ = (2 ^ q) ^ 10 := by rw [zpow_mul, zpow_natCast]

/-- The search gets down to a grid finer than a quarter of the last place. -/
theorem topPlace_fine (canonical : x.Canonical) :
    (10 : ℚ) ^ (x.topPlace - (23 : ℕ)) < 2 ^ (x.exponent - 2) := by
  have bits := (Nat.log2_lt canonical.positive.ne').mpr canonical.bits
  have least := canonical.least
  have greatest := canonical.greatest
  apply ten_zpow_lt
  · rw [topPlace]
    push_cast
    omega
  · omega

/-- The shortest digits of a number round to that number. -/
theorem shortest_rounds (canonical : x.Canonical) :
    x.Rounds (x.shortest.digits * 10 ^ x.shortest.place) :=
  search_rounds canonical (topPlace_fine canonical)

end DiceChat.Number.Binary
