import SovereignLoop.Js.Number
import Mathlib.Data.Nat.Log

/-!
# Binary64 rounding

The model reads a finite JavaScript number as an exact rational (`JsNum.fin`). What the
language returns from `+`, `-`, `*` and `/`, and what a numeric literal denotes, is the
binary64 number nearest the exact value, ties to even (IEEE 754 `roundTiesToEven`): `f64`
here. The difference decides things: in binary64 `0.35 + 0.30` is `0.6499999999999999`,
below `1 * 0.65`, and `2.3438 * 1.25` is below `2.92975`, so `toFixed(4)` rounds it down.

`f64` rounds to 53 significant bits, or to a multiple of `2^-1074` below `2^-1022`, with
an unbounded exponent. `JsNum.toDouble` adds overflow: a rounded value of magnitude
`2^1024` or more is an infinity (IEEE 754 §7.4 decides overflow on the value rounded with
an unbounded exponent). The proofs use that `f64` is monotone (`f64_mono`), odd, exact on
the doubles (`f64_double`), and its values at the sources' constants (`f64_eq_of_near`,
`f64_eq_of_tie`).

`Number::toString` prints the shortest decimal that reads back as the same double, so it
is defined here, on `f64`.
-/

namespace SovereignLoop

/-! ## Binades -/

/-- The number of binary digits of `n`, halving at most `fuel` times. -/
def binLength : ℕ → ℕ → ℕ
  | 0, _ => 0
  | fuel + 1, n => if n = 0 then 0 else binLength fuel (n / 2) + 1

@[simp] theorem binLength_zero (fuel : ℕ) : binLength fuel 0 = 0 := by
  cases fuel <;> simp [binLength]

/-- With enough fuel `binLength` counts the binary digits: `2^(L-1) ≤ n < 2^L`. -/
theorem binLength_spec : ∀ {fuel n : ℕ}, n ≤ fuel →
    n < 2 ^ binLength fuel n ∧ (0 < n → 2 ^ binLength fuel n ≤ 2 * n)
  | 0, n, h => by simp [Nat.le_zero.mp h]
  | fuel + 1, n, h => by
    rcases Nat.eq_zero_or_pos n with rfl | hn
    · simp
    obtain ⟨ih₁, ih₂⟩ := @binLength_spec fuel (n / 2) (by omega)
    rw [binLength, if_neg hn.ne', pow_succ]
    rcases Nat.eq_zero_or_pos (n / 2) with h₂ | h₂
    · rw [h₂, binLength_zero]; omega
    · have := ih₂ h₂; omega

/-- The binade of a positive rational `x`, the `e` with `2^e ≤ x < 2^(e+1)`: the lengths
of its numerator and denominator fix it up to one. -/
def binExp (x : ℚ) : ℤ :=
  let e : ℤ := (binLength x.num.toNat x.num.toNat : ℤ) - binLength x.den x.den
  if (2 : ℚ) ^ e ≤ x then e else e - 1

/-- `a / b` is within a factor of two of `2^(la - lb)` when `la` and `lb` are the binary
lengths of `a` and `b`. -/
theorem div_mem_binade {a b la lb : ℕ} (hb : 0 < b) (ha₁ : a < 2 ^ la) (ha₂ : 2 ^ la ≤ 2 * a)
    (hb₁ : b < 2 ^ lb) (hb₂ : 2 ^ lb ≤ 2 * b) :
    (2 : ℚ) ^ ((la : ℤ) - lb - 1) < a / b ∧ (a / b : ℚ) < 2 ^ ((la : ℤ) - lb + 1) := by
  have hb' : (0 : ℚ) < b := by exact_mod_cast hb
  have ha' : (0 : ℚ) < a := by
    exact_mod_cast (show 0 < a by have : 1 ≤ 2 ^ la := Nat.one_le_two_pow; omega)
  have hA : (2 : ℚ) ^ la ≤ 2 * a := by exact_mod_cast ha₂
  have hA' : (a : ℚ) < 2 ^ la := by exact_mod_cast ha₁
  have hB : (2 : ℚ) ^ lb ≤ 2 * b := by exact_mod_cast hb₂
  have hB' : (b : ℚ) < 2 ^ lb := by exact_mod_cast hb₁
  constructor
  · rw [zpow_sub₀ two_ne_zero, zpow_sub₀ two_ne_zero, zpow_natCast, zpow_natCast, zpow_one,
      div_div, div_lt_div_iff₀ (by positivity) hb']
    linarith [mul_le_mul_of_nonneg_right hA hb'.le, mul_lt_mul_of_pos_left hB' ha']
  · rw [zpow_add₀ two_ne_zero, zpow_sub₀ two_ne_zero, zpow_natCast, zpow_natCast, zpow_one,
      div_mul_eq_mul_div, div_lt_div_iff₀ hb' (by positivity)]
    linarith [mul_le_mul_of_nonneg_left hB ha'.le, mul_lt_mul_of_pos_right hA' hb']

/-- `binExp x` is the binade of a positive `x`: `2^e <= x < 2^(e+1)`. -/
theorem binExp_spec {x : ℚ} (hx : 0 < x) :
    (2 : ℚ) ^ binExp x ≤ x ∧ x < 2 ^ (binExp x + 1) := by
  obtain ⟨ha₁, ha₂⟩ := binLength_spec (le_refl x.num.toNat)
  obtain ⟨hb₁, hb₂⟩ := binLength_spec (le_refl x.den)
  have hnum : ((x.num.toNat : ℕ) : ℚ) = x.num := by
    exact_mod_cast Int.toNat_of_nonneg (Rat.num_nonneg.mpr hx.le)
  have hbin := div_mem_binade x.den_pos ha₁ (ha₂ (by simpa using Rat.num_pos.mpr hx)) hb₁
    (hb₂ x.den_pos)
  rw [hnum, Rat.num_div_den] at hbin
  unfold binExp
  dsimp only
  split_ifs with h
  · exact ⟨h, hbin.2⟩
  · exact ⟨hbin.1.le, by rw [sub_add_cancel]; exact lt_of_not_le h⟩

/-- A binade that holds `x` is `binExp x`. -/
theorem binExp_eq {x : ℚ} {e : ℤ} (h₁ : (2 : ℚ) ^ e ≤ x) (h₂ : x < 2 ^ (e + 1)) :
    binExp x = e := by
  obtain ⟨hs₁, hs₂⟩ := binExp_spec (lt_of_lt_of_le (zpow_pos two_pos e) h₁)
  have hle : ∀ {m n : ℤ}, (2 : ℚ) ^ n ≤ x → x < 2 ^ (m + 1) → n ≤ m := fun {m n} hn hm => by
    by_contra h
    linarith [zpow_le_zpow_right₀ (one_le_two (α := ℚ)) (by omega : m + 1 ≤ n)]
  have := hle h₁ hs₂
  have := hle hs₁ h₂
  omega

/-- A larger positive number is in the same binade or a higher one. -/
theorem binExp_mono {x y : ℚ} (hx : 0 < x) (hxy : x ≤ y) : binExp x ≤ binExp y := by
  by_contra h
  have := zpow_le_zpow_right₀ (one_le_two (α := ℚ)) (by omega : binExp y + 1 ≤ binExp x)
  linarith [(binExp_spec hx).1, (binExp_spec (hx.trans_le hxy)).2]

/-! ## Rounding to an integer -/

/-- `roundTiesToEven` to an integer: the integer nearest `m`, the even one on a tie. -/
def roundHalfEven (m : ℚ) : ℤ :=
  if m - ⌊m⌋ < 1 / 2 then ⌊m⌋
  else if 1 / 2 < m - ⌊m⌋ then ⌊m⌋ + 1
  else if ⌊m⌋ % 2 = 0 then ⌊m⌋ else ⌊m⌋ + 1

/-- Rounding to an integer moves to the floor or one above it. -/
theorem roundHalfEven_bounds (m : ℚ) : ⌊m⌋ ≤ roundHalfEven m ∧ roundHalfEven m ≤ ⌊m⌋ + 1 := by
  unfold roundHalfEven; split_ifs <;> omega

theorem roundHalfEven_mono {m m' : ℚ} (h : m ≤ m') : roundHalfEven m ≤ roundHalfEven m' := by
  rcases (Int.floor_mono h).lt_or_eq with hlt | heq
  · linarith [(roundHalfEven_bounds m).2, (roundHalfEven_bounds m').1]
  · unfold roundHalfEven
    rw [heq]
    split_ifs <;> first | omega | linarith

/-- Off a tie, the nearest integer. -/
theorem roundHalfEven_eq_of_near {m : ℚ} {n : ℤ} (h : |m - n| < 1 / 2) : roundHalfEven m = n := by
  rw [abs_lt] at h
  unfold roundHalfEven
  rcases lt_or_le m n with hm | hm
  · have hf : ⌊m⌋ = n - 1 := Int.floor_eq_iff.mpr ⟨by push_cast; linarith, by push_cast; linarith⟩
    rw [hf, if_neg (by push_cast; linarith), if_pos (by push_cast; linarith), sub_add_cancel]
  · have hf : ⌊m⌋ = n := Int.floor_eq_iff.mpr ⟨hm, by linarith⟩
    rw [hf, if_pos (by linarith)]

/-- On a tie, the even neighbour. -/
theorem roundHalfEven_eq_of_tie {m : ℚ} {n : ℤ} (h : m = n + 1 / 2) (hn : n % 2 = 0) :
    roundHalfEven m = n := by
  have hf : ⌊m⌋ = n := Int.floor_eq_iff.mpr ⟨by linarith, by linarith⟩
  unfold roundHalfEven
  rw [hf, if_neg (by linarith), if_neg (by linarith), if_pos hn]

/-- An integer rounds to itself. -/
theorem roundHalfEven_intCast (n : ℤ) : roundHalfEven n = n :=
  roundHalfEven_eq_of_near (by simp)

/-! ## The nearest double -/

/-- The spacing of the doubles around `x`: `2^(e-52)` in the binade `e` of `|x|`, and
`2^-1074` among the subnormals. -/
def ulp (x : ℚ) : ℚ := 2 ^ (max (binExp |x|) (-1022) - 52)

/-- The binary64 number nearest `x`, ties to even. -/
def f64 (x : ℚ) : ℚ :=
  if 0 < x then roundHalfEven (x / ulp x) * ulp x
  else if x < 0 then -(roundHalfEven (-x / ulp x) * ulp x)
  else 0

section

variable {x y : ℚ}

/-- A positive `x` rounds at the spacing of its binade, or of the subnormals below `2^-1022`. -/
theorem f64_of_pos (hx : 0 < x) :
    f64 x = roundHalfEven (x / 2 ^ (max (binExp x) (-1022) - 52)) *
      2 ^ (max (binExp x) (-1022) - 52) := by
  rw [f64, if_pos hx, ulp, abs_of_pos hx]

@[simp] theorem f64_zero : f64 0 = 0 := rfl

/-- Rounding is symmetric about zero. -/
theorem f64_neg (x : ℚ) : f64 (-x) = -f64 x := by
  unfold f64 ulp
  rw [abs_neg, neg_neg]
  rcases lt_trichotomy x 0 with hx | rfl | hx
  · rw [if_pos (neg_pos.mpr hx), if_neg hx.not_lt, if_pos hx, neg_neg]
  · simp
  · rw [if_neg (neg_neg_of_pos hx).not_lt, if_pos (neg_neg_of_pos hx), if_pos hx]

/-- Rounding keeps a non-negative number non-negative. -/
theorem f64_nonneg (hx : 0 ≤ x) : 0 ≤ f64 x := by
  rcases hx.eq_or_lt with rfl | hx
  · rfl
  rw [f64_of_pos hx]
  have hu := zpow_pos (two_pos (α := ℚ)) (max (binExp x) (-1022) - 52)
  have hm : (0 : ℤ) ≤ roundHalfEven (x / 2 ^ (max (binExp x) (-1022) - 52)) :=
    (Int.floor_nonneg.mpr (div_pos hx hu).le).trans (roundHalfEven_bounds _).1
  exact mul_nonneg (by exact_mod_cast hm) hu.le

/-- Rounding keeps a non-positive number non-positive. -/
theorem f64_nonpos (hx : x ≤ 0) : f64 x ≤ 0 := by
  have := f64_nonneg (neg_nonneg.mpr hx)
  rw [f64_neg] at this
  linarith

/-- A positive `x` rounds to at most the top of its binade. -/
theorem f64_le_top (hx : 0 < x) : f64 x ≤ 2 ^ (max (binExp x) (-1022) + 1) := by
  set k := max (binExp x) (-1022)
  have hu := zpow_pos (two_pos (α := ℚ)) (k - 52)
  have htop : (2 : ℚ) ^ (k + 1) = 2 ^ 53 * 2 ^ (k - 52) := by
    rw [← zpow_natCast, ← zpow_add₀ two_ne_zero]
    ring_nf
  have hlt : x / 2 ^ (k - 52) ≤ ((2 ^ 53 : ℤ) : ℚ) := by
    rw [div_le_iff₀ hu, Int.cast_pow, Int.cast_ofNat, ← htop]
    exact ((binExp_spec hx).2.trans_le (zpow_le_zpow_right₀ one_le_two (by omega))).le
  rw [f64_of_pos hx, htop]
  have := roundHalfEven_mono hlt
  rw [roundHalfEven_intCast] at this
  exact mul_le_mul_of_nonneg_right (by exact_mod_cast this) hu.le

/-- A positive `x` above the subnormals rounds to at least the bottom of its binade. -/
theorem bottom_le_f64 (hx : 0 < x) (he : -1022 ≤ binExp x) : 2 ^ binExp x ≤ f64 x := by
  have hu := zpow_pos (two_pos (α := ℚ)) (binExp x - 52)
  have hbot : (2 : ℚ) ^ binExp x = 2 ^ 52 * 2 ^ (binExp x - 52) := by
    rw [← zpow_natCast, ← zpow_add₀ two_ne_zero]
    ring_nf
  have hge : ((2 ^ 52 : ℤ) : ℚ) ≤ x / 2 ^ (binExp x - 52) := by
    rw [le_div_iff₀ hu, Int.cast_pow, Int.cast_ofNat, ← hbot]
    exact (binExp_spec hx).1
  rw [f64_of_pos hx, max_eq_left he, hbot]
  have := roundHalfEven_mono hge
  rw [roundHalfEven_intCast] at this
  exact mul_le_mul_of_nonneg_right (by exact_mod_cast this) hu.le

/-- Rounding is monotone on non-negative numbers. -/
theorem f64_mono_of_nonneg (hx : 0 ≤ x) (hxy : x ≤ y) : f64 x ≤ f64 y := by
  rcases hx.eq_or_lt with rfl | hx
  · exact f64_nonneg hxy
  have hy := hx.trans_le hxy
  rcases (max_le_max (binExp_mono hx hxy) (le_refl (-1022 : ℤ))).eq_or_lt with hk | hk
  · have hu := zpow_pos (two_pos (α := ℚ)) (max (binExp y) (-1022) - 52)
    rw [f64_of_pos hx, f64_of_pos hy, hk]
    exact mul_le_mul_of_nonneg_right
      (by exact_mod_cast roundHalfEven_mono (div_le_div_of_nonneg_right hxy hu.le)) hu.le
  · have hey : max (binExp y) (-1022) = binExp y := max_eq_left (by omega)
    calc f64 x ≤ 2 ^ (max (binExp x) (-1022) + 1) := f64_le_top hx
      _ ≤ 2 ^ binExp y := zpow_le_zpow_right₀ one_le_two (by omega)
      _ ≤ f64 y := bottom_le_f64 hy (by omega)

/-- Rounding is monotone: it is odd, and monotone on the non-negative numbers. -/
theorem f64_mono (hxy : x ≤ y) : f64 x ≤ f64 y := by
  rcases le_total 0 x with hx | hx
  · exact f64_mono_of_nonneg hx hxy
  rcases le_total 0 y with hy | hy
  · exact (f64_nonpos hx).trans (f64_nonneg hy)
  · have := f64_mono_of_nonneg (neg_nonneg.mpr hy) (neg_le_neg hxy)
    rw [f64_neg, f64_neg] at this
    linarith

end

section

variable {x : ℚ} {e m : ℤ} (h₁ : (2 : ℚ) ^ e ≤ x) (h₂ : x < 2 ^ (e + 1)) (he : -1022 ≤ e)
include h₁ h₂ he

/-- In a normal binade `e`, rounding rounds `x` to a multiple of `2^(e-52)`. -/
theorem f64_eq_round : f64 x = roundHalfEven (x / 2 ^ (e - 52)) * 2 ^ (e - 52) := by
  rw [f64_of_pos (lt_of_lt_of_le (zpow_pos two_pos e) h₁), binExp_eq h₁ h₂, max_eq_left he]

/-- A positive `x` of binade `e` within half a unit of `m · 2^(e-52)` rounds to it. -/
theorem f64_eq_of_near (hm : |x / 2 ^ (e - 52) - m| < 1 / 2) : f64 x = m * 2 ^ (e - 52) := by
  rw [f64_eq_round h₁ h₂ he, roundHalfEven_eq_of_near hm]

/-- A positive `x` of binade `e` halfway between `m · 2^(e-52)` and the next double rounds
to the first when `m` is even. -/
theorem f64_eq_of_tie (hm : x / 2 ^ (e - 52) = m + 1 / 2) (hev : m % 2 = 0) :
    f64 x = m * 2 ^ (e - 52) := by
  rw [f64_eq_round h₁ h₂ he, roundHalfEven_eq_of_tie hm hev]

end

/-- A double rounds to itself: `m · 2^(e-52)` with a 53-bit `m`, above the subnormals. -/
theorem f64_double {m e : ℤ} (hm₁ : 2 ^ 52 ≤ m) (hm₂ : m < 2 ^ 53) (he : -1022 ≤ e) :
    f64 (m * 2 ^ (e - 52)) = m * 2 ^ (e - 52) := by
  have hu := zpow_pos (two_pos (α := ℚ)) (e - 52)
  have hbot : (2 : ℚ) ^ e = 2 ^ 52 * 2 ^ (e - 52) := by
    rw [← zpow_natCast, ← zpow_add₀ two_ne_zero]
    ring_nf
  have htop : (2 : ℚ) ^ (e + 1) = 2 ^ 53 * 2 ^ (e - 52) := by
    rw [← zpow_natCast, ← zpow_add₀ two_ne_zero]
    ring_nf
  refine f64_eq_of_near ?_ ?_ he (by rw [mul_div_cancel_right₀ _ hu.ne']; simp)
  · rw [hbot]
    exact mul_le_mul_of_nonneg_right (by exact_mod_cast hm₁) hu.le
  · rw [htop]
    exact mul_lt_mul_of_pos_right (by exact_mod_cast hm₂) hu

@[simp] theorem f64_one : f64 1 = 1 := by
  have h := f64_double (m := 2 ^ 52) (e := 0) le_rfl (by norm_num) (by norm_num)
  norm_num at h
  exact h

@[simp] theorem f64_half : f64 (1 / 2) = 1 / 2 := by
  have h := f64_double (m := 2 ^ 52) (e := -1) le_rfl (by norm_num) (by norm_num)
  norm_num at h ⊢
  exact h

/-- A natural number of at most 53 bits is a double. -/
theorem f64_natCast {n : ℕ} (hn : n ≤ 2 ^ 53) : f64 n = n := by
  rcases Nat.eq_zero_or_pos n with rfl | hpos
  · simp
  rcases hn.eq_or_lt with rfl | hlt
  · have h := f64_double (m := 2 ^ 52) (e := 53) le_rfl (by norm_num) (by norm_num)
    norm_num at h ⊢
    exact h
  · set e := Nat.log 2 n
    have hlo : 2 ^ e ≤ n := Nat.pow_log_le_self 2 hpos.ne'
    have hhi : n < 2 ^ (e + 1) := Nat.lt_pow_succ_log_self (by norm_num) n
    have he : e ≤ 52 := Nat.lt_succ_iff.mp ((Nat.pow_lt_pow_iff_right (by norm_num)).mp
      (hlo.trans_lt hlt))
    have hm₁ : 2 ^ 52 ≤ n * 2 ^ (52 - e) := by
      calc 2 ^ 52 = 2 ^ e * 2 ^ (52 - e) := by rw [← pow_add, Nat.add_sub_cancel' he]
        _ ≤ n * 2 ^ (52 - e) := Nat.mul_le_mul_right _ hlo
    have hm₂ : n * 2 ^ (52 - e) < 2 ^ 53 := by
      calc n * 2 ^ (52 - e) < 2 ^ (e + 1) * 2 ^ (52 - e) :=
            Nat.mul_lt_mul_of_pos_right hhi (by positivity)
        _ = 2 ^ 53 := by rw [← pow_add]; congr 1; omega
    have h := f64_double (m := (n * 2 ^ (52 - e) : ℕ)) (e := e) (by exact_mod_cast hm₁)
      (by exact_mod_cast hm₂) (by omega)
    have hn : ((n * 2 ^ (52 - e) : ℕ) : ℤ) * (2 : ℚ) ^ ((e : ℤ) - 52) = n := by
      push_cast
      rw [mul_assoc, ← zpow_natCast, ← zpow_add₀ two_ne_zero, Nat.cast_sub he]
      simp
    rwa [hn] at h

/-- `2^53 + 1` lies halfway between the doubles `2^53` and `2^53 + 2`, and rounds to the
even one, `2^53`. -/
theorem f64_two_pow_add_one : f64 (2 ^ 53 + 1) = 2 ^ 53 := by
  have h := f64_eq_of_tie (x := 2 ^ 53 + 1) (e := 53) (m := 2 ^ 52) (by norm_num) (by norm_num)
    (by norm_num) (by norm_num) (by norm_num)
  norm_num at h ⊢
  exact h

/-- A power of two above the subnormals is a double. -/
theorem f64_two_zpow {k : ℤ} (hk : -1022 ≤ k) : f64 (2 ^ k) = 2 ^ k := by
  have h := f64_double (m := 2 ^ 52) (e := k) le_rfl (by norm_num) hk
  have h2 : ((2 ^ 52 : ℤ) : ℚ) * 2 ^ (k - 52) = 2 ^ k := by
    rw [Int.cast_pow, Int.cast_ofNat, ← zpow_natCast, ← zpow_add₀ two_ne_zero]
    ring_nf
  rwa [h2] at h

/-- Powers of two are doubles. -/
theorem f64_two_pow (n : ℕ) : f64 (2 ^ n) = 2 ^ n := by
  have h := f64_two_zpow (k := n) (by omega)
  rwa [zpow_natCast] at h

/-- Rounding keeps a number of magnitude at most `2^1023` there. -/
theorem abs_f64_le {x : ℚ} (h : |x| ≤ 2 ^ 1023) : |f64 x| ≤ 2 ^ 1023 := by
  have ht := f64_two_pow 1023
  obtain ⟨h₁, h₂⟩ := abs_le.mp h
  have h₁' := f64_mono h₁
  rw [f64_neg, ht] at h₁'
  exact abs_le.mpr ⟨h₁', ht ▸ f64_mono h₂⟩

/-- `parseFloat(x.toFixed(d))` on a finite `x`: the decimal `toFixed` prints, read back as
the double nearest it. -/
def parseFixed (d : ℕ) (x : ℚ) : ℚ := f64 (roundFixed d x)

/-- `0` prints as `0` and reads back as `0`. -/
@[simp] theorem parseFixed_zero (d : ℕ) : parseFixed d 0 = 0 := by
  norm_num [parseFixed, roundFixed, Int.floor_eq_zero_iff]

/-- Rounding keeps a number at most `1` at most `1`. -/
theorem f64_le_one {x : ℚ} (h : x ≤ 1) : f64 x ≤ 1 := f64_one ▸ f64_mono h

/-- Rounding keeps a number at least `1` at least `1`. -/
theorem one_le_f64 {x : ℚ} (h : 1 ≤ x) : 1 ≤ f64 x := f64_one ▸ f64_mono h

/-- Rounding keeps a number of `[0, 1]` in `[0, 1]`. -/
theorem f64_mem_unit {x : ℚ} (h0 : 0 ≤ x) (h1 : x ≤ 1) : 0 ≤ f64 x ∧ f64 x ≤ 1 :=
  ⟨f64_nonneg h0, f64_le_one h1⟩

/-- `parseFloat(x.toFixed(d))` keeps a number of `[0, 1]` in `[0, 1]`. -/
theorem parseFixed_mem_unit (d : ℕ) {x : ℚ} (h0 : 0 ≤ x) (h1 : x ≤ 1) :
    0 ≤ parseFixed d x ∧ parseFixed d x ≤ 1 :=
  f64_mem_unit (roundFixed_mem_unit d h0 h1).1 (roundFixed_mem_unit d h0 h1).2

/-- A number within `2^53 + 1` of zero rounds to one within `2^53`: `2^53 + 1` is a tie that
rounds down to the even `2^53`. -/
theorem abs_f64_le_two_pow_53 {x : ℚ} (h : |x| ≤ 2 ^ 53 + 1) : |f64 x| ≤ 2 ^ 53 := by
  obtain ⟨h₁, h₂⟩ := abs_le.mp h
  have h₁' := f64_mono h₁
  rw [f64_neg, f64_two_pow_add_one] at h₁'
  exact abs_le.mpr ⟨h₁', f64_two_pow_add_one ▸ f64_mono h₂⟩

/-! ## Operations on numbers -/

namespace JsNum

/-- The number an operation returns whose exact result is `x`: the double nearest a finite
`x`, or the infinity of its sign when that double reaches `2^1024`; `NaN` and the
infinities as they are. -/
def toDouble : JsNum → JsNum
  | fin q => if (2 : ℚ) ^ 1024 ≤ |f64 q| then (if 0 < q then posInf else negInf) else fin (f64 q)
  | x => x

/-- `NaN` stays `NaN`. -/
@[simp] theorem toDouble_nan : nan.toDouble = nan := rfl
@[simp] theorem toDouble_posInf : posInf.toDouble = posInf := rfl
@[simp] theorem toDouble_negInf : negInf.toDouble = negInf := rfl

/-- Below `2^1023` in magnitude nothing overflows: the result is the nearest double. -/
theorem toDouble_fin {q : ℚ} (h : |q| ≤ 2 ^ 1023) : (fin q).toDouble = fin (f64 q) :=
  if_neg (not_le.mpr ((abs_f64_le h).trans_lt (by norm_num)))

/-- A result in `[0, 1]` is the nearest double. -/
theorem toDouble_fin_unit {q : ℚ} (h0 : 0 ≤ q) (h1 : q ≤ 1) : (fin q).toDouble = fin (f64 q) :=
  toDouble_fin (abs_le.mpr ⟨le_trans (by norm_num) h0, h1.trans (by norm_num)⟩)

/-- A result of at least `2^1024` overflows to `Infinity`. -/
theorem toDouble_of_two_pow_le {q : ℚ} (h : 2 ^ 1024 ≤ q) : (fin q).toDouble = posInf := by
  have hf : 2 ^ 1024 ≤ f64 q := f64_two_pow 1024 ▸ f64_mono h
  rw [toDouble, if_pos (hf.trans (le_abs_self _)), if_pos (lt_of_lt_of_le (by norm_num) h)]

/-- A non-negative result is the nearest double or, past the largest, `Infinity`. -/
theorem toDouble_of_nonneg {q : ℚ} (h : 0 ≤ q) :
    (fin q).toDouble = fin (f64 q) ∨ (fin q).toDouble = posInf := by
  simp only [toDouble]
  split_ifs with h₁ h₂
  · exact .inr rfl
  · obtain rfl : q = 0 := le_antisymm (not_lt.mp h₂) h
    norm_num at h₁
  · exact .inl rfl

/-- A result no greater than a double `c` below `2^1024` does not come out above `c`. -/
theorem toDouble_not_above {q c : ℚ} (hc : f64 c = c) (hc₁ : c < 2 ^ 1024) (h : q ≤ c) :
    ¬ (fin q).toDouble.Above c := by
  have hf : f64 q ≤ c := hc ▸ f64_mono h
  simp only [toDouble]
  split_ifs with h₁ h₂
  · exact absurd h₁ (not_le.mpr ((abs_of_nonneg (f64_nonneg h₂.le)).le.trans_lt (hf.trans_lt hc₁)))
  · exact id
  · exact not_lt.mpr hf

/-- Rounding never makes `NaN` of a number. -/
theorem toDouble_ne_nan {x : JsNum} (h : x ≠ nan) : x.toDouble ≠ nan := by
  cases x with
  | fin q => simp only [toDouble]; split_ifs <;> simp
  | nan => exact h
  | posInf | negInf => simp

/-- `parseFloat(x.toFixed(d))` on any number: the non-finite values print as themselves and
read back as they were. -/
def parseFixed (d : ℕ) : JsNum → JsNum
  | fin q => fin (SovereignLoop.parseFixed d q)
  | x => x

/-! ## Printing -/

/-- The `k`-digit decimals next to a positive `x`: the digit strings `s` (as numbers) of
the decimals `s · 10^(e+1-k)` just below and just above `x`, where `10^e ≤ x < 10^(e+1)`. -/
private def decimalsAround (x : ℚ) (k : ℕ) : List ℕ :=
  let t := ⌊x * 10 ^ ((k : ℤ) - 1 - floorLog 10 x)⌋.toNat
  [t, t + 1]

/-- The value `s · 10^(e+1-k)` of a `k`-digit decimal next to `x`. -/
private def decimalValue (x : ℚ) (k s : ℕ) : ℚ := s * 10 ^ (floorLog 10 x + 1 - k)

/-- The `k`-digit decimal `Number::toString` prints for a positive double `x`, if there is
one: among the `k`-digit decimals whose nearest double is `x`, the one nearest `x`, the
even one on a tie. -/
private def decimalOfLength (x : ℚ) (k : ℕ) : Option (ℕ × ℕ) :=
  match (decimalsAround x k).filter fun s => f64 (decimalValue x k s) = x with
  | [] => none
  | [s] => some (s, k)
  | s₁ :: s₂ :: _ =>
    let d₁ := |decimalValue x k s₁ - x|
    let d₂ := |decimalValue x k s₂ - x|
    some (if d₁ < d₂ ∨ (d₁ = d₂ ∧ s₁ % 2 = 0) then s₁ else s₂, k)

/-- The shortest decimal that reads back as the positive double `x`, as its digits and
its exponent `n` (`x` is about `0.d₁d₂… · 10^n`), trailing zeros removed. Every double has
one of at most 17 digits; for a rational that is not a double, which no value of the
language is, the 17-digit decimal nearest it. -/
private def shortestDigits (x : ℚ) : List Char × ℤ :=
  let (s, k) := ((List.range' 1 17).findSome? (decimalOfLength x)).getD
    ((roundHalfEven (x * 10 ^ (16 - floorLog 10 x))).toNat, 17)
  let d := Nat.toDigits 10 s
  ((d.reverse.dropWhile (· = '0')).reverse, floorLog 10 x + 1 - k + d.length)

/-- `Number::toString` of a positive double, from its digits `d` (`k` of them) and
exponent `n`. -/
private def posToStr (q : ℚ) : String :=
  let (d, n) := shortestDigits q
  let k : ℤ := d.length
  if k ≤ n ∧ n ≤ 21 then String.mk (d ++ List.replicate (n - k).toNat '0')
  else if 0 < n ∧ n ≤ 21 then String.mk (d.take n.toNat ++ '.' :: d.drop n.toNat)
  else if -6 < n ∧ n ≤ 0 then String.mk ('0' :: '.' :: List.replicate (-n).toNat '0' ++ d)
  else
    let mant := match d with
      | [c] => [c]
      | c :: cs => c :: '.' :: cs
      | [] => []
    String.mk mant ++ "e" ++ (if 0 ≤ n - 1 then "+" else "-") ++ toString (n - 1).natAbs

/-- `Number::toString` (radix 10) of the double a number denotes. -/
def toStr : JsNum → String
  | nan => "NaN"
  | posInf => "Infinity"
  | negInf => "-Infinity"
  | fin q =>
    let x := f64 q
    if x = 0 then "0" else if x < 0 then "-" ++ posToStr (-x) else posToStr x

/-- `Number.prototype.toFixed(d)` as the string it returns. -/
def toFixed (d : ℕ) : JsNum → String
  | fin q =>
    if (10 : ℚ) ^ 21 ≤ |q| then toStr (fin q)
    else
      let n := ⌊|q| * 10 ^ d + 1 / 2⌋.toNat
      let ds := Nat.toDigits 10 n
      let ds := List.replicate (d + 1 - ds.length) '0' ++ ds
      let body := if d = 0 then ds else ds.take (ds.length - d) ++ '.' :: ds.drop (ds.length - d)
      (if q < 0 then "-" else "") ++ String.mk body
  | x => toStr x

end JsNum

/-! ## `++` on a number -/

/-- `x++` on a number: the double nearest `x + 1`. -/
def jsIncr (x : ℚ) : ℚ := f64 (x + 1)

/-- Counting up from a non-negative double gives at least `1`. -/
theorem one_le_jsIncr {x : ℚ} (hx : 0 ≤ x) : 1 ≤ jsIncr x := by
  rw [← f64_one]
  exact f64_mono (by linarith)

/-- A counter that starts at `0` and is only incremented holds the number of increments,
until it sticks at `2^53`, where `+ 1` rounds back down. -/
theorem jsIncr_min (n : ℕ) : jsIncr (min n (2 ^ 53) : ℕ) = (min (n + 1) (2 ^ 53) : ℕ) := by
  unfold jsIncr
  rcases lt_or_le n (2 ^ 53) with h | h
  · rw [min_eq_left h.le, min_eq_left h, ← Nat.cast_succ, f64_natCast h]
  · rw [min_eq_right h, min_eq_right (by omega)]
    push_cast
    exact f64_two_pow_add_one

/-- After `n` increments from `0` a counter holds `min n 2^53`. -/
theorem jsIncr_iterate_zero (n : ℕ) : jsIncr^[n] 0 = (min n (2 ^ 53) : ℕ) := by
  induction n with
  | zero => simp
  | succ n ih => rw [Function.iterate_succ_apply', ih, jsIncr_min]

end SovereignLoop
