import Mathlib.Data.Rat.Floor
import Mathlib.Tactic.Linarith
import Mathlib.Tactic.Positivity

/-!
# JavaScript numbers

The loop's sources are TypeScript, and every value they compute is a JavaScript number.
This file fixes how the model reads one:

* a finite number is an exact rational (`JsNum.fin`), and the operations of this file
  compute exactly; `Binary64` rounds their results to doubles, with overflow to the
  infinities, where the sources compute them. `-0` is identified with `0`;
* `NaN`, `Infinity` and `-Infinity` are kept, since the sources compare values of any
  type and a comparison with `NaN` is `false` whichever way it is written;
* `x.toFixed(d)` prints `roundFixed d x`: `x` rounded half away from zero to `d`
  decimals, `x` itself from `10^21` up. `parseFloat` reads that decimal back as the double
  nearest it, `parseFixed` in `Binary64`;
* `StringToNumber` is written out, so that what a string compares as is the language's
  own; `Number::toString`, which prints the shortest decimal that reads back as the same
  double, is in `Binary64`.
-/

namespace SovereignLoop

/-- A JavaScript number: an exact rational when finite, or one of the three non-finite
values. -/
inductive JsNum where
  | fin (q : ℚ)
  | nan
  | posInf
  | negInf
  deriving DecidableEq, Repr

/-- `x.toFixed(d)` on a finite `x`, as the decimal it prints: the integer `n` nearest
`|x| · 10^d`, the larger on a tie, divided back, with the sign of `x`. From `10^21` up
`toFixed` prints `x` itself. -/
def roundFixed (d : ℕ) (x : ℚ) : ℚ :=
  if (10 : ℚ) ^ 21 ≤ |x| then x
  else if x < 0 then -(⌊-x * 10 ^ d + 1 / 2⌋ / 10 ^ d)
  else ⌊x * 10 ^ d + 1 / 2⌋ / 10 ^ d

/-- `x % y` on finite operands (`Number::remainder`): the dividend minus the divisor times
the quotient truncated toward zero. -/
def jsRem (x y : ℚ) : ℚ :=
  let q := x / y
  x - y * (if 0 ≤ q then ⌊q⌋ else ⌈q⌉)

/-- `ToInt32`: the integer modulo `2^32`, read as a signed 32-bit value. -/
def toInt32 (x : ℤ) : ℤ :=
  let m := x % 2 ^ 32
  if m < 2 ^ 31 then m else m - 2 ^ 32

/-- `⌊log_b y⌋` of a positive rational, by counting base-`b` digits: of `⌊y⌋` from `1` up
(one less than their number), and of `⌈1/y⌉ - 1` below `1`. -/
def floorLog (b : ℕ) (y : ℚ) : ℤ :=
  if 1 ≤ y then ((Nat.toDigits b ⌊y⌋₊).length : ℤ) - 1
  else -((Nat.toDigits b (⌈y⁻¹⌉₊ - 1)).length : ℤ)

/-- `parseFloat(x.toFixed(d))` of a non-negative `x` between two numbers with at most `d`
decimals stays between them. -/
theorem roundFixed_mem_Icc {d : ℕ} {x : ℚ} {k m : ℤ} (hx : 0 ≤ x)
    (hk : (k : ℚ) / 10 ^ d ≤ x) (hm : x ≤ (m : ℚ) / 10 ^ d) :
    (k : ℚ) / 10 ^ d ≤ roundFixed d x ∧ roundFixed d x ≤ (m : ℚ) / 10 ^ d := by
  have hp : (0 : ℚ) < 10 ^ d := by positivity
  unfold roundFixed
  rw [abs_of_nonneg hx, if_neg (not_lt.mpr hx)]
  split_ifs
  · exact ⟨hk, hm⟩
  rw [div_le_iff₀ hp] at hk
  rw [le_div_iff₀ hp] at hm
  have h1 : k ≤ ⌊x * 10 ^ d + 1 / 2⌋ := Int.le_floor.mpr (by linarith)
  have h2 : ⌊x * 10 ^ d + 1 / 2⌋ ≤ m := Int.floor_le_iff.mpr (by linarith)
  exact ⟨div_le_div_of_nonneg_right (by exact_mod_cast h1) hp.le,
    div_le_div_of_nonneg_right (by exact_mod_cast h2) hp.le⟩

/-- Rounding keeps a number of `[0, 1]` in `[0, 1]`. -/
theorem roundFixed_mem_unit (d : ℕ) {x : ℚ} (h0 : 0 ≤ x) (h1 : x ≤ 1) :
    0 ≤ roundFixed d x ∧ roundFixed d x ≤ 1 := by
  have hp : (0 : ℚ) < 10 ^ d := by positivity
  have := roundFixed_mem_Icc (k := 0) (m := 10 ^ d) h0 (by simpa using h0)
    (by rw [Int.cast_pow, Int.cast_ofNat, div_self hp.ne']; exact h1)
  rwa [Int.cast_zero, zero_div, Int.cast_pow, Int.cast_ofNat, div_self hp.ne'] at this

namespace JsNum

instance : Inhabited JsNum := ⟨fin 0⟩

/-- `Number::lessThan`; `none` is the spec's `undefined`, returned when an operand is
`NaN`. -/
def lessThan : JsNum → JsNum → Option Bool
  | nan, _ => none
  | _, nan => none
  | fin a, fin b => some (decide (a < b))
  | fin _, posInf => some true
  | fin _, negInf => some false
  | posInf, _ => some false
  | negInf, negInf => some false
  | negInf, _ => some true

/-- `x < c` is `true`: a comparison with `NaN` is `false`. -/
def Below (x : JsNum) (c : ℚ) : Prop :=
  match x with
  | fin q => q < c
  | negInf => True
  | _ => False

/-- `x > c` is `true`. -/
def Above (x : JsNum) (c : ℚ) : Prop :=
  match x with
  | fin q => c < q
  | posInf => True
  | _ => False

/-- `x <= c` is `true`: `c < x` is `false`, which it is not on `NaN`. -/
def AtMost (x : JsNum) (c : ℚ) : Prop :=
  match x with
  | fin q => q ≤ c
  | negInf => True
  | _ => False

instance (x : JsNum) (c : ℚ) : Decidable (x.Below c) :=
  match x with
  | fin q => inferInstanceAs (Decidable (q < c))
  | negInf => isTrue trivial
  | posInf | nan => isFalse id

instance (x : JsNum) (c : ℚ) : Decidable (x.Above c) :=
  match x with
  | fin q => inferInstanceAs (Decidable (c < q))
  | posInf => isTrue trivial
  | negInf | nan => isFalse id

instance (x : JsNum) (c : ℚ) : Decidable (x.AtMost c) :=
  match x with
  | fin q => inferInstanceAs (Decidable (q ≤ c))
  | negInf => isTrue trivial
  | posInf | nan => isFalse id

/-- On a finite number `x < c` is the order of the rationals. -/
@[simp] theorem below_fin (q c : ℚ) : (fin q).Below c ↔ q < c := .rfl
@[simp] theorem above_fin (q c : ℚ) : (fin q).Above c ↔ c < q := .rfl
@[simp] theorem atMost_fin (q c : ℚ) : (fin q).AtMost c ↔ q ≤ c := .rfl

/-- `lessThan` against a constant on the right is `Below`. -/
@[simp] theorem lessThan_fin_eq_true (x : JsNum) (c : ℚ) :
    (x.lessThan (fin c) == some true) = decide (x.Below c) := by
  cases x <;> simp [lessThan, Below]

/-- `lessThan` against a constant on the left is `Above`. -/
@[simp] theorem fin_lessThan_eq_true (c : ℚ) (x : JsNum) :
    ((fin c).lessThan x == some true) = decide (x.Above c) := by
  cases x <;> simp [lessThan, Above]

/-- `c < x` being `false`, not `undefined`, is `AtMost`. -/
@[simp] theorem fin_lessThan_eq_false (c : ℚ) (x : JsNum) :
    ((fin c).lessThan x == some false) = decide (x.AtMost c) := by
  cases x <;> simp [lessThan, AtMost, ← decide_not]

/-- `Number::subtract`. -/
def sub : JsNum → JsNum → JsNum
  | fin a, fin b => fin (a - b)
  | posInf, fin _ => posInf
  | posInf, negInf => posInf
  | negInf, fin _ => negInf
  | negInf, posInf => negInf
  | fin _, posInf => negInf
  | fin _, negInf => posInf
  | _, _ => nan

/-- `Number::add`. -/
def add : JsNum → JsNum → JsNum
  | fin a, fin b => fin (a + b)
  | posInf, fin _ => posInf
  | posInf, posInf => posInf
  | negInf, fin _ => negInf
  | negInf, negInf => negInf
  | fin _, posInf => posInf
  | fin _, negInf => negInf
  | _, _ => nan

/-- The sign of a non-zero number, as `1` or `-1`, and `0` for the rest. -/
private def signum : JsNum → ℤ
  | fin q => if 0 < q then 1 else if q < 0 then -1 else 0
  | posInf => 1
  | negInf => -1
  | nan => 0

/-- The infinity of a given sign. -/
private def infOfSign (s : ℤ) : JsNum := if 0 < s then posInf else negInf

/-- `Number::multiply`. -/
def mul : JsNum → JsNum → JsNum
  | fin a, fin b => fin (a * b)
  | nan, _ => nan
  | _, nan => nan
  | x, y => if signum x * signum y = 0 then nan else infOfSign (signum x * signum y)

/-- `Number::divide`. A finite number over zero is an infinity of its sign (`+0` is the
only zero of the model), `0 / 0` and `∞ / ∞` are `NaN`. -/
def div : JsNum → JsNum → JsNum
  | fin a, fin b => if b ≠ 0 then fin (a / b) else if a = 0 then nan else infOfSign (signum (fin a))
  | fin _, posInf => fin 0
  | fin _, negInf => fin 0
  | posInf, fin b => infOfSign (signum (fin b))
  | negInf, fin b => infOfSign (-signum (fin b))
  | _, _ => nan

theorem div_fin_of_ne {a b : ℚ} (h : b ≠ 0) : div (fin a) (fin b) = fin (a / b) := if_pos h

/-- `Math.floor(Math.log2(x))`. -/
def floorLog2 : JsNum → JsNum
  | fin q => if 0 < q then fin (floorLog 2 q) else if q = 0 then negInf else nan
  | posInf => posInf
  | _ => nan

/-- `Math.min(x, y)`: `NaN` if either is. -/
def mathMin (x y : JsNum) : JsNum :=
  match x.lessThan y with
  | none => nan
  | some true => x
  | some false => y

/-- `Math.max(x, y)`: `NaN` if either is. -/
def mathMax (x y : JsNum) : JsNum :=
  match x.lessThan y with
  | none => nan
  | some true => y
  | some false => x

/-- `Math.min` of two finite numbers is their minimum. -/
@[simp] theorem mathMin_fin (a b : ℚ) : mathMin (fin a) (fin b) = fin (min a b) := by
  by_cases h : a < b <;> simp [mathMin, lessThan, h, min_def, le_of_lt, not_lt.mp]

/-- `Math.max` of two finite numbers is their maximum. -/
@[simp] theorem mathMax_fin (a b : ℚ) : mathMax (fin a) (fin b) = fin (max a b) := by
  by_cases h : a < b <;> simp [mathMax, lessThan, h, max_def, le_of_lt, not_lt.mp]

/-! ## `StringToNumber` -/

/-- `StrWhiteSpaceChar`: white space and line terminators. -/
def isStrWhiteSpace (c : Char) : Bool :=
  c = '\t' || c = '\x0B' || c = '\x0C' || c = ' ' || c = '\xA0' || c = '\uFEFF' ||
  c = '\n' || c = '\r' || c = '\u2028' || c = '\u2029' || c = '\u1680' ||
  ('\u2000' ≤ c && c ≤ '\u200A') || c = '\u202F' || c = '\u205F' || c = '\u3000'

/-- The value of a digit string in base `b`, or `none` if a character is not a digit. -/
def digitsValue (b : ℕ) (cs : List Char) : Option ℕ :=
  cs.foldlM (fun acc c =>
    let v := if c.isDigit then c.toNat - '0'.toNat
      else if 'a' ≤ c ∧ c ≤ 'f' then c.toNat - 'a'.toNat + 10
      else if 'A' ≤ c ∧ c ≤ 'F' then c.toNat - 'A'.toNat + 10
      else b
    if v < b then some (acc * b + v) else none) 0

/-- The optional exponent part `e[+-]digits` of a decimal literal. -/
private def exponentPart : List Char → Option ℤ
  | [] => some 0
  | c :: t =>
    if c = 'e' ∨ c = 'E' then
      match t with
      | '+' :: ds => if ds = [] then none else (digitsValue 10 ds).map Int.ofNat
      | '-' :: ds => if ds = [] then none else (digitsValue 10 ds).map fun v => -(v : ℤ)
      | ds => if ds = [] then none else (digitsValue 10 ds).map Int.ofNat
    else none

/-- `StrUnsignedDecimalLiteral`: `Infinity`, or digits with an optional fraction and
exponent, at least one digit in all. -/
private def unsignedDecimal (cs : List Char) : Option JsNum :=
  if cs = "Infinity".toList then some posInf
  else
    let (ip, r) := cs.span Char.isDigit
    let (fp, r) := match r with
      | '.' :: t => t.span Char.isDigit
      | _ => ([], r)
    if ip = [] ∧ fp = [] then none
    else do
      let e ← exponentPart r
      let m ← digitsValue 10 (ip ++ fp)
      some (fin ((m : ℚ) * (10 : ℚ) ^ (e - fp.length)))

/-- `StringToNumber`: surrounding white space is ignored, the empty string is `0`, a
non-decimal integer (`0x`, `0o`, `0b`) takes no sign, and anything else is `NaN`. -/
def ofString (s : String) : JsNum :=
  let cs := (s.toList.dropWhile isStrWhiteSpace).reverse.dropWhile isStrWhiteSpace |>.reverse
  let nonDecimal (b : ℕ) (ds : List Char) : JsNum :=
    if ds = [] then nan else ((digitsValue b ds).map fun v => fin v).getD nan
  match cs with
  | [] => fin 0
  | '0' :: x :: ds =>
    if x = 'x' ∨ x = 'X' then nonDecimal 16 ds
    else if x = 'o' ∨ x = 'O' then nonDecimal 8 ds
    else if x = 'b' ∨ x = 'B' then nonDecimal 2 ds
    else (unsignedDecimal cs).getD nan
  | '+' :: t => (unsignedDecimal t).getD nan
  | '-' :: t => ((unsignedDecimal t).map fun v => sub (fin 0) v).getD nan
  | _ => (unsignedDecimal cs).getD nan

end JsNum

end SovereignLoop
