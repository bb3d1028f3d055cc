import SovereignLoop.Loop.Veri3fy

/-!
# What the gate decides

On a payload of the declared shape (`VerifyPayload`, all fields present with their
declared types, a number being any number of the language), each stage of `VERI3FY`
computes exactly one predicate of the payload, written with the language's comparisons
(`JsNum.Below`, `JsNum.Above`, `JsNum.AtMost`, all `false` on `NaN`),
and at a threshold the full score meets (`ThresholdOk`) the weighted score never vetoes:
a strict gate passes iff every executed stage's predicate holds (`runStages_passed_iff`).
The score is computed in binary64, and with two stages it is `0.6499999999999999`, below
`1 * 0.65`: there a threshold of `1` vetoes every payload (`runStages_two_stages_fails`).

On a payload of any other shape the checks are the language's comparisons, and a
missing ratio or confidence field is not caught: `x < 0 || x > 1` is `false` on
`undefined`. `verify_passes_without_ratios` is that case.
-/

namespace SovereignLoop

namespace VerifyPayload

variable (p : VerifyPayload)

/-- The record of a payload holds each field under its own key. -/
@[simp] theorem get_iteration : p.toRecord.get "iteration" = .num p.iteration := rfl
@[simp] theorem get_scale : p.toRecord.get "scale" = .num p.scale := rfl
@[simp] theorem get_learnerVersion : p.toRecord.get "learnerVersion" = .str p.learnerVersion := rfl
@[simp] theorem get_successRate : p.toRecord.get "successRate" = .num p.successRate := rfl
@[simp] theorem get_avgConfidence : p.toRecord.get "avgConfidence" = .num p.avgConfidence := rfl
@[simp] theorem get_avgROI : p.toRecord.get "avgROI" = .num p.avgROI := rfl
@[simp] theorem get_timestamp : p.toRecord.get "timestamp" = .num p.timestamp := rfl
@[simp] theorem get_ark95xNode : p.toRecord.get "ark95xNode" = .str p.ark95xNode := rfl

end VerifyPayload

namespace VERI3FY

/-! ## Checks -/

/-- A check whose condition is false leaves the result as it was. -/
@[simp] theorem check_false (m : String) (r : List String × Bool) : check false m r = r := rfl

/-- A check whose condition holds makes the verdict `false`. -/
@[simp] theorem check_snd (b : Bool) (m : String) (r : List String × Bool) :
    (check b m r).2 = (r.2 && !b) := by
  cases b <;> simp [check]

/-- A warning never changes the verdict. -/
@[simp] theorem warn_snd (b : Bool) (m : String) (r : List String × Bool) :
    (warn b m r).2 = r.2 := by
  cases b <;> rfl

/-- A check on operands that return is the plain check. -/
@[simp] theorem checkE_ok (b : Bool) (m : String) (r : List String × Bool) :
    checkE (.ok b) (.ok m) r = .ok (check b m r) := by
  cases b <;> rfl

/-- A warning on operands that return is the plain warning. -/
@[simp] theorem warnE_ok (b : Bool) (m : String) (r : List String × Bool) :
    warnE (.ok b) (.ok m) r = .ok (warn b m r) := by
  cases b <;> rfl

/-- The typed checks' `x < c` is `Below`. -/
@[simp] theorem lt_eq (x : JsNum) (c : ℚ) : JsNum.lt x c = decide (x.Below c) :=
  JsNum.lessThan_fin_eq_true x c

/-- The typed checks' `x <= c` is `AtMost`. -/
@[simp] theorem le_eq (x : JsNum) (c : ℚ) : JsNum.le x c = decide (x.AtMost c) :=
  JsNum.fin_lessThan_eq_false c x

/-- A string with a digit, a dot and a digit in it is not empty, so `!payload.learnerVersion`
adds nothing to the pattern test. -/
theorem hasDigitDotDigit_ne_nil {s : String} (h : hasDigitDotDigit s.toList = true) : s ≠ "" := by
  rintro rfl
  simp [hasDigitDotDigit] at h

/-! ## The stage predicates -/

/-- Stage 1 on a payload of the declared shape: every field is present, so what is left is
the range of the numbers and the marker in the node name. A `NaN` passes each range
check, since every comparison with it is `false`. -/
def Stage1Ok (p : VerifyPayload) : Prop :=
  ¬ p.iteration.Below 0 ∧ ¬ p.scale.Below 1 ∧ strIncludes p.ark95xNode "ARK95X" = true ∧
    ¬ p.timestamp.AtMost 0

/-- The payload's age at `now`, `Date.now() - payload.timestamp`. -/
def age (now : ℚ) (p : VerifyPayload) : JsNum := ((JsNum.fin now).sub p.timestamp).toDouble

/-- Stage 2: neither ratio is below `0` or above `1`, the payload is not more than a minute
old at `now`, and the iteration is not negative. -/
def Stage2Ok (now : ℚ) (p : VerifyPayload) : Prop :=
  ¬ p.successRate.Below 0 ∧ ¬ p.successRate.Above 1 ∧ ¬ p.avgConfidence.Below 0 ∧
    ¬ p.avgConfidence.Above 1 ∧ ¬ (age now p).Above 60000 ∧ ¬ p.iteration.Below 0

/-- Stage 3: the node names an allow-listed subsystem, confidence is not below `0.70` after
iteration 5, the scale has not fallen below `1` after iteration 10, and the learner
version has the `<major>.<minor>` pattern. -/
def Stage3Ok (p : VerifyPayload) : Prop :=
  (∃ n ∈ ["SLVSS", "PAXRuntime", "SovereignExtraction", "AutomationAPI"],
    strIncludes p.ark95xNode n = true) ∧
  (p.iteration.Above 5 → ¬ p.avgConfidence.Below (f64 0.70)) ∧
  (p.iteration.Above 10 → ¬ p.scale.Below 1) ∧ hasDigitDotDigit p.learnerVersion.toList = true

instance (p : VerifyPayload) : Decidable (Stage1Ok p) := inferInstanceAs (Decidable (_ ∧ _ ∧ _ ∧ _))

instance (now : ℚ) (p : VerifyPayload) : Decidable (Stage2Ok now p) :=
  inferInstanceAs (Decidable (_ ∧ _ ∧ _ ∧ _ ∧ _ ∧ _))

instance (p : VerifyPayload) : Decidable (Stage3Ok p) := inferInstanceAs (Decidable (_ ∧ _ ∧ _ ∧ _))

/-- Stage 1 on a payload's record passes exactly when `Stage1Ok` holds. -/
theorem stage1Syntax_toRecord (p : VerifyPayload) (e : List String) :
    ∃ e', stage1Syntax p.toRecord e = (e', decide (Stage1Ok p)) := by
  refine ⟨_, Prod.ext rfl ?_⟩
  rw [Bool.eq_iff_iff]
  simp [stage1Syntax, required, notNumberOr, JsVal.isNullish, Stage1Ok, and_assoc]

/-- Stage 2 on a payload's record returns normally and passes exactly when `Stage2Ok`
holds at `now`. -/
theorem stage2Logic_toRecord (p : VerifyPayload) (now : ℚ) (e : List String) :
    ∃ e', stage2Logic p.toRecord now e = .ok (e', decide (Stage2Ok now p)) := by
  simp only [stage2Logic, rangeCheck, VerifyPayload.get_successRate,
    VerifyPayload.get_avgConfidence, VerifyPayload.get_avgROI, VerifyPayload.get_timestamp,
    VerifyPayload.get_iteration, JsVal.ltNum_num, JsVal.gtNum_num, jsOr_ok_ok, JsVal.toStr_num,
    Except.ok_bind, Except.pure_eq_ok, checkE_ok, warnE_ok, JsVal.sub_num, ageSeconds]
  refine ⟨_, congrArg _ (Prod.ext rfl ?_)⟩
  rw [Bool.eq_iff_iff]
  simp [Stage2Ok, age, JsVal.Numeric.lessThan, and_assoc]

/-- Stage 3 on a payload's record returns normally and passes exactly when `Stage3Ok` holds. -/
theorem stage3Sovereignty_toRecord (p : VerifyPayload) (e : List String) :
    ∃ e', stage3Sovereignty p.toRecord e = .ok (e', decide (Stage3Ok p)) := by
  have hnode : (validNodes.any fun n => strIncludes p.ark95xNode
      (String.mk (n.toList.takeWhile (· ≠ '-')))) =
      ["SLVSS", "PAXRuntime", "SovereignExtraction", "AutomationAPI"].any
        (strIncludes p.ark95xNode) := rfl
  simp only [stage3Sovereignty, VerifyPayload.get_ark95xNode, VerifyPayload.get_iteration,
    VerifyPayload.get_avgConfidence, VerifyPayload.get_scale, VerifyPayload.get_learnerVersion,
    JsVal.string_str, JsVal.toStr_str, JsVal.toStr_num, JsVal.ltNum_num, JsVal.gtNum_num,
    jsAnd_ok_ok, jsOr_ok_ok, Except.ok_bind, Except.pure_eq_ok, checkE_ok, hnode]
  refine ⟨_, congrArg _ (Prod.ext rfl ?_)⟩
  rw [Bool.eq_iff_iff]
  have hv := @hasDigitDotDigit_ne_nil p.learnerVersion
  simp only [check_snd, Stage3Ok, JsVal.truthy]
  by_cases hd : hasDigitDotDigit p.learnerVersion.toList = true <;>
    simp_all [not_lt, and_assoc, imp_iff_not_or]

/-! ## The gate -/

/-- `verify` returns normally on a payload of the declared shape, whatever the gate's
configuration. -/
theorem runStages_toRecord_ok (c : VERI3FYConfig) (now : ℚ) (p : VerifyPayload) :
    ∃ r, runStages c now p.toRecord = .ok r := by
  obtain ⟨e1, h1⟩ := stage1Syntax_toRecord p []
  obtain ⟨e2, h2⟩ := stage2Logic_toRecord p now e1
  obtain ⟨e3, h3⟩ := stage3Sovereignty_toRecord p e2
  simp only [runStages, h1, h2, h3, Except.ok_bind, Except.pure_eq_ok]
  by_cases hs2 : c.stages < 2 <;> by_cases hs3 : c.stages < 3 <;>
    simp only [hs2, hs3, ↓reduceIte] <;> exact ⟨_, rfl⟩

/-! ## The score in binary64

The doubles of the weights and of the sums the gate forms. `0.35 + 0.30` lies halfway
between two doubles and rounds to the even one, `0.6499999999999999`, the double below
that of `0.65`; the three weights add up to the double below `1`, which `toFixed(4)`
prints as `1.0000`. -/

/-- The double of `0.35`. -/
theorem f64_weight35 : f64 0.35 = 3152519739159347 / 2 ^ 53 := by
  rw [f64_eq_of_near (e := -2) (m := 6305039478318694) (by norm_num) (by norm_num) (by norm_num)
    (by norm_num [abs_lt])]
  norm_num

/-- The double of `0.30`. -/
theorem f64_weight30 : f64 0.30 = 5404319552844595 / 2 ^ 54 := by
  rw [f64_eq_of_near (e := -2) (m := 5404319552844595) (by norm_num) (by norm_num) (by norm_num)
    (by norm_num [abs_lt])]
  norm_num

/-- The double of `0.65`. -/
theorem f64_weight65 : f64 0.65 = 5854679515581645 / 2 ^ 53 := by
  rw [f64_eq_of_near (e := -1) (m := 5854679515581645) (by norm_num) (by norm_num) (by norm_num)
    (by norm_num [abs_lt])]
  norm_num

/-- Two stages: `0.35 + 0.30` is a tie, rounded to the even double below `0.65`. -/
theorem f64_score2 : f64 (f64 0.35 + f64 0.30) = 5854679515581644 / 2 ^ 53 := by
  rw [f64_weight35, f64_weight30, f64_eq_of_tie (e := -1) (m := 5854679515581644) (by norm_num)
    (by norm_num) (by norm_num) (by norm_num) (by norm_num)]
  norm_num

/-- Three stages: the score is `1`. -/
theorem f64_score3 : parseFixed 4 (f64 (f64 (f64 0.35 + f64 0.30) + f64 0.35)) = 1 := by
  have h : f64 (5854679515581644 / 2 ^ 53 + 3152519739159347 / 2 ^ 53) = 1 - 1 / 2 ^ 53 := by
    rw [f64_eq_of_near (e := -1) (m := 9007199254740991) (by norm_num) (by norm_num)
      (by norm_num) (by norm_num [abs_lt])]
    norm_num
  rw [parseFixed, f64_score2, f64_weight35, h]
  norm_num [roundFixed, abs_of_nonneg]

/-- The score of a verification in which every stage the gate runs passes. -/
def passScore (stages : ℚ) : ℚ :=
  if stages < 2 then f64 0.35 else if stages < 3 then f64 (f64 0.35 + f64 0.30) else 1

/-- The thresholds at which the full score of a gate of `stages` stages passes: at most
`1`, and with two stages at most `1 - 2^-53`, the double below `1`. -/
def ThresholdOk (stages threshold : ℚ) : Prop :=
  threshold ≤ 1 ∧ (2 ≤ stages → stages < 3 → threshold ≤ 1 - 1 / 2 ^ 53)

section Thresholds

variable {t : ℚ}

/-- One stage: a threshold of at most `1` never vetoes. -/
theorem threshold_le_score1 (ht : t ≤ 1) : f64 (f64 t * f64 0.35) ≤ f64 0.35 := by
  have hw : f64 (3152519739159347 / 2 ^ 53) = 3152519739159347 / 2 ^ 53 := by
    rw [f64_eq_of_near (e := -2) (m := 6305039478318694) (by norm_num) (by norm_num)
      (by norm_num) (by norm_num)]
    norm_num
  rw [f64_weight35]
  calc f64 (f64 t * (3152519739159347 / 2 ^ 53)) ≤ f64 (3152519739159347 / 2 ^ 53) :=
        f64_mono (mul_le_of_le_one_left (by norm_num) (f64_le_one ht))
    _ = 3152519739159347 / 2 ^ 53 := hw

/-- Two stages: a threshold of at most the double below `1` never vetoes. -/
theorem threshold_le_score2 (ht : t ≤ 1 - 1 / 2 ^ 53) :
    f64 (f64 t * f64 0.65) ≤ f64 (f64 0.35 + f64 0.30) := by
  have hp : f64 (1 - 1 / 2 ^ 53) = 1 - 1 / 2 ^ 53 := by
    rw [f64_eq_of_near (e := -1) (m := 2 ^ 53 - 1) (by norm_num) (by norm_num) (by norm_num)
      (by norm_num)]
    norm_num
  have hle : f64 t * f64 0.65 ≤ f64 0.35 + f64 0.30 := by
    rw [f64_weight65, f64_weight35, f64_weight30]
    calc f64 t * (5854679515581645 / 2 ^ 53) ≤ (1 - 1 / 2 ^ 53) * (5854679515581645 / 2 ^ 53) :=
          mul_le_mul_of_nonneg_right ((f64_mono ht).trans_eq hp) (by norm_num)
      _ ≤ 3152519739159347 / 2 ^ 53 + 5404319552844595 / 2 ^ 54 := by norm_num
  exact f64_mono hle

/-- Two stages: a threshold of at least `1` vetoes every payload, whichever stages pass:
the score is at most `0.6499999999999999`, below the double of `0.65`. -/
theorem score2_lt_threshold (ht : 1 ≤ t) (s1 s2 : Bool) :
    f64 ((if s1 then f64 0.35 else 0) + (if s2 then f64 0.30 else 0)) <
      f64 (f64 t * f64 0.65) := by
  have hw : f64 (5854679515581645 / 2 ^ 53) = 5854679515581645 / 2 ^ 53 := by
    rw [f64_eq_of_near (e := -1) (m := 5854679515581645) (by norm_num) (by norm_num)
      (by norm_num) (by norm_num)]
    norm_num
  have hsum : (if s1 then f64 0.35 else 0) + (if s2 then f64 0.30 else 0) ≤
      f64 0.35 + f64 0.30 := by
    rw [f64_weight35, f64_weight30]
    cases s1 <;> cases s2 <;> norm_num
  calc f64 ((if s1 then f64 0.35 else 0) + (if s2 then f64 0.30 else 0))
      ≤ f64 (f64 0.35 + f64 0.30) := f64_mono hsum
    _ < f64 (5854679515581645 / 2 ^ 53) := by rw [f64_score2, hw]; norm_num
    _ ≤ f64 (f64 t * f64 0.65) := f64_mono (by
        rw [f64_weight65]
        exact le_mul_of_one_le_left (by norm_num) (f64_one.symm.le.trans (f64_mono ht)))

/-- Three stages: a threshold of at most `1` never vetoes. -/
theorem threshold_le_score3 (ht : t ≤ 1) :
    f64 t ≤ parseFixed 4 (f64 (f64 (f64 0.35 + f64 0.30) + f64 0.35)) := by
  rw [f64_score3]
  exact f64_le_one ht

end Thresholds

/-- At a threshold it can meet, a strict gate returns normally on a payload of the
declared shape, and passes it iff the predicate of every stage it runs holds: the score
never vetoes. -/
theorem runStages_passed_iff (c : VERI3FYConfig) (hc : ThresholdOk c.stages c.threshold)
    (hs : c.strictMode = true) (now : ℚ) (p : VerifyPayload) :
    ∃ r, runStages c now p.toRecord = .ok r ∧
      (r.passed = true ↔
        Stage1Ok p ∧ (2 ≤ c.stages → Stage2Ok now p) ∧ (3 ≤ c.stages → Stage3Ok p)) := by
  obtain ⟨e1, h1⟩ := stage1Syntax_toRecord p []
  obtain ⟨e2, h2⟩ := stage2Logic_toRecord p now e1
  obtain ⟨e3, h3⟩ := stage3Sovereignty_toRecord p e2
  have k1 := threshold_le_score1 hc.1
  have k3 := threshold_le_score3 hc.1
  simp only [runStages, h1, h2, h3, Except.ok_bind, Except.pure_eq_ok]
  by_cases hs2 : c.stages < 2
  · refine ⟨_, by rw [if_pos hs2], ?_⟩
    have hs3 : ¬ 3 ≤ c.stages := by linarith
    by_cases h1 : Stage1Ok p <;> simp [h1, k1, hs2.not_le, hs3]
  by_cases hs3 : c.stages < 3
  · refine ⟨_, by rw [if_neg hs2, if_pos hs3], ?_⟩
    have k2 := threshold_le_score2 (hc.2 (not_lt.mp hs2) hs3)
    by_cases h1 : Stage1Ok p <;> by_cases h2 : Stage2Ok now p <;>
      simp [h1, h2, k2, hs3.not_le, not_lt.mp hs2]
  · refine ⟨_, by rw [if_neg hs2, if_neg hs3], ?_⟩
    by_cases h1 : Stage1Ok p <;> by_cases h2 : Stage2Ok now p <;> by_cases h3 : Stage3Ok p <;>
      simp [h1, h2, h3, k3, hs, not_lt.mp hs2, not_lt.mp hs3]

/-- On a payload whose executed stages all hold, a strict gate at a threshold it can meet
passes with every executed stage's flag set and the full score of its depth. -/
theorem runStages_all_pass (c : VERI3FYConfig) (hc : ThresholdOk c.stages c.threshold)
    (hs : c.strictMode = true) {now : ℚ} {p : VerifyPayload} (h1 : Stage1Ok p)
    (h2 : 2 ≤ c.stages → Stage2Ok now p) (h3 : 3 ≤ c.stages → Stage3Ok p) :
    ∃ r, runStages c now p.toRecord = .ok r ∧ r.passed = true ∧ r.score = passScore c.stages ∧
      r.stage1Syntax = true ∧ (2 ≤ c.stages → r.stage2Logic = true) ∧
      (3 ≤ c.stages → r.stage3Sovereignty = true) := by
  obtain ⟨e1, he1⟩ := stage1Syntax_toRecord p []
  obtain ⟨e2, he2⟩ := stage2Logic_toRecord p now e1
  obtain ⟨e3, he3⟩ := stage3Sovereignty_toRecord p e2
  simp only [runStages, he1, he2, he3, Except.ok_bind, Except.pure_eq_ok, passScore]
  by_cases hs2 : c.stages < 2
  · refine ⟨_, by rw [if_pos hs2], ?_⟩
    simp [h1, hs2, hs2.trans (by norm_num : (2 : ℚ) < 3), threshold_le_score1 hc.1]
  have h2 := h2 (not_lt.mp hs2)
  by_cases hs3 : c.stages < 3
  · refine ⟨_, by rw [if_neg hs2, if_pos hs3], ?_⟩
    simp [h1, h2, hs2, hs3, threshold_le_score2 (hc.2 (not_lt.mp hs2) hs3)]
  · refine ⟨_, by rw [if_neg hs2, if_neg hs3], ?_⟩
    simp [h1, h2, h3 (not_lt.mp hs3), hs, hs2, hs3, f64_score3, f64_le_one hc.1]

/-- With two stages and a threshold of at least `1` the gate fails every payload it
returns on, whatever its shape. -/
theorem runStages_two_stages_fails (c : VERI3FYConfig) (h2 : 2 ≤ c.stages) (h3 : c.stages < 3)
    (ht : 1 ≤ c.threshold) {now : ℚ} {p : JsRecord} {r : VERI3FYResult}
    (h : runStages c now p = .ok r) : r.passed = false := by
  unfold runStages at h
  rcases h1 : stage1Syntax p [] with ⟨e1, s1⟩
  rw [h1] at h
  simp only [if_neg (not_lt.mpr h2), if_pos h3] at h
  rcases h2' : stage2Logic p now e1 with err | ⟨e2, s2⟩ <;> rw [h2'] at h
  · cases h
  · simp only [Except.ok_bind, Except.pure_eq_ok, Except.ok.injEq] at h
    subst h
    simp [not_le.mpr (score2_lt_threshold ht s1 s2)]

/-- `verify` on a payload of the declared shape, for a strict gate at a threshold it can
meet: it returns normally, and its verdict is the conjunction of the predicates of the
stages its depth runs. -/
theorem verify_passed_iff (v : VERI3FY) (hc : ThresholdOk v.config.stages v.config.threshold)
    (hs : v.config.strictMode = true) (now : ℚ) (p : VerifyPayload) :
    ∃ r, (v.verify now p.toRecord).1 = .ok r ∧
      (r.passed = true ↔ Stage1Ok p ∧ (2 ≤ v.config.stages → Stage2Ok now p) ∧
        (3 ≤ v.config.stages → Stage3Ok p)) :=
  runStages_passed_iff v.config hc hs now p

/-- The loop's gate on the loop's first payload. -/
theorem loop_gate_passed_iff :
    let v := VERI3FY.create 3 0.85
    let p : VerifyPayload :=
      ⟨.fin 1, .fin 1, "1.0", .fin 0, .fin 0, .fin 0, .fin 1000, "SLVSS-ARK95X-v2"⟩
    (ThresholdOk v.config.stages v.config.threshold ∧ v.config.strictMode = true) ∧
    ∃ r, (v.verify 1000 p.toRecord).1 = .ok r ∧
      (r.passed = true ↔ Stage1Ok p ∧ (2 ≤ v.config.stages → Stage2Ok 1000 p) ∧
        (3 ≤ v.config.stages → Stage3Ok p)) :=
  have hc : ThresholdOk (VERI3FY.create 3 0.85).config.stages
      (VERI3FY.create 3 0.85).config.threshold := by norm_num [ThresholdOk, create]
  ⟨⟨hc, rfl⟩, verify_passed_iff _ hc rfl _ _⟩

/-- The loop's payload at iteration 6 with `successRate` and `avgConfidence` left out. -/
def payloadWithoutRatios : JsRecord where
  props := [("iteration", .num (.fin 6)), ("scale", .num (.fin 1)),
    ("learnerVersion", .str "1.0"), ("avgROI", .num (.fin 0)), ("timestamp", .num (.fin 1000)),
    ("ark95xNode", .str "SLVSS-ARK95X-v2")]
  nodup := by decide

/-- The loop's own gate passes a payload with neither ratio: `undefined < 0` and
`undefined > 1` are both `false`, and so is `undefined < 0.70` after iteration 5. -/
theorem verify_passes_without_ratios :
    payloadWithoutRatios.get "successRate" = .undefined ∧
      payloadWithoutRatios.get "avgConfidence" = .undefined ∧
      ((VERI3FY.create 3 0.85).verify 1000 payloadWithoutRatios).1.toOption.map (·.passed) =
        some true := by
  have h1 : stage1Syntax payloadWithoutRatios [] = ([], true) := by with_unfolding_all decide
  have hage : JsVal.sub (.num (.fin 1000)) (payloadWithoutRatios.get "timestamp") =
      .ok (.num (.fin 0)) := by
    rw [show payloadWithoutRatios.get "timestamp" = .num (.fin 1000) from rfl, JsVal.sub_num]
    simp only [JsNum.sub, sub_self, JsNum.toDouble_fin (abs_zero.trans_le (by norm_num)),
      f64_zero]
  have h2 : stage2Logic payloadWithoutRatios 1000 [] = .ok ([], true) := by
    rw [stage2Logic, hage]
    with_unfolding_all rfl
  have h3 : stage3Sovereignty payloadWithoutRatios [] = .ok ([], true) := by
    with_unfolding_all rfl
  refine ⟨rfl, rfl, ?_⟩
  simp only [verify, runStages, create, h1, h2, h3, if_true, Except.ok_bind, Except.pure_eq_ok,
    f64_score3]
  norm_num [f64_le_one]
  exact ⟨_, rfl, rfl⟩

end VERI3FY

end SovereignLoop
