import SovereignLoop.Loop.ScalingEngine
import Mathlib.Tactic.Linarith
import Mathlib.Tactic.Positivity

/-!
# The scale stays in `[1, maxScale]`

Every rule of `scale` computes a candidate between `1` and `maxScale`, a binary64 product
clamped by `Math.min` or `Math.max`, and reads it back through `toFixed(4)`. Both roundings
are monotone and leave `1` and a double `maxScale` with at most four decimals where they
are (`roundFixed_mem_Icc`, `f64_mono`), so the new scale stays between the two bounds.
The log keeps at most 50 events. `Reachable` is every engine a sequence of `scale` and
`reset` calls can produce, and `reachable_inv` carries the invariant along all of them.
-/

namespace SovereignLoop

namespace ScalingEngine

/-! ## One call -/

theorem updateStreaks_frame (e : ScalingEngine) (h : List LoopIteration) :
    (e.updateStreaks h).currentScale = e.currentScale ∧ (e.updateStreaks h).policy = e.policy ∧
      (e.updateStreaks h).scaleHistory = e.scaleHistory := by
  unfold updateStreaks; split <;> simp

/-- The three rules: each sets the scale to a rounded candidate and touches neither the
policy nor the log. -/
theorem scaleRule_spec {e e' : ScalingEngine} {i : ScaleInput} {r : String}
    (h : e.scaleRule i = some (r, e')) :
    e'.policy = e.policy ∧ e'.scaleHistory = e.scaleHistory ∧
    (e'.currentScale =
        parseFixed 4 (min (f64 (e.currentScale * f64 e.policy.growthFactor)) e.policy.maxScale) ∨
      e'.currentScale = parseFixed 4 (max (f64 (e.currentScale * f64 e.policy.decayFactor)) 1) ∨
      e'.currentScale = parseFixed 4 (min (f64 (e.currentScale * 1.5)) e.policy.maxScale)) := by
  simp only [scaleRule] at h
  split_ifs at h <;> cases h <;> simp

/-- What one `scale` call can do: report the scale it started from and the one it leaves,
and either fire no rule and keep the recounted engine, or fire one and log it. -/
theorem scale_cases (e : ScalingEngine) (i : ScaleInput) :
    (e.scale i).1.previousScale = e.currentScale ∧
    (e.scale i).1.newScale = (e.scale i).2.currentScale ∧
    (((e.updateStreaks i.history).scaleRule i = none ∧ (e.scale i).1.scaled = false ∧
        (e.scale i).2 = e.updateStreaks i.history) ∨
      ∃ r e', (e.updateStreaks i.history).scaleRule i = some (r, e') ∧
        (e.scale i).1.scaled = true ∧
        (e.scale i).2 =
          { e' with scaleHistory := logEvent e'.scaleHistory ⟨i.iteration, e'.currentScale, r⟩ }) := by
  simp only [ScalingEngine.scale]
  cases h : (e.updateStreaks i.history).scaleRule i with
  | none => simp
  | some p => exact ⟨rfl, rfl, .inr ⟨p.1, p.2, rfl, rfl, rfl⟩⟩

theorem logEvent_length_le {log : List ScaleEvent} (h : log.length ≤ 50) (ev : ScaleEvent) :
    (logEvent log ev).length ≤ 50 := by
  simp only [logEvent]
  split <;> simp_all

/-! ## The invariant -/

/-- The engine's invariant for a policy `P`: the scale lies in `[1, maxScale]` and the log
holds at most 50 events. -/
structure Inv (P : ScalePolicy) (e : ScalingEngine) : Prop where
  policy : e.policy = P
  one_le : 1 ≤ e.currentScale
  le_max : e.currentScale ≤ P.maxScale
  log_le : e.scaleHistory.length ≤ 50

/-- The engines that `new ScalingEngine(P)` and any sequence of `scale` and `reset` calls
produce. -/
inductive Reachable (P : ScalePolicy) : ScalingEngine → Prop
  | create : Reachable P (create P)
  | scale {e : ScalingEngine} (i : ScaleInput) : Reachable P e → Reachable P (e.scale i).2
  | reset {e : ScalingEngine} : Reachable P e → Reachable P e.reset

section Bounds

variable {P : ScalePolicy} (hg : 1 ≤ P.growthFactor) (hd : P.decayFactor ≤ 1)
  (h1 : 1 ≤ P.maxScale) (hm : ∃ n : ℤ, P.maxScale = n / 10 ^ 4)

include hm in
/-- A candidate between `1` and `maxScale` is still there after `parseFloat(x.toFixed(4))`. -/
theorem parseFixed_scale_mem {x : ℚ} (hx1 : 1 ≤ x) (hxm : x ≤ P.maxScale) :
    1 ≤ parseFixed 4 x ∧ parseFixed 4 x ≤ P.maxScale := by
  obtain ⟨n, hn⟩ := hm
  have := roundFixed_mem_Icc (d := 4) (x := x) (k := 10 ^ 4) (m := n) (by linarith)
    (by norm_num [hx1]) (by rw [← hn]; exact hxm)
  rw [← hn] at this
  norm_num at this
  exact ⟨one_le_f64 this.1, P.maxScale_double ▸ f64_mono this.2⟩

/-- A product rounded to a double stays at most a double bound it is at most. -/
theorem f64_le_maxScale {x : ℚ} (h : x ≤ P.maxScale) : f64 x ≤ P.maxScale :=
  P.maxScale_double ▸ f64_mono h

include hg hd h1 hm in
theorem Inv.scale {e : ScalingEngine} (he : Inv P e) (i : ScaleInput) : Inv P (e.scale i).2 := by
  obtain ⟨hc, hu, hl⟩ := updateStreaks_frame e i.history
  obtain ⟨-, -, ⟨-, -, hs⟩ | ⟨r, e', h, -, hs⟩⟩ := scale_cases e i <;> rw [hs]
  · exact ⟨by rw [hu, he.policy], by rw [hc]; exact he.one_le, by rw [hc]; exact he.le_max,
      by rw [hl]; exact he.log_le⟩
  obtain ⟨hp, hlog, hnew⟩ := scaleRule_spec h
  rw [hc, hu, he.policy] at hnew
  have h0 := he.one_le
  have hM := he.le_max
  have hmem : 1 ≤ e'.currentScale ∧ e'.currentScale ≤ P.maxScale := by
    rcases hnew with hnew | hnew | hnew <;> rw [hnew] <;> apply parseFixed_scale_mem hm
    · exact le_min (one_le_f64 (one_le_mul_of_one_le_of_one_le h0 (one_le_f64 hg))) h1
    · exact min_le_right _ _
    · exact le_max_right _ _
    · exact max_le (f64_le_maxScale
        ((mul_le_of_le_one_right (by linarith) (f64_le_one hd)).trans hM)) h1
    · exact le_min (one_le_f64 (by linarith)) h1
    · exact min_le_right _ _
  exact ⟨by rw [hp, hu, he.policy], hmem.1, hmem.2,
    logEvent_length_le (by rw [hlog, hl]; exact he.log_le) _⟩

include h1 in
theorem Inv.reset {e : ScalingEngine} (he : Inv P e) : Inv P e.reset :=
  ⟨he.policy, le_rfl, h1, by simp [ScalingEngine.reset]⟩

end Bounds

/-- A status that extends a pass streak. -/
def passStatus : Status → Bool
  | .passed | .scaled => true
  | _ => false

/-- A status that extends a fail streak. -/
def failStatus : Status → Bool
  | .failed => true
  | _ => false

/-- The statuses of the last ten records, the window `updateStreaks` reads. -/
def windowStatuses (history : List LoopIteration) : List Status :=
  (history.drop (history.length - 10)).map (·.status)

/-- The length of the run of statuses satisfying `q` at the newest end of `window`. -/
def runLength (q : Status → Bool) (window : List Status) : ℕ := (window.reverse.takeWhile q).length

/-- The rules of the table. -/
inductive ScaleRule where
  | up
  | decay
  | boost
  deriving DecidableEq, Repr

/-- The scale a rule sets: the binary64 product, clamped, read back through `toFixed(4)`. -/
def ScaleRule.next (P : ScalePolicy) (scale : ℚ) : ScaleRule → ℚ
  | .up => parseFixed 4 (min (f64 (scale * f64 P.growthFactor)) P.maxScale)
  | .decay => parseFixed 4 (max (f64 (scale * f64 P.decayFactor)) 1)
  | .boost => parseFixed 4 (min (f64 (scale * 1.5)) P.maxScale)

/-- The rule table on pass and fail streaks `p` and `f`: the first rule that fires. -/
def ruleTable (P : ScalePolicy) (scale : ℚ) (p f : ℕ) (input : ScaleInput) : Option ScaleRule :=
  if P.minPassStreak ≤ p ∧ f64 0.85 ≤ input.score ∧ scale < P.maxScale then some .up
  else if P.decayOnFailure = true ∧ 3 ≤ f ∧ 1 < scale then some .decay
  else if 0 < input.iteration ∧ jsRem input.iteration 10 = 0 ∧ f64 0.95 ≤ input.score then
    some .boost
  else none

/-- A scan in a pass streak counts the passes ahead and stops at anything else. -/
theorem countStreaks_pass : ∀ (l : List Status) (k : ℕ),
    countStreaks l (k + 1) 0 = (k + 1 + (l.takeWhile passStatus).length, 0)
  | [], _ => rfl
  | s :: l, k => by
    cases s with
    | passed | scaled =>
      simp only [countStreaks, if_true, countStreaks_pass l (k + 1), List.takeWhile_cons,
        passStatus, List.length_cons, Prod.mk.injEq, and_true]
      omega
    | failed | running => simp [countStreaks, passStatus]

/-- A scan in a fail streak counts the failures ahead and stops at anything else. -/
theorem countStreaks_fail : ∀ (l : List Status) (k : ℕ),
    countStreaks l 0 (k + 1) = (0, k + 1 + (l.takeWhile failStatus).length)
  | [], _ => rfl
  | s :: l, k => by
    cases s with
    | failed =>
      simp only [countStreaks, if_true, countStreaks_fail l (k + 1), List.takeWhile_cons,
        failStatus, List.length_cons, Prod.mk.injEq, true_and]
      omega
    | passed | scaled | running => simp [countStreaks, failStatus]

/-- The streak loop computes the two newest-first runs. -/
theorem countStreaks_eq (l : List Status) :
    countStreaks l 0 0 = ((l.takeWhile passStatus).length, (l.takeWhile failStatus).length) := by
  cases l with
  | nil => rfl
  | cons s l =>
    cases s with
    | passed | scaled => simp [countStreaks, countStreaks_pass l 0, passStatus, failStatus]; omega
    | failed => simp [countStreaks, countStreaks_fail l 0, passStatus, failStatus]; omega
    | running => rfl

/-- On a history with a record, `updateStreaks` sets both streaks from the window alone. -/
theorem updateStreaks_of_ne_nil (e : ScalingEngine) {history : List LoopIteration}
    (h : history ≠ []) :
    e.updateStreaks history = { e with
      passStreak := runLength passStatus (windowStatuses history)
      failStreak := runLength failStatus (windowStatuses history) } := by
  rw [updateStreaks, if_neg (by simpa using h)]
  simp only [countStreaks_eq, runLength, windowStatuses]

/-- At most one of the two runs is not empty: the newest status decides which. -/
theorem runLength_pass_or_fail (w : List Status) :
    runLength passStatus w = 0 ∨ runLength failStatus w = 0 := by
  unfold runLength
  cases w.reverse with
  | nil => simp
  | cons s t => cases s <;> simp [passStatus, failStatus]

/-- On a history with a record, one call of `scale` takes exactly the action of the rule
table on the runs at the newest end of the window: it scales iff a rule fires, to the
scale that rule sets, and otherwise keeps the scale; the engine's earlier streaks play no
part. At most one of the two runs is not empty. -/
theorem scale_eq_ruleTable (e : ScalingEngine) (i : ScaleInput) (hh : i.history ≠ []) :
    (runLength passStatus (windowStatuses i.history) = 0 ∨
      runLength failStatus (windowStatuses i.history) = 0) ∧
    (e.scale i).1.previousScale = e.currentScale ∧
    (e.scale i).1.scaled = (ruleTable e.policy e.currentScale
      (runLength passStatus (windowStatuses i.history))
      (runLength failStatus (windowStatuses i.history)) i).isSome ∧
    (e.scale i).1.newScale = ((ruleTable e.policy e.currentScale
      (runLength passStatus (windowStatuses i.history))
      (runLength failStatus (windowStatuses i.history)) i).map
        (·.next e.policy e.currentScale)).getD e.currentScale := by
  refine ⟨runLength_pass_or_fail _, (scale_cases e i).1, ?_⟩
  simp only [ScalingEngine.scale, updateStreaks_of_ne_nil e hh, scaleRule, ruleTable]
  split_ifs <;> simp [ScaleRule.next]

/-- The loop's engine on three passed records at a perfect score. -/
theorem default_scale_eq_ruleTable :
    (let r : LoopIteration := ⟨1, 0, none, 0, ⟨true, true, true, true, 1, []⟩,
      ⟨false, 1, 1, ""⟩, ⟨false, [], ""⟩, ⟨false, 0, .fin 0, ""⟩, .passed, 1, 0⟩
    let i : ScaleInput := ⟨1, 3, [r, r, r]⟩
    let e := create ScalePolicy.default
    i.history ≠ [] ∧
    (runLength passStatus (windowStatuses i.history) = 0 ∨
      runLength failStatus (windowStatuses i.history) = 0) ∧
    (e.scale i).1.previousScale = e.currentScale ∧
    (e.scale i).1.scaled = (ruleTable e.policy e.currentScale
      (runLength passStatus (windowStatuses i.history))
      (runLength failStatus (windowStatuses i.history)) i).isSome ∧
    (e.scale i).1.newScale = ((ruleTable e.policy e.currentScale
      (runLength passStatus (windowStatuses i.history))
      (runLength failStatus (windowStatuses i.history)) i).map
        (·.next e.policy e.currentScale)).getD e.currentScale) :=
  ⟨List.cons_ne_nil _ _, scale_eq_ruleTable _ _ (List.cons_ne_nil _ _)⟩

/-- The double of the scale-up threshold `0.85` lies in `[3/4, 7/8]`. -/
theorem f64_scaleUp_threshold : 3 / 4 ≤ f64 0.85 ∧ f64 0.85 ≤ 7 / 8 := by
  have h₁ : f64 (3 / 4) = 3 / 4 := by
    have h := f64_double (m := 3 * 2 ^ 51) (e := -1) (by norm_num) (by norm_num) (by norm_num)
    norm_num at h ⊢
    exact h
  have h₂ : f64 (7 / 8) = 7 / 8 := by
    have h := f64_double (m := 7 * 2 ^ 50) (e := -1) (by norm_num) (by norm_num) (by norm_num)
    norm_num at h ⊢
    exact h
  exact ⟨h₁ ▸ f64_mono (by norm_num), h₂ ▸ f64_mono (by norm_num)⟩

/-- Three passed records at a score of `0.5` set a pass streak of `3` and fire no rule. -/
theorem scale_three_passes {r : LoopIteration} (hr : r.status = .passed) :
    ((create ScalePolicy.default).scale ⟨0.5, 1, [r, r, r]⟩).2 =
      { create ScalePolicy.default with passStreak := 3 } := by
  have hs : (create ScalePolicy.default).updateStreaks [r, r, r] =
      { create ScalePolicy.default with passStreak := 3 } := by
    rw [updateStreaks_of_ne_nil _ (List.cons_ne_nil _ _)]
    norm_num [create, runLength, windowStatuses, hr, passStatus, failStatus]
  have h₁ : ¬ (ScalePolicy.default.minPassStreak ≤ ((3 : ℕ) : ℚ) ∧ f64 0.85 ≤ (0.5 : ℚ) ∧
      (1 : ℚ) < ScalePolicy.default.maxScale) := fun h =>
    absurd (f64_scaleUp_threshold.1.trans h.2.1) (by norm_num)
  have h₂ : ¬ (ScalePolicy.default.decayOnFailure = true ∧ 3 ≤ 0 ∧ (1 : ℚ) < 1) := fun h =>
    absurd h.2.2 (lt_irrefl 1)
  have h₃ : ¬ ((0 : ℚ) < 1 ∧ jsRem 1 10 = 0 ∧ f64 0.95 ≤ (0.5 : ℚ)) := fun h =>
    absurd h.2.1 (by norm_num [jsRem])
  have hn : ({ create ScalePolicy.default with passStreak := 3 }).scaleRule
      ⟨0.5, 1, [r, r, r]⟩ = none := by
    simp only [scaleRule, create, if_neg h₁, if_neg h₂, if_neg h₃]
  rcases (scale_cases (create ScalePolicy.default) ⟨0.5, 1, [r, r, r]⟩).2.2 with
    ⟨-, -, h⟩ | ⟨_, _, h, -⟩
  · exact h.trans hs
  · rw [hs, hn] at h
    cases h

/-- With a pass streak of `3` and an empty history, a score of `0.9` scales up to `1.25`. -/
theorem scale_up_on_empty_history :
    (({ create ScalePolicy.default with passStreak := 3 } : ScalingEngine).scale
      ⟨0.9, 1, []⟩).1.scaled = true ∧
    (({ create ScalePolicy.default with passStreak := 3 } : ScalingEngine).scale
      ⟨0.9, 1, []⟩).1.newScale = 1.25 := by
  have h54 : f64 (5 / 4) = 5 / 4 := by
    have h := f64_double (m := 5 * 2 ^ 50) (e := 0) (by norm_num) (by norm_num) (by norm_num)
    norm_num at h ⊢
    exact h
  have hc : ScalePolicy.default.minPassStreak ≤ ((3 : ℕ) : ℚ) ∧ f64 0.85 ≤ (0.9 : ℚ) ∧
      (1 : ℚ) < ScalePolicy.default.maxScale :=
    ⟨by norm_num, f64_scaleUp_threshold.2.trans (by norm_num), by norm_num⟩
  have hnew : parseFixed 4 (min (f64 (1 * f64 ScalePolicy.default.growthFactor))
      ScalePolicy.default.maxScale) = 1.25 := by
    rw [ScalePolicy.default_growthFactor, ScalePolicy.default_maxScale, one_mul,
      show (1.25 : ℚ) = 5 / 4 by norm_num, h54, h54, min_eq_left (by norm_num), parseFixed,
      show roundFixed 4 (5 / 4) = 5 / 4 by norm_num [roundFixed, Int.floor_eq_iff], h54]
  simp only [ScalingEngine.scale, updateStreaks, scaleRule, create, List.length_nil, if_true,
    if_pos hc, hnew, and_self]

/-- A default engine that has seen three passed records at a score of `0.5` keeps a pass
streak of `3`; on an empty history it scales up at a score of `0.9`, where the rule table
on the runs of the empty window fires no rule. -/
theorem empty_history_keeps_streaks :
    (let r : LoopIteration := ⟨1, 0, none, 0, ⟨true, true, true, true, 1, []⟩,
      ⟨false, 1, 1, ""⟩, ⟨false, [], ""⟩, ⟨false, 0, .fin 0, ""⟩, .passed, 1, 0⟩
    let e := ((create ScalePolicy.default).scale ⟨0.5, 1, [r, r, r]⟩).2
    let i : ScaleInput := ⟨0.9, 1, []⟩
    Reachable ScalePolicy.default e ∧ e.passStreak = 3 ∧
      ruleTable e.policy e.currentScale (runLength passStatus (windowStatuses i.history))
        (runLength failStatus (windowStatuses i.history)) i = none ∧
      (e.scale i).1.scaled = true ∧ (e.scale i).1.newScale = 1.25) := by
  intro r e i
  have he : e = { create ScalePolicy.default with passStreak := 3 } := scale_three_passes rfl
  refine ⟨.scale _ .create, by rw [he], ?_, by rw [he]; exact scale_up_on_empty_history⟩
  rw [he]
  norm_num [ruleTable, create, runLength, windowStatuses, i, jsRem]

end ScalingEngine

end SovereignLoop
