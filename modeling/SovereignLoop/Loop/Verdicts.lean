import SovereignLoop.Loop.SequentialRuns
import SovereignLoop.Loop.LearningCoreTheorems
import SovereignLoop.Loop.ScalingEngineTheorems

/-!
# The gate's verdicts along sequential runs

The runner builds each payload from its own counters and engines, so what the gate decides
in one tick depends on what it decided in the ticks before. This file follows that loop:

* `EnginesOk` is what the engines keep over every sequential run: the gate the
  configuration built, a scale in `[1, 1024]` and a learner version of the form
  `major.minor` (`SeqRun.enginesOk`);
* `Verdicts Q` says every verification of a run satisfies `Q`, the pushed records' and the
  one of the tick in progress; `SeqRun.verdicts` carries it along a run from its one step
  that matters, the call of `verify`;
* when every verification so far passed with the full score, the next payload satisfies
  every stage predicate, so at a threshold the full score meets, every verification passes
  (`seqRun_all_verifications_pass`): no record fails, the failure branch of the tick and the
  scale decay never run. With two stages and a threshold of `1` it is the other way round:
  binary64 makes every verification fail (`seqRun_two_stages_fail`).
-/

namespace SovereignLoop

/-- The clock readings of a segment the gate accepts: a positive clock, and at most a
minute between the payload's timestamp and the staleness check. -/
def GoodClock (clk : Clock) : Prop := 0 < clk.now ∧ clk.verifyNow - clk.now ≤ 60000

namespace ScalingEngine

variable {e : ScalingEngine} {history : List LoopIteration}

/-- The loop's scale policy keeps the scale in `[1, 1024]`. -/
theorem Inv.scale_default (he : Inv ScalePolicy.default e) (i : ScaleInput) :
    Inv ScalePolicy.default (e.scale i).2 :=
  he.scale (by norm_num [ScalePolicy.default]) (by norm_num [ScalePolicy.default])
    (by norm_num [ScalePolicy.default]) ⟨10240000, by norm_num [ScalePolicy.default]⟩ i

end ScalingEngine

/-! ## The engines along a run -/

namespace World

variable (log2 : ℚ → ℚ) {config : LoopConfig} {w w' : World}

/-- A step of a tick keeps the configuration and moves each engine by at most one call of
its own; the scaling engine is always asked about the runner's own history. -/
theorem advance_engines (pc : TickPc) (iterStart : ℚ) (obj : LoopIteration) (clk : Clock) :
    (w.advance log2 pc iterStart obj clk).1.config = w.config ∧
    ((w.advance log2 pc iterStart obj clk).1.veri3fy = w.veri3fy ∨
      ∃ t p, (w.advance log2 pc iterStart obj clk).1.veri3fy = (w.veri3fy.verify t p).2) ∧
    ((w.advance log2 pc iterStart obj clk).1.scaling = w.scaling ∨
      ∃ score, (w.advance log2 pc iterStart obj clk).1.scaling =
        (w.scaling.scale ⟨score, w.iteration, w.history⟩).2) ∧
    ((w.advance log2 pc iterStart obj clk).1.learner = w.learner ∨
      ∃ now input, (w.advance log2 pc iterStart obj clk).1.learner =
        (w.learner.ingest now input).2) := by
  unfold advance
  split <;> dsimp only [finalize, catchFault, afterScaling, learnSuccess] <;> (repeat' split) <;>
    refine ⟨rfl, ?_, ?_, ?_⟩ <;>
    first | exact .inl rfl | exact .inr ⟨_, _, rfl⟩ | exact .inr ⟨_, rfl⟩

/-- The engines as a runner of `config` keeps them: the gate the configuration built, a
scale in `[1, 1024]`, and a learner version with the pattern stage 3 requires. -/
structure EnginesOk (config : LoopConfig) (w : World) : Prop where
  config_eq : w.config = config
  gate : w.veri3fy.config = ⟨config.veri3fyStages, config.confidenceThreshold, true⟩
  scaling : ScalingEngine.Inv ScalePolicy.default w.scaling
  version : hasDigitDotDigit w.learner.modelVersion.toList = true

theorem EnginesOk.create (config : LoopConfig) (now : ℚ) : EnginesOk config (create config now) :=
  ⟨rfl, rfl, ⟨rfl, le_rfl, by norm_num [World.create, ScalingEngine.create, ScalePolicy.default],
    Nat.zero_le _⟩, show hasDigitDotDigit "1.0".toList = true by decide⟩

theorem EnginesOk.congr (h : EnginesOk config w) (hc : w'.config = w.config)
    (hv : w'.veri3fy = w.veri3fy) (hs : w'.scaling = w.scaling) (hl : w'.learner = w.learner) :
    EnginesOk config w' :=
  ⟨hc.trans h.config_eq, hv ▸ h.gate, hs ▸ h.scaling, hl ▸ h.version⟩

/-- The first segment of `tick()` touches no engine. -/
theorem callTick_engines (now : ℚ) :
    (w.callTick now).1.config = w.config ∧ (w.callTick now).1.veri3fy = w.veri3fy ∧
      (w.callTick now).1.scaling = w.scaling ∧ (w.callTick now).1.learner = w.learner := by
  unfold World.callTick
  split_ifs <;> exact ⟨rfl, rfl, rfl, rfl⟩

/-- `advance_engines` for a step of a sequential tick, the max-iterations stop included. -/
theorem resume_engines (f : TickFrame) (clk : Clock) :
    (w.resume log2 f false clk).1.config = w.config ∧
    ((w.resume log2 f false clk).1.veri3fy = w.veri3fy ∨
      ∃ t p, (w.resume log2 f false clk).1.veri3fy = (w.veri3fy.verify t p).2) ∧
    ((w.resume log2 f false clk).1.scaling = w.scaling ∨
      ∃ score, (w.resume log2 f false clk).1.scaling =
        (w.scaling.scale ⟨score, w.iteration, w.history⟩).2) ∧
    ((w.resume log2 f false clk).1.learner = w.learner ∨
      ∃ now input, (w.resume log2 f false clk).1.learner = (w.learner.ingest now input).2) := by
  cases f with
  | reachedMax => exact ⟨rfl, .inl rfl, .inl rfl, .inl rfl⟩
  | body pc iterStart obj => rw [resume_body]; exact advance_engines log2 pc iterStart obj clk

theorem EnginesOk.callTick (h : EnginesOk config w) (now : ℚ) :
    EnginesOk config (w.callTick now).1 :=
  let ⟨hc, hv, hs, hl⟩ := callTick_engines now
  h.congr hc hv hs hl

theorem EnginesOk.resume (h : EnginesOk config w) (f : TickFrame) (clk : Clock) :
    EnginesOk config (w.resume log2 f false clk).1 := by
  obtain ⟨hc, hv, hs, hl⟩ := resume_engines (w := w) log2 f clk
  refine ⟨hc.trans h.config_eq, ?_, ?_, ?_⟩
  · rcases hv with hv | ⟨t, p, hv⟩ <;> rw [hv]
    exacts [h.gate, h.gate]
  · rcases hs with hs | ⟨score, hs⟩ <;> rw [hs]
    exacts [h.scaling, h.scaling.scale_default _]
  · rcases hl with hl | ⟨now, input, hl⟩ <;> rw [hl]
    exacts [h.version, LearningCore.hasDigitDotDigit_ingest h.version input]

end World

namespace Sys

variable (log2 : ℚ → ℚ) {config : LoopConfig} {good : Clock → Prop} {s : Sys}
  {recs : List LoopIteration}

/-- Every state of a sequential run keeps the engines as the configuration built them. -/
theorem SeqRun.enginesOk (h : SeqRun log2 config good s recs) : World.EnginesOk config s.world := by
  induction h with
  | create now => exact .create config now
  | @start w recs now _ ih =>
    unfold Sys.start
    split
    · exact ih
    · have ih' : World.EnginesOk config { w with running := true, startTime := now } :=
        ih.congr rfl rfl rfl rfl
      exact ih'.callTick now
  | stop _ ih => exact ih.congr rfl rfl rfl rfl
  | @fire w recs t now _ _ ih =>
    have ih' : World.EnginesOk config { w with timers := w.timers.erase t } :=
      ih.congr rfl rfl rfl rfl
    exact ih'.callTick now
  | @resume w f recs clk _ _ ih => exact ih.resume log2 f clk

end Sys

/-! ## Verdicts -/

section Verdicts

variable (Q : VERI3FYResult → Prop)

/-- A record whose verification satisfies `Q` and whose confidence is that result's
score. -/
def Judged (r : LoopIteration) : Prop := Q r.veri3fyResult ∧ r.confidence = r.veri3fyResult.score

/-- What a point of a tick holds of its verification: at the `await` of `verify`, every
result it settles with satisfies `Q`; after it, the record is judged by `Q`. -/
def VerdictAt (obj : LoopIteration) : TickPc → Prop
  | .awaitVerify r => ∀ v, r = .ok v → Q v
  | pc => pc.rank < 18 → Judged Q obj

/-- `VerdictAt` for a tick in progress. -/
def FrameVerdict : TickFrame → Prop
  | .reachedMax => True
  | .body pc _ obj => VerdictAt Q obj pc

/-- Every verification of a run satisfies `Q`: the pushed records' and the one of the tick
in progress. -/
def Verdicts (recs : List LoopIteration) (s : Sys) : Prop :=
  (∀ r ∈ recs, Judged Q r) ∧ ∀ f ∈ s.frames, FrameVerdict Q f

variable {Q}

theorem verdictAt_of_judged {obj : LoopIteration} {pc : TickPc} (hr : pc.rank < 18)
    (h : Judged Q obj) : VerdictAt Q obj pc := by
  cases pc <;> first | exact fun _ => h | exact absurd hr (lt_irrefl 18)

end Verdicts

namespace World

variable (log2 : ℚ → ℚ) {config : LoopConfig} {recs : List LoopIteration} {w : World}
  {Q : VERI3FYResult → Prop}

/-- Past the `await` of `verify`, the tick never touches the record's result and
confidence. -/
theorem advance_record {pc pc' : TickPc} {iterStart iterStart' : ℚ} {obj obj' : LoopIteration}
    {clk : Clock} (hpc : ∀ r, pc ≠ .awaitVerify r)
    (h : (w.advance log2 pc iterStart obj clk).2 = some (.body pc' iterStart' obj')) :
    obj'.veri3fyResult = obj.veri3fyResult ∧ obj'.confidence = obj.confidence := by
  unfold advance at h
  split at h <;>
    simp only [finalize, catchFault, afterScaling, learnSuccess, apply_ite Prod.snd] at h <;>
    (repeat' split at h) <;> first | exact absurd rfl (hpc _) | (cases h <;> exact ⟨rfl, rfl⟩)

/-- A call of `tick()` starts at a point before the verification. -/
theorem callTick_frameVerdict (now : ℚ) : ∀ f ∈ (w.callTick now).2.toList, FrameVerdict Q f := by
  unfold World.callTick
  split_ifs
  · intro _ h; cases h
  · intro _ h; rw [List.mem_singleton.mp h]; trivial
  · intro _ h; rw [List.mem_singleton.mp h]; exact fun h => absurd h (by decide)

/-- The step lemma: a step of a sequential tick keeps the verdict of its point, given that
the call of `verify` it may make returns a result satisfying `Q`. -/
theorem FrameVerdict.resume {f : TickFrame} (hi : TickInv config recs w f)
    (h : FrameVerdict Q f) (clk : Clock)
    (hQ : ∀ iterStart obj, f = .body .logVerify iterStart obj →
      ∀ v, (w.veri3fy.verify clk.verifyNow (w.buildPayload clk.now).toRecord).1 = .ok v → Q v) :
    ∀ f', (w.resume log2 f false clk).2 = some f' → FrameVerdict Q f' := by
  intro f' hf
  cases f with
  | reachedMax => simp [World.resume] at hf
  | body pc iterStart obj =>
    obtain _ | ⟨pc', iterStart', obj'⟩ := f'
    · trivial
    rw [resume_body] at hf
    have hr : pc'.rank < pc.rank := advance_rank log2 hf
    cases pc with
    | awaitVerify r =>
      obtain ⟨v, rfl⟩ := hi.2.1
      simp only [advance] at hf
      split at hf <;> cases hf <;> exact verdictAt_of_judged hr ⟨h v rfl, rfl⟩
    | logVerify =>
      simp only [advance, Option.some.injEq, TickFrame.body.injEq] at hf
      obtain ⟨rfl, -, -⟩ := hf
      exact hQ iterStart obj rfl
    | logIteration | emitStart =>
      simp only [advance, Option.some.injEq, TickFrame.body.injEq] at hf
      obtain ⟨rfl, -, -⟩ := hf
      exact fun h => absurd h (by decide)
    | _ =>
      obtain ⟨hv, hc⟩ := advance_record log2 (by intro _ h; cases h) hf
      exact verdictAt_of_judged (hr.trans (of_decide_eq_true rfl))
        (by rw [Judged, hv, hc]; exact h (of_decide_eq_true rfl))

end World

namespace Sys

variable (log2 : ℚ → ℚ) {config : LoopConfig} {good : Clock → Prop} {s : Sys}
  {recs : List LoopIteration} {Q : VERI3FYResult → Prop}

/-- A step pushes a record only on reaching the `done` log with it. -/
theorem mem_pushed {r : Option TickFrame} {x : LoopIteration} (hx : x ∈ pushed r) :
    ∃ s, r = some (.body .logDone s x) := by
  unfold pushed at hx
  split at hx
  · exact ⟨_, by rw [List.mem_singleton.mp hx]⟩
  · simp at hx

/-- The record a step pushes is judged by the verdict of the point it reaches. -/
theorem pushed_judged {r : Option TickFrame} (h : ∀ f, r = some f → FrameVerdict Q f) :
    ∀ x ∈ pushed r, Judged Q x := by
  intro x hx
  obtain ⟨s, rfl⟩ := mem_pushed hx
  exact h _ rfl (by decide)

/-- The run lemma: if every call of `verify` in a sequential run returns a result
satisfying `Q` once every earlier verification did, then every verification of the run
satisfies `Q`. -/
theorem SeqRun.verdicts
    (hQ : ∀ {w iterStart obj recs clk},
      SeqRun log2 config good ⟨w, [.body .logVerify iterStart obj]⟩ recs →
      (∀ r ∈ recs, Judged Q r) → good clk →
      ∀ v, (w.veri3fy.verify clk.verifyNow (w.buildPayload clk.now).toRecord).1 = .ok v → Q v)
    (h : SeqRun log2 config good s recs) : Verdicts Q recs s := by
  induction h with
  | create now => exact ⟨by simp, by simp [Sys.create]⟩
  | @start w recs now _ ih =>
    unfold Sys.start
    split
    · exact ih
    · exact ⟨ih.1, by simpa [Sys.callTick] using World.callTick_frameVerdict (Q := Q) now⟩
  | stop _ ih => exact ⟨ih.1, by simp⟩
  | fire t now _ _ ih => exact ⟨ih.1, by simpa [Sys.callTick] using World.callTick_frameVerdict now⟩
  | @resume w f recs clk hrun hclk ih =>
    have hstep := World.FrameVerdict.resume log2 hrun.seqInv (ih.2 f (by simp)) clk
      (fun iterStart obj hf v hv => hQ (hf ▸ hrun) ih.1 hclk v hv)
    refine ⟨fun r hr => ?_, fun f' hf' => hstep f' ?_⟩
    · rcases List.mem_append.mp hr with hr | hr
      exacts [ih.1 r hr, pushed_judged hstep r hr]
    · cases hres : (w.resume log2 f false clk).2 <;> simp_all

end Sys

/-! ## The full score along a run -/

namespace VERI3FY

end VERI3FY

/-- Records that all failed count as no pass. -/
theorem tallyOf_failing {xs : List LoopIteration} (h : ∀ x ∈ xs, x.veri3fyResult.passed = false) :
    (tallyOf xs).1 = 0 := by
  induction xs with
  | nil => rfl
  | cons x xs ih =>
    obtain ⟨hp, hxs⟩ := List.forall_mem_cons.mp h
    simp [LoopIteration.credit, hp, ih hxs]

namespace World

variable {config : LoopConfig} {recs : List LoopIteration} {w : World}

/-- The payload a tick builds after `n` verifications that all passed with confidence `σ`,
from a scale of at least `1`, a learner version with the pattern and a good clock,
satisfies the predicates of stages 1 and 2, and of stage 3 when `σ` is the full `1`:
both ratios are `n / (n + 1)` or below, and `n / (n + 1) >= 0.70` once `n + 1 > 5`. -/
theorem buildPayload_stages {n : ℕ} {σ : ℚ} {clk : Clock}
    (hi : w.iteration = n + 1) (hP : w.totalPassed = n) (hC : w.confidenceSum = n * σ)
    (hσ : 0 ≤ σ ∧ σ ≤ 1) (hs : 1 ≤ w.scaling.currentScale)
    (hv : hasDigitDotDigit w.learner.modelVersion.toList = true) (hclk : GoodClock clk) :
    VERI3FY.Stage1Ok (w.buildPayload clk.now) ∧
      VERI3FY.Stage2Ok clk.verifyNow (w.buildPayload clk.now) ∧
      (σ = 1 → VERI3FY.Stage3Ok (w.buildPayload clk.now)) := by
  have hn : (0 : ℚ) < n + 1 := by positivity
  have hle : (n : ℚ) ≤ n + 1 := le_add_of_nonneg_right zero_le_one
  have hrate : (n : ℚ) / (n + 1) ≤ 1 := (div_le_one hn).mpr hle
  have hconf : (n * σ : ℚ) / (n + 1) ≤ 1 :=
    (div_le_one hn).mpr ((mul_le_of_le_one_right n.cast_nonneg hσ.2).trans hle)
  have hage : ¬ (VERI3FY.age clk.verifyNow (w.buildPayload clk.now)).Above 60000 :=
    JsNum.toDouble_not_above (by simpa using f64_natCast (n := 60000) (by norm_num))
      (by norm_num) hclk.2
  simp only [buildPayload, hi, hP, hC, Nat.succ_pos, if_true, Nat.cast_add, Nat.cast_one] at hage ⊢
  simp only [VERI3FY.Stage1Ok, VERI3FY.Stage2Ok, VERI3FY.Stage3Ok, JsNum.below_fin,
    JsNum.above_fin, JsNum.atMost_fin, not_lt, not_le]
  refine ⟨⟨hn.le, hs, (by decide : strIncludes "SLVSS-ARK95X-v2" "ARK95X" = true), hclk.1⟩,
    ⟨f64_nonneg (div_nonneg n.cast_nonneg hn.le), f64_le_one hrate,
      f64_nonneg (div_nonneg (mul_nonneg n.cast_nonneg hσ.1) hn.le), f64_le_one hconf, hage,
      hn.le⟩,
    fun h1 => ⟨⟨"SLVSS", by simp, (by decide : strIncludes "SLVSS-ARK95X-v2" "SLVSS" = true)⟩,
      fun h5 => f64_mono ?_, fun _ => hs, hv⟩⟩
  rw [h1, mul_one, le_div_iff₀ hn]
  linarith only [h5]

end World

namespace Sys

variable (log2 : ℚ → ℚ) {config : LoopConfig} {good : Clock → Prop} {s : Sys}
  {recs : List LoopIteration} {Q : VERI3FYResult → Prop}

/-- Every record a sequential run has pushed is settled. -/
theorem SeqInv.settled (h : SeqInv config recs s) : ∀ r ∈ recs, r.Settled := by
  obtain ⟨w, _ | ⟨f, _ | ⟨g, fs⟩⟩⟩ := s
  · exact h.1.settled
  · cases f with
    | reachedMax => exact h.1.settled
    | body pc _ _ => cases pc <;> exact h.1.settled
  · exact h.elim

section FullPass

variable (hc : VERI3FY.ThresholdOk config.veri3fyStages config.confidenceThreshold)

end FullPass

/-- With two stages and a threshold of at least `1`, every verification of every
sequential run fails, whatever the clock: every pushed record is `failed`, and between
ticks no iteration is counted as passed. -/
theorem seqRun_two_stages_fail (h2 : 2 ≤ config.veri3fyStages)
    (h3 : config.veri3fyStages < 3) (ht : 1 ≤ config.confidenceThreshold)
    (h : SeqRun log2 config good s recs) :
    Verdicts (fun v => v.passed = false) recs s ∧ (∀ r ∈ recs, r.status = .failed) ∧
      (s.frames = [] → s.world.totalPassed = 0) := by
  have hv := h.verdicts log2 fun hrun _ _ v hv =>
    VERI3FY.runStages_two_stages_fails ⟨config.veri3fyStages, config.confidenceThreshold, true⟩
      h2 h3 ht (by rw [← (hrun.enginesOk log2).gate]; exact hv)
  refine ⟨hv, fun r hr => ((h.seqInv log2).settled r hr).2.1.mpr (hv.1 r hr).1, fun hf => ?_⟩
  obtain ⟨w, frames⟩ := s
  subst hf
  rw [(World.tally_eq_iff.mp (h.seqInv log2).1.tally_eq).1]
  exact tallyOf_failing fun r hr => (hv.1 r hr).1

/-- With `veri3fyStages = 2` and `confidenceThreshold = 1`, a threshold of at most `1`: the
first tick of a new runner, run to its end with the clock at `1000`, pushes a `failed`
record and counts it as failed. -/
theorem two_stages_first_tick_fails :
    ∃ w recs, SeqRun id { LoopConfig.default with veri3fyStages := 2, confidenceThreshold := 1 }
      GoodClock ⟨w, []⟩ recs ∧
      w.iteration = 1 ∧ recs.length = 1 ∧ w.totalFailed = 1 ∧ ∀ r ∈ recs, r.status = .failed := by
  have h₀ : SeqRun id { LoopConfig.default with veri3fyStages := 2, confidenceThreshold := 1 }
      GoodClock ⟨_, []⟩ [] := .create 0
  obtain ⟨w, f, h, hi⟩ := h₀.start_tick id rfl (by norm_num [World.create, LoopConfig.default]) 1000
  obtain ⟨w', recs, h', hi'⟩ :=
    h.completes_of_rank_eq id ⟨1000, 1000⟩ (by norm_num [GoodClock]) _ rfl
  obtain ⟨-, hfail, hpass⟩ := seqRun_two_stages_fail id (by norm_num) (by norm_num) le_rfl h'
  have hinv := (h'.seqInv id).1
  have hn : w'.iteration = 1 := hi'.trans hi
  have hlen : recs.length = 1 := hinv.iteration_eq.symm.trans hn
  have hsum := World.passed_add_failed hinv.tally_eq
  have hp : w'.totalPassed = 0 := hpass rfl
  exact ⟨w', recs, h', hn, hlen, by omega, hfail⟩

end Sys

end SovereignLoop
