import SovereignLoop.Loop.Verdicts

/-!
# Runs the loop does not survive

The event model lets `start()` and `stop()` run at every point of a tick and lets a
listener throw at every emission. The runs here follow the code into three states its
comments do not expect:

* a `log` listener that throws inside the `try`, after the verification result is
  counted, makes the tick count its iteration as passed and as failed;
* one that throws at the tick's first emission, outside the `try`, ends the tick with no
  record and no timer while `running` stays on: the runner is stalled until `stop()`
  (`run_stalled`);
* `stop()` and then `start()` while a tick waits on `verify` leave two ticks in progress.
-/

namespace SovereignLoop

namespace Sys

variable (log2 : ℚ → ℚ) {config : LoopConfig}

/-- Every run of events from a reachable state ends in a reachable state. -/
theorem run_reachable {s s' : Sys} (hs : Reachable log2 config s) {es : List Event}
    (h : s.run log2 es = some s') : Reachable log2 config s' := by
  induction es generalizing s with
  | nil => exact (Option.some.inj h) ▸ hs
  | cons e es ih =>
    rw [run_cons] at h
    cases hstep : s.step log2 e with
    | none => simp [hstep] at h
    | some s₁ =>
      rw [hstep, Option.some_bind] at h
      exact ih (.step e hs hstep) h

/-- A runner that is running with no tick in progress and no timer pending is stalled:
`start()` only logs, no timer can fire and no tick can go on, so a run without `stop()`
leaves it as it is. -/
theorem run_stalled {s : Sys} (hr : s.world.running = true) (ht : s.world.timers = [])
    (hf : s.frames = []) {es : List Event} (hes : ∀ e ∈ es, e ≠ .stop) {s' : Sys}
    (h : s.run log2 es = some s') : s' = s := by
  induction es with
  | nil => exact (Option.some.inj h).symm
  | cons e es ih =>
    simp only [List.mem_cons, forall_eq_or_imp] at hes
    rw [run_cons] at h
    cases e with
    | start now =>
      simp only [step, Sys.start, hr, if_true, Option.some_bind] at h
      exact ih hes.2 h
    | stop => exact absurd rfl hes.1
    | fire t now => simp [step, ht] at h
    | resume i throws clk => simp [step, hf] at h

/-! ## Runs that compute no ROI

`Math.log2` is a parameter of the model, read only where a tick computes an ROI, after the
generation's `await`. A run that never goes on from there is the same run for every
`log2`, so a run with no ROI can be evaluated with any stand-in for it. -/

/-- Whether event `e` reads `Math.log2`: only a tick going on from the generation's `await`
computes an ROI. -/
def readsLog2 (s : Sys) : Event → Bool
  | .resume i _ _ =>
    match s.frames.get? i with
    | some (.body (.awaitGenerate _) _ _) => true
    | _ => false
  | _ => false

/-- Whether a run of events, followed with `log2`, never reads `Math.log2`. -/
def avoidsLog2 (log2 : ℚ → ℚ) : Sys → List Event → Bool
  | _, [] => true
  | s, e :: es => !s.readsLog2 e && ((s.step log2 e).map fun s' => avoidsLog2 log2 s' es).getD true

/-- A tick reads `log2` only going on from the generation's `await`. -/
theorem resume_log2 {w : World} {f : TickFrame} (log2' : ℚ → ℚ) (throws : Bool)
    (clk : Clock) (h : ∀ g i o, f ≠ .body (.awaitGenerate g) i o) :
    w.resume log2 f throws clk = w.resume log2' f throws clk := by
  cases f with
  | reachedMax => simp only [World.resume]
  | body pc iterStart obj =>
    cases pc with
    | awaitGenerate g => exact absurd rfl (h g iterStart obj)
    | awaitVerify r => cases r <;> simp only [World.resume, World.advance]
    | awaitIngestFailure r => cases r <;> simp only [World.resume, World.advance]
    | awaitIngestSuccess r => cases r <;> simp only [World.resume, World.advance]
    | _ => simp only [World.resume, World.advance]

theorem step_log2 (log2' : ℚ → ℚ) {s : Sys} {e : Event} (h : s.readsLog2 e = false) :
    s.step log2 e = s.step log2' e := by
  cases e with
  | resume i throws clk =>
    simp only [step]
    cases hf : s.frames.get? i with
    | none => simp only [Option.map_none']
    | some f =>
      have hg : ∀ g j o, f ≠ .body (.awaitGenerate g) j o := by
        rintro g j o rfl
        simp only [readsLog2, hf] at h
        exact Bool.noConfusion h
      simp only [Option.map_some', resume_log2 log2 log2' throws clk hg]
  | start now => simp only [step]
  | stop => simp only [step]
  | fire t now => simp only [step]

/-- A run that never reads `Math.log2` is the same run for every `log2`. -/
theorem run_log2 (log2' : ℚ → ℚ) {s : Sys} {es : List Event} (h : avoidsLog2 log2' s es = true) :
    s.run log2 es = s.run log2' es := by
  induction es generalizing s with
  | nil => simp only [run_nil]
  | cons e es ih =>
    simp only [avoidsLog2, Bool.and_eq_true, Bool.not_eq_true'] at h
    rw [run_cons, run_cons, step_log2 log2 log2' h.1]
    cases hs : s.step log2' e with
    | none => simp only [Option.none_bind]
    | some s' =>
      rw [hs, Option.map_some', Option.getD_some] at h
      exact ih h.2

/-! ## The runs -/

/-- The first verification of a default runner started at clock 1000 passes: the payload
satisfies every stage predicate. -/
theorem first_verify_passes :
    (let w : World := { World.create LoopConfig.default 0 with
      running := true, startTime := 1000, iteration := 1 }
    ∃ v, (w.veri3fy.verify 1000 (w.buildPayload 1000).toRecord).1 = .ok v ∧ v.passed = true) := by
  intro w
  obtain ⟨h1, h2, h3⟩ := World.buildPayload_stages (w := w) (n := 0) (σ := 1)
    rfl rfl (by simp [w, World.create]) (by norm_num) le_rfl
    (by decide : hasDigitDotDigit "1.0".toList = true) (show GoodClock ⟨1000, 1000⟩ by norm_num [GoodClock])
  obtain ⟨r, hr, hp, -⟩ := VERI3FY.runStages_all_pass ⟨3, 0.85, true⟩
    (by norm_num [VERI3FY.ThresholdOk]) rfl h1 (fun _ => h2) (fun _ => h3 rfl)
  exact ⟨r, hr, hp⟩

/-- A default runner started at clock 1000 and resumed three times waits on its first
verification, whatever comes after. -/
theorem run_first_verify (rest : List Event) :
    (let w : World := { World.create LoopConfig.default 0 with
      running := true, startTime := 1000, iteration := 1 }
    (Sys.create LoopConfig.default 0).run log2
      ([.start 1000, .resume 0 false ⟨1000, 1000⟩, .resume 0 false ⟨1000, 1000⟩,
        .resume 0 false ⟨1000, 1000⟩] ++ rest) =
      (⟨{ w with veri3fy := (w.veri3fy.verify 1000 (w.buildPayload 1000).toRecord).2 },
        [.body (.awaitVerify (w.veri3fy.verify 1000 (w.buildPayload 1000).toRecord).1) 1000
          (World.newIteration 1 1000 1)]⟩ : Sys).run log2 rest) := rfl

/-- Two ticks of a default runner, started at clock 1000. In the first a `log` listener
throws at `VERI3FY PASSED`, after `totalPassed++`: the `catch` adds `totalFailed++`, so
the one iteration is counted twice. In the second, fired by the first's timer, a listener
throws at the first `log`, before the `try`: the tick ends with no record and no timer,
and the runner, still running, is stalled. -/
theorem listener_faults_miscount (log2 : ℚ → ℚ) :
    (let c : Clock := ⟨1000, 1000⟩
    let tick₁ : List Event := [.start 1000, .resume 0 false c, .resume 0 false c,
      .resume 0 false c, .resume 0 false c, .resume 0 true c, .resume 0 false c,
      .resume 0 false c, .resume 0 false c, .resume 0 false c]
    let tick₂ : List Event := [.fire 0 6000, .resume 0 true c]
    ((Sys.create LoopConfig.default 0).run log2 tick₁).map
        (fun s => (s.world.iteration, s.world.totalPassed, s.world.totalFailed,
          s.world.history.map (·.status))) = some (1, 1, 1, [.failed]) ∧
    ∃ s, (Sys.create LoopConfig.default 0).run log2 (tick₁ ++ tick₂) = some s ∧
      s.world.iteration = 2 ∧ s.world.history.length = 1 ∧ s.world.running = true ∧
      s.world.timers = [] ∧ s.frames = [] ∧
      ∀ es s', (∀ e ∈ es, e ≠ .stop) → s.run log2 es = some s' → s' = s) := by
  intro c tick₁ tick₂
  have h₁ := run_first_verify log2 (tick₁.drop 4)
  have h₂ := run_first_verify log2 ((tick₁ ++ tick₂).drop 4)
  obtain ⟨v, hv, hp⟩ := first_verify_passes
  simp only [hv] at h₁ h₂
  obtain ⟨_, _, _, passed, _, _⟩ := v
  subst hp
  obtain ⟨s, hs, hobs⟩ := Option.map_eq_some'.mp ((congrArg (Option.map _) h₂).trans rfl :
    ((Sys.create LoopConfig.default 0).run log2 (tick₁ ++ tick₂)).map
      (fun s => (s.world.iteration, s.world.history.length, s.world.running, s.world.timers,
        s.frames.length)) = some (2, 1, true, [], 0))
  simp only [Prod.mk.injEq, List.length_eq_zero] at hobs
  obtain ⟨hi, hh, hr, ht, hf⟩ := hobs
  exact ⟨(congrArg (Option.map _) h₁).trans rfl, s, hs, hi, hh, hr, ht, hf,
    fun es s' hes => run_stalled log2 hr ht hf hes⟩

/-- `stop()` and then `start()` while the first tick of a default runner waits on `verify`:
`start()` finds `running` off and calls `tick()` at once, so two ticks are in progress. -/
theorem restart_runs_two_ticks (log2 : ℚ → ℚ) :
    (let c : Clock := ⟨1000, 1000⟩
    ∃ s, (Sys.create LoopConfig.default 0).run log2
        [.start 1000, .resume 0 false c, .resume 0 false c, .resume 0 false c, .stop,
          .start 1000] = some s ∧
      Reachable log2 LoopConfig.default s ∧ s.frames.length = 2) := by
  intro c
  have hrun := run_log2 log2 (fun _ => 0) (rfl :
    avoidsLog2 (fun _ => 0) (Sys.create LoopConfig.default 0)
      [.start 1000, .resume 0 false c, .resume 0 false c, .resume 0 false c, .stop,
        .start 1000] = true)
  obtain ⟨s, hs, hf⟩ := Option.map_eq_some'.mp (rfl :
    ((Sys.create LoopConfig.default 0).run (fun _ => 0) [.start 1000, .resume 0 false c,
      .resume 0 false c, .resume 0 false c, .stop, .start 1000]).map (·.frames.length) = some 2)
  exact ⟨s, hrun.trans hs, run_reachable log2 (.create 0) (hrun.trans hs), hf⟩

end Sys

end SovereignLoop
