import SovereignLoop.Loop.Verdicts

/-!
# The gate's own counters along a run

`VERI3FY` counts its attempts and passes (`verifyCount`, `passCount`, and `passRate` in
`stats`); the runner counts its passed and failed iterations (`totalPassed`, `totalFailed`,
and `successRate` in `getState()`). In a sequential run the two agree between ticks: the
gate has counted one attempt per iteration and one pass per passed iteration, so
`stats.passRate` is `getState().successRate` (`seqRun_gate_stats`).

During a tick the gate runs ahead: from the call of `verify` until the record is pushed it
has counted the tick's attempt. `frameCounts` says what it has counted at each point,
`GateOk.resume` is the step lemma and `SeqRun.gateOk` the run lemma.
-/

namespace SovereignLoop

/-! ## What the gate has counted -/

/-- The passes `verify` adds for a result: one for a result that passed. -/
def VERI3FY.passesOf : Except JsError VERI3FYResult → ℕ
  | .ok r => if r.passed then 1 else 0
  | .error _ => 0

/-- The gate's two counters. -/
def VERI3FY.counts (g : VERI3FY) : ℕ × ℕ := (g.verifyCount, g.passCount)

/-- One attempt per record and one pass per record that passed. -/
def baseCounts (recs : List LoopIteration) : ℕ × ℕ := (recs.length, (tallyOf recs).1)

/-- What the gate has counted at a point of a tick with record `obj`, for the pushed
records `recs`: at the `await` of `verify` the attempt and the result's pass; after it, the
tick's record as if pushed; before it and once the record is pushed, the pushed records. -/
def pcCounts (recs : List LoopIteration) (obj : LoopIteration) : TickPc → ℕ × ℕ
  | .awaitVerify r => (recs.length + 1, (tallyOf recs).1 + VERI3FY.passesOf r)
  | pc => if 2 ≤ pc.rank ∧ pc.rank < 18 then baseCounts (recs ++ [obj]) else baseCounts recs

/-- `pcCounts` for a tick in progress. -/
def frameCounts (recs : List LoopIteration) : TickFrame → ℕ × ℕ
  | .reachedMax => baseCounts recs
  | .body pc _ obj => pcCounts recs obj pc

/-- The gate's counters at a state of a sequential run: `frameCounts` during its one tick,
`baseCounts` between ticks. -/
def GateOk (recs : List LoopIteration) : Sys → Prop
  | ⟨w, []⟩ => w.veri3fy.counts = baseCounts recs
  | ⟨w, [f]⟩ => w.veri3fy.counts = frameCounts recs f
  | _ => False

@[simp] theorem baseCounts_append (recs : List LoopIteration) (r : LoopIteration) :
    baseCounts (recs ++ [r]) =
      (recs.length + 1, (tallyOf recs).1 + if r.veri3fyResult.passed then 1 else 0) := by
  simp [baseCounts, LoopIteration.credit]

theorem VERI3FY.counts_verify (g : VERI3FY) (now : ℚ) (p : JsRecord) :
    (g.verify now p).2.counts =
      (g.verifyCount + 1, g.passCount + passesOf (g.verify now p).1) := rfl

namespace World

variable (log2 : ℚ → ℚ) {config : LoopConfig} {recs : List LoopIteration} {w : World}

/-- Only the call of `verify` moves the gate. -/
theorem advance_veri3fy {pc : TickPc} (hpc : pc ≠ .logVerify) (iterStart : ℚ)
    (obj : LoopIteration) (clk : Clock) :
    (w.advance log2 pc iterStart obj clk).1.veri3fy = w.veri3fy := by
  unfold advance
  split <;> dsimp only [finalize, catchFault, afterScaling, learnSuccess] <;> (repeat' split) <;>
    first | rfl | exact absurd rfl hpc

/-- The step lemma: a step of a sequential tick keeps the gate's counters at `frameCounts`
of the point it reaches, for the records pushed by then. -/
theorem gateOk_resume {f : TickFrame} (hi : TickInv config recs w f)
    (h : w.veri3fy.counts = frameCounts recs f) (clk : Clock) :
    GateOk (recs ++ Sys.pushed (w.resume log2 f false clk).2)
      ⟨(w.resume log2 f false clk).1, (w.resume log2 f false clk).2.toList⟩ := by
  cases f with
  | reachedMax => simpa [GateOk, World.resume, World.stop, frameCounts, Sys.pushed] using h
  | body pc iterStart obj =>
    rw [resume_body]
    cases pc with
    | logVerify =>
      simp [frameCounts, pcCounts, TickPc.rank, baseCounts, VERI3FY.counts] at h
      simp [advance, GateOk, frameCounts, pcCounts, Sys.pushed, VERI3FY.counts_verify, h]
    | awaitVerify r =>
      obtain ⟨v, rfl⟩ := hi.2.1
      simp only [frameCounts, pcCounts] at h
      simp only [advance]
      split <;> simp_all [GateOk, frameCounts, pcCounts, TickPc.rank, Sys.pushed,
        VERI3FY.passesOf]
    | awaitIngestFailure r | awaitIngestSuccess r =>
      cases r <;>
        simpa [advance, catchFault, GateOk, frameCounts, pcCounts, TickPc.rank, Sys.pushed] using h
    | _ =>
      simp only [advance, finalize, catchFault, afterScaling, learnSuccess]
      (repeat' split) <;>
        simpa [GateOk, frameCounts, pcCounts, TickPc.rank, Sys.pushed, World.setTimer] using h

end World

namespace Sys

variable (log2 : ℚ → ℚ) {config : LoopConfig} {good : Clock → Prop} {s : Sys}
  {recs : List LoopIteration} {w : World}

/-- A call of `tick()` starts at a point before the verification. -/
theorem gateOk_callTick (h : GateOk recs ⟨w, []⟩) (now : ℚ) :
    GateOk recs (Sys.callTick [] w now) := by
  unfold Sys.callTick World.callTick
  split_ifs <;> simpa [GateOk, frameCounts, pcCounts, TickPc.rank] using h

/-- The run lemma: at every state of a sequential run the gate's counters are those the
tick's point gives for the pushed records. -/
theorem SeqRun.gateOk (h : SeqRun log2 config good s recs) : GateOk recs s := by
  induction h with
  | create now => rfl
  | @start w recs now _ ih =>
    unfold Sys.start
    split
    · exact ih
    · exact gateOk_callTick (w := { w with running := true, startTime := now }) ih now
  | stop _ ih => exact ih
  | @fire w recs t now _ _ ih =>
    exact gateOk_callTick (w := { w with timers := w.timers.erase t }) ih now
  | resume clk hrun _ ih => exact World.gateOk_resume log2 hrun.seqInv ih clk

/-- Between ticks of a sequential run the gate has counted one attempt per iteration and
one pass per passed iteration, so its `stats().passRate` is the runner's
`getState().successRate`, at any clock reading. -/
theorem seqRun_gate_stats (h : SeqRun log2 config good ⟨w, []⟩ recs) (now : ℚ) :
    w.veri3fy.verifyCount = w.iteration ∧ w.veri3fy.passCount = w.totalPassed ∧
      w.veri3fy.stats.passRate = (w.getState now).successRate := by
  have hg : w.veri3fy.counts = baseCounts recs := h.gateOk log2
  obtain ⟨hi, -⟩ := h.seqInv log2
  simp only [VERI3FY.counts, baseCounts, Prod.mk.injEq] at hg
  have hv : w.veri3fy.verifyCount = w.iteration := hg.1.trans hi.iteration_eq.symm
  have hp : w.veri3fy.passCount = w.totalPassed :=
    hg.2.trans (World.tally_eq_iff.mp hi.tally_eq).1.symm
  refine ⟨hv, hp, ?_⟩
  simp only [VERI3FY.stats, VERI3FY.passRate, World.getState, hv, hp]
  split_ifs <;> simp

/-- The gate and the counters after the first tick of a new runner. -/
theorem first_tick_gate_stats :
    ∃ w recs, SeqRun id LoopConfig.default (fun _ => True) ⟨w, []⟩ recs ∧ w.iteration = 1 ∧
      w.veri3fy.verifyCount = w.iteration ∧ w.veri3fy.passCount = w.totalPassed ∧
      w.veri3fy.stats.passRate = (w.getState 0).successRate :=
  let ⟨w, recs, h, hi⟩ := first_tick_done id
  ⟨w, recs, h, hi, seqRun_gate_stats id h 0⟩

end Sys

end SovereignLoop
