import SovereignLoop.Loop.Veri3fy
import SovereignLoop.Loop.ScalingEngine
import SovereignLoop.Loop.AutoGenerator
import SovereignLoop.Loop.LearningCore

/-!
# `SLVSSRunner`

The runner's fields, its public calls and its `tick`, cut at every point where other code
can run:

* every `log(...)` and `emit(...)`: `log` emits `'slvss:log'`, and an `EventEmitter` calls
  its listeners synchronously, so a listener can throw into the tick there, or call
  `start()`, `stop()` or `getState()` before the tick goes on;
* every `await` of a sub-engine call: the call has run and settled, and the tick resumes
  from the microtask queue, after whatever runs before it.

A tick past its checks is a `TickFrame.body` at one of these points (`TickPc`); `resume`
runs the code from a point to the next one. The `await` points carry the settled result
of the call. A throw at a point inside the `try` goes to the `catch` block, one outside it
rejects the tick's promise and ends the tick where it stands.

Clock readings are inputs (`Clock`): `Date.now()` returns whatever the environment's clock
shows, and only `verify`'s staleness check reads the clock a second time in one segment.
`Math.log2` in `computeROI` is the parameter `log2`: the model does not fix binary64's
logarithm. Every other division, product and sum the runner computes is rounded by `f64`
as binary64 rounds it, but for the accumulators. The counters are natural numbers, exact
doubles below `2^53` ticks. `confidenceSum` and `roiSum` are kept, like them, as the exact
sums of the scores and ROIs added to them: the code's running sums differ from these by
the rounding of each addition (a sum of full scores `1` is exact below `2^53` passes), and
the averages read them through one rounding. The texts of log messages are not modelled,
and the emissions inside `start()` and `stop()` are taken to return.
-/

namespace SovereignLoop

/-- The fields of an `SLVSSRunner`, with the event loop's timers beside them: `timers` are
the ids of the pending `setTimeout(() => this.tick(), ...)` calls, `nextTimer` the id the
next one gets, `loopTimer` the id of the last one the runner set. -/
structure World where
  config : LoopConfig
  veri3fy : VERI3FY
  scaling : ScalingEngine
  generator : AutoGenerator
  learner : LearningCore
  iteration : ℕ
  totalPassed : ℕ
  totalFailed : ℕ
  totalGenerated : ℕ
  confidenceSum : ℚ
  roiSum : ℚ
  history : List LoopIteration
  running : Bool
  startTime : ℚ
  loopTimer : Option ℕ
  timers : List ℕ
  nextTimer : ℕ

/-- The readings of `Date.now()` in one segment of code: `now` for all of them but the one
`VERI3FY.verify` takes after `buildPayload` took `now`. -/
structure Clock where
  now : ℚ
  verifyNow : ℚ
  deriving DecidableEq, Repr

namespace World

/-- `new SLVSSRunner(config)` at clock reading `now`. -/
def create (config : LoopConfig) (now : ℚ) : World where
  config := config
  veri3fy := VERI3FY.create config.veri3fyStages config.confidenceThreshold
  scaling := ScalingEngine.create ScalePolicy.default
  generator := AutoGenerator.create
  learner := LearningCore.create LearningConfig.default
  iteration := 0
  totalPassed := 0
  totalFailed := 0
  totalGenerated := 0
  confidenceSum := 0
  roiSum := 0
  history := []
  running := false
  startTime := now
  loopTimer := none
  timers := []
  nextTimer := 0

/-! ## State, payload and ROI -/

/-- `getState()` at clock reading `now`. -/
def getState (w : World) (now : ℚ) : SLVSSState where
  running := w.running
  iteration := w.iteration
  totalPassed := w.totalPassed
  totalFailed := w.totalFailed
  totalGenerated := w.totalGenerated
  successRate :=
    if 0 < w.iteration then parseFixed 4 (f64 (w.totalPassed / w.iteration)) else 0
  avgConfidence :=
    if 0 < w.iteration then parseFixed 4 (f64 (w.confidenceSum / w.iteration)) else 0
  avgROI := if 0 < w.iteration then parseFixed 2 (f64 (w.roiSum / w.iteration)) else 0
  currentScale := w.scaling.currentScale
  learningVersion := w.learner.modelVersion
  uptime := ⌊f64 (f64 (now - w.startTime) / 1000)⌋
  history := w.history.drop (w.history.length - 10)

/-- `buildPayload()` at clock reading `now`. -/
def buildPayload (w : World) (now : ℚ) : VerifyPayload where
  iteration := .fin w.iteration
  scale := .fin w.scaling.currentScale
  learnerVersion := w.learner.modelVersion
  successRate := .fin (if 0 < w.iteration then f64 (w.totalPassed / w.iteration) else 0)
  avgConfidence := .fin (if 0 < w.iteration then f64 (w.confidenceSum / w.iteration) else 0)
  avgROI := .fin (if 0 < w.iteration then f64 (w.roiSum / w.iteration) else 0)
  timestamp := .fin now
  ark95xNode := "SLVSS-ARK95X-v2"

/-- `computeROI(confidence, scale)`, with `Math.log2` given: `base * multiplier` in
binary64, read back through `toFixed(2)`. -/
def computeROI (log2 : ℚ → ℚ) (confidence scale : ℚ) : ℚ :=
  parseFixed 2 (f64 (f64 (confidence * 100) * f64 (log2 (f64 (scale + 1)) + 1)))

/-- The data of the success ingest, `{ vResult, scale: this.scaling.currentScale }`. -/
def successData (v : VERI3FYResult) (scale : ℚ) : JsRecord where
  props := [("vResult", v.toRecord.toVal), ("scale", .num (.fin scale))]
  nodup := by
    show List.Nodup ["vResult", "scale"]
    decide

/-! ## Timers, `start` and `stop` -/

/-- `this.loopTimer = setTimeout(() => this.tick(), ...)`. -/
def setTimer (w : World) : World :=
  { w with loopTimer := some w.nextTimer, timers := w.timers ++ [w.nextTimer],
           nextTimer := w.nextTimer + 1 }

/-- `stop()`: `running` off and the last timer cleared, if it is still pending. -/
def stop (w : World) : World :=
  { w with running := false, timers := match w.loopTimer with
    | some t => w.timers.erase t
    | none => w.timers }

end World

/-! ## The tick -/

/-- The points of a tick past its checks: each `log` and `emit`, where listeners run, and
each `await`, holding the settled result of the call. -/
inductive TickPc where
  | logIteration
  | emitStart
  | logVerify
  | awaitVerify (r : Except JsError VERI3FYResult)
  | logFailed
  | awaitIngestFailure (r : Except JsError LearningResult)
  | logIngestedFailure
  | emitFailed
  | logPassed
  | logScaling
  | awaitScale (r : ScalingResult)
  | logScaled
  | logGenerate
  | awaitGenerate (r : GenerationResult)
  | logGenerated
  | awaitIngestSuccess (r : Except JsError LearningResult)
  | logLearned
  | emitPassed
  | logException
  | emitError
  | logDone
  | emitComplete

namespace TickPc

/-- The points at which listeners run. -/
def isEmission : TickPc → Bool
  | awaitVerify _ | awaitIngestFailure _ | awaitScale _ | awaitGenerate _
  | awaitIngestSuccess _ => false
  | _ => true

/-- The points inside the `try` block. -/
def inTry : TickPc → Bool
  | logIteration | emitStart | logException | emitError | logDone | emitComplete => false
  | _ => true

end TickPc

/-- A tick in progress. -/
inductive TickFrame where
  /-- At `log('Reached max iterations')`, before `stop()`. -/
  | reachedMax
  /-- Past the checks: at point `pc`, with the clock reading `iterStart` and the record
  `iterObj`. -/
  | body (pc : TickPc) (iterStart : ℚ) (iterObj : LoopIteration)

namespace World

/-- The record a tick starts with. -/
def newIteration (id : ℕ) (now scale : ℚ) : LoopIteration where
  id := id
  startedAt := now
  completedAt := none
  durationMs := 0
  veri3fyResult := ⟨false, false, false, false, 0, []⟩
  scalingResult := ⟨false, scale, scale, ""⟩
  generationResult := ⟨false, [], ""⟩
  learningResult := ⟨false, 0, .fin 0, ""⟩
  status := .running
  confidence := 0
  roi := 0

/-- `tick()` up to its first point: nothing when stopped, the max-iterations stop, or the
next iteration number and a fresh record. -/
def callTick (w : World) (now : ℚ) : World × Option TickFrame :=
  if !w.running then (w, none)
  else if 0 < w.config.maxIterations ∧ w.config.maxIterations ≤ w.iteration then
    (w, some .reachedMax)
  else
    ({ w with iteration := w.iteration + 1 },
      some (.body .logIteration now (newIteration (w.iteration + 1) now w.scaling.currentScale)))

/-- The `catch` block up to its `log`: the record fails and `totalFailed` goes up. -/
def catchFault (w : World) (iterStart : ℚ) (obj : LoopIteration) :
    World × Option TickFrame :=
  ({ w with totalFailed := w.totalFailed + 1 },
    some (.body .logException iterStart { obj with status := .failed }))

/-- After the `try`: the record is finished and pushed, the window keeping 100. -/
def finalize (w : World) (iterStart : ℚ) (obj : LoopIteration) (now : ℚ) :
    World × Option TickFrame :=
  let obj := { obj with completedAt := some now, durationMs := f64 (now - iterStart) }
  let h := w.history ++ [obj]
  ({ w with history := if 100 < h.length then h.tail else h },
    some (.body .logDone iterStart obj))

/-- The success ingest and its `await`. -/
def learnSuccess (w : World) (iterStart : ℚ) (obj : LoopIteration) (now : ℚ) :
    World × Option TickFrame :=
  let r := w.learner.ingest now
    ⟨.success, successData obj.veri3fyResult w.scaling.currentScale, w.iteration⟩
  ({ w with learner := r.2 }, some (.body (.awaitIngestSuccess r.1) iterStart obj))

/-- After the scaling phase: the generation phase if enabled, else the success ingest. -/
def afterScaling (w : World) (iterStart : ℚ) (obj : LoopIteration) (now : ℚ) :
    World × Option TickFrame :=
  if w.config.autoGenerate then (w, some (.body .logGenerate iterStart obj))
  else w.learnSuccess iterStart obj now

variable (log2 : ℚ → ℚ)

/-- The code from point `pc` to the next point when the listeners there return (at an
`await`, when the tick resumes). -/
def advance (w : World) (pc : TickPc) (iterStart : ℚ) (obj : LoopIteration) (clk : Clock) :
    World × Option TickFrame :=
  match pc with
  | .logIteration => (w, some (.body .emitStart iterStart obj))
  | .emitStart => (w, some (.body .logVerify iterStart obj))
  | .logVerify =>
    let r := w.veri3fy.verify clk.verifyNow (w.buildPayload clk.now).toRecord
    ({ w with veri3fy := r.2 }, some (.body (.awaitVerify r.1) iterStart obj))
  | .awaitVerify (.error _) => w.catchFault iterStart obj
  | .awaitVerify (.ok v) =>
    let obj := { obj with veri3fyResult := v, confidence := v.score }
    let w := { w with confidenceSum := w.confidenceSum + v.score }
    if v.passed then
      ({ w with totalPassed := w.totalPassed + 1 }, some (.body .logPassed iterStart obj))
    else
      ({ w with totalFailed := w.totalFailed + 1 },
        some (.body .logFailed iterStart { obj with status := .failed }))
  | .logFailed =>
    if w.config.learnFromFailures then
      let r := w.learner.ingest clk.now ⟨.failure, obj.veri3fyResult.toRecord, w.iteration⟩
      ({ w with learner := r.2 }, some (.body (.awaitIngestFailure r.1) iterStart obj))
    else (w, some (.body .emitFailed iterStart obj))
  | .awaitIngestFailure (.error _) => w.catchFault iterStart obj
  | .awaitIngestFailure (.ok l) =>
    (w, some (.body .logIngestedFailure iterStart { obj with learningResult := l }))
  | .logIngestedFailure => (w, some (.body .emitFailed iterStart obj))
  | .emitFailed => w.finalize iterStart obj clk.now
  | .logPassed =>
    if w.config.autoScale then (w, some (.body .logScaling iterStart obj))
    else w.afterScaling iterStart obj clk.now
  | .logScaling =>
    let r := w.scaling.scale ⟨obj.veri3fyResult.score, w.iteration, w.history⟩
    ({ w with scaling := r.2 }, some (.body (.awaitScale r.1) iterStart obj))
  | .awaitScale s =>
    let obj := { obj with scalingResult := s }
    if s.scaled then (w, some (.body .logScaled iterStart { obj with status := .scaled }))
    else w.afterScaling iterStart obj clk.now
  | .logScaled => w.afterScaling iterStart obj clk.now
  | .logGenerate =>
    let r := w.generator.generate ⟨w.iteration, w.scaling.currentScale, obj.veri3fyResult.score⟩
    ({ w with generator := r.2 }, some (.body (.awaitGenerate r.1) iterStart obj))
  | .awaitGenerate g =>
    let roi := computeROI log2 obj.veri3fyResult.score w.scaling.currentScale
    ({ w with roiSum := w.roiSum + roi, totalGenerated := w.totalGenerated + g.artifacts.length },
      some (.body .logGenerated iterStart { obj with generationResult := g, roi := roi }))
  | .logGenerated => w.learnSuccess iterStart obj clk.now
  | .awaitIngestSuccess (.error _) => w.catchFault iterStart obj
  | .awaitIngestSuccess (.ok l) =>
    (w, some (.body .logLearned iterStart { obj with learningResult := l }))
  | .logLearned =>
    (w, some (.body .emitPassed iterStart
      (if obj.status = .running then { obj with status := .passed } else obj)))
  | .emitPassed => w.finalize iterStart obj clk.now
  | .logException => (w, some (.body .emitError iterStart obj))
  | .emitError => w.finalize iterStart obj clk.now
  | .logDone => (w, some (.body .emitComplete iterStart obj))
  | .emitComplete => (if w.running then w.setTimer else w, none)

/-- A tick goes on from its point: `throws` says whether a listener there throws (it is
ignored at an `await`). -/
def resume (w : World) (f : TickFrame) (throws : Bool) (clk : Clock) :
    World × Option TickFrame :=
  match f with
  | .reachedMax => if throws then (w, none) else (w.stop, none)
  | .body pc iterStart obj =>
    if throws ∧ pc.isEmission then
      if pc.inTry then w.catchFault iterStart obj else (w, none)
    else w.advance log2 pc iterStart obj clk

end World

end SovereignLoop
