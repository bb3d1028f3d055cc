import SovereignLoop.Js.Value

/-!
# The loop's records

The interfaces `SLVSSRunner.ts` exports and the engines import: the outcome of each
engine, the record of one iteration, the loop configuration and the state snapshot.
Numbers the loop computes are finite, so they are rationals here, but for the learner's
delta: a learner configured with a large decay rate overflows to an infinity, so that one
is a number of the language (`JsNum`). Counters that only go up by one (`iteration`, the
totals, `verifyCount`, `ingestCount`, the streaks) are natural numbers: a double counts
exactly up to `2^53`, far past any run of the loop. The ISO strings of `startedAt` and
`completedAt` are kept as the clock readings they print.
-/

namespace SovereignLoop

/-- `LoopIteration['status']`. -/
inductive Status where
  | running
  | passed
  | failed
  | scaled
  deriving DecidableEq, Repr

/-- `VERI3FYResult`. -/
structure VERI3FYResult where
  stage1Syntax : Bool
  stage2Logic : Bool
  stage3Sovereignty : Bool
  passed : Bool
  score : ℚ
  errors : List String
  deriving DecidableEq, Repr

/-- `ScalingResult`. -/
structure ScalingResult where
  scaled : Bool
  previousScale : ℚ
  newScale : ℚ
  reason : String
  deriving DecidableEq, Repr

/-- An artifact `AutoGenerator.generate` returns: the type of the template that rendered it
and the numbers it was rendered from. The text around them (JSON, TypeScript or Markdown,
with the clock and the recent statuses) is not modelled: the loop only counts artifacts
and prints them in a log message. -/
structure Artifact where
  type : String
  iteration : ℚ
  scale : ℚ
  confidence : ℚ
  deriving DecidableEq, Repr

/-- `GenerationResult`. -/
structure GenerationResult where
  generated : Bool
  artifacts : List Artifact
  type : String
  deriving DecidableEq, Repr

/-- `LearningResult`. -/
structure LearningResult where
  learned : Bool
  patterns : ℕ
  improvementDelta : JsNum
  modelVersion : String
  deriving DecidableEq, Repr

/-- `LoopIteration`, the record of one tick. -/
structure LoopIteration where
  id : ℕ
  startedAt : ℚ
  completedAt : Option ℚ
  durationMs : ℚ
  veri3fyResult : VERI3FYResult
  scalingResult : ScalingResult
  generationResult : GenerationResult
  learningResult : LearningResult
  status : Status
  confidence : ℚ
  roi : ℚ
  deriving DecidableEq, Repr

/-- `LoopConfig`. -/
structure LoopConfig where
  maxIterations : ℚ
  intervalMs : ℚ
  confidenceThreshold : ℚ
  autoScale : Bool
  autoGenerate : Bool
  learnFromFailures : Bool
  debugMode : Bool
  veri3fyStages : ℚ
  deriving DecidableEq, Repr

/-- The defaults of `new SLVSSRunner()`. -/
def LoopConfig.default : LoopConfig where
  maxIterations := 0
  intervalMs := 5000
  confidenceThreshold := 0.85
  autoScale := true
  autoGenerate := true
  learnFromFailures := true
  debugMode := false
  veri3fyStages := 3

/-- `SLVSSState`, the snapshot `getState()` returns. -/
structure SLVSSState where
  running : Bool
  iteration : ℕ
  totalPassed : ℕ
  totalFailed : ℕ
  totalGenerated : ℕ
  successRate : ℚ
  avgConfidence : ℚ
  avgROI : ℚ
  currentScale : ℚ
  learningVersion : String
  uptime : ℤ
  history : List LoopIteration
  deriving DecidableEq, Repr

/-- `vResult` as the `Record<string, unknown>` the loop hands to `LearningCore.ingest`
when verification fails. -/
def VERI3FYResult.toRecord (v : VERI3FYResult) : JsRecord where
  props := [("stage1_syntax", .bool v.stage1Syntax), ("stage2_logic", .bool v.stage2Logic),
    ("stage3_sovereignty", .bool v.stage3Sovereignty), ("passed", .bool v.passed),
    ("score", .num (.fin v.score)), ("errors", .arr (v.errors.map .str))]
  nodup := by
    show List.Nodup ["stage1_syntax", "stage2_logic", "stage3_sovereignty", "passed", "score",
      "errors"]
    decide

end SovereignLoop
