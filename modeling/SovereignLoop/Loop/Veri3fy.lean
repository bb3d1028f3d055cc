import SovereignLoop.Loop.Types
import SovereignLoop.Js.Binary64

/-!
# `VERI3FY`: the three-stage gate

`VERI3FY.verify` scores a payload through up to three stages. Each stage is a list of
checks, and a check that finds a fault pushes a message to the shared error list and
fails its stage. The checks read the payload's fields with the language's coercions,
so a stage can also throw (a symbol compared with a number, a `BigInt` subtracted from
`Date.now()`); `verify` then throws, having already counted the attempt.

`Date.now()` is the argument `now`, read once by the staleness check of stage 2. The
weights, their sums, the threshold products, the literal `0.70` of stage 3, the payload's
age and the pass rate are binary64 numbers (`f64`), as the language computes them.
-/

namespace SovereignLoop

/-- `VERI3FYConfig`. -/
structure VERI3FYConfig where
  stages : ℚ
  threshold : ℚ
  strictMode : Bool
  deriving DecidableEq, Repr

/-- A `VERI3FY` instance: its configuration and its attempt and pass counters. -/
structure VERI3FY where
  config : VERI3FYConfig
  verifyCount : ℕ
  passCount : ℕ
  deriving DecidableEq, Repr

/-- `VerifyPayload`: the fields the gate reads, with the types it declares for them; a
`number` is any number of the language, `NaN` and the infinities included. The loop's
`buildPayload` produces one. -/
structure VerifyPayload where
  iteration : JsNum
  scale : JsNum
  learnerVersion : String
  successRate : JsNum
  avgConfidence : JsNum
  avgROI : JsNum
  timestamp : JsNum
  ark95xNode : String
  deriving DecidableEq, Repr

/-- A `VerifyPayload` as the `Record<string, unknown>` that `verify` receives. -/
def VerifyPayload.toRecord (p : VerifyPayload) : JsRecord where
  props := [("iteration", .num p.iteration), ("scale", .num p.scale),
    ("learnerVersion", .str p.learnerVersion), ("successRate", .num p.successRate),
    ("avgConfidence", .num p.avgConfidence), ("avgROI", .num p.avgROI),
    ("timestamp", .num p.timestamp), ("ark95xNode", .str p.ark95xNode)]
  nodup := by
    show List.Nodup ["iteration", "scale", "learnerVersion", "successRate", "avgConfidence",
      "avgROI", "timestamp", "ark95xNode"]
    decide

namespace VERI3FY

/-- `new VERI3FY({ stages, threshold })`, as the loop builds it: `strictMode` keeps its
default `true`. -/
def create (stages threshold : ℚ) : VERI3FY := ⟨⟨stages, threshold, true⟩, 0, 0⟩

/-! ## Checks -/

/-- One check: when `bad` holds, push `msg` and fail the stage. -/
def check (bad : Bool) (msg : String) (r : List String × Bool) : List String × Bool :=
  if bad then (r.1 ++ [msg], false) else r

/-- A warning: when `bad` holds, push `msg` and leave the stage's outcome alone. -/
def warn (bad : Bool) (msg : String) (r : List String × Bool) : List String × Bool :=
  if bad then (r.1 ++ [msg], r.2) else r

/-- A check whose test and message may throw; the message is built only on a fault. -/
def checkE (bad : Except JsError Bool) (msg : Except JsError String)
    (r : List String × Bool) : Except JsError (List String × Bool) :=
  bad >>= fun b => if b then msg >>= fun m => pure (check true m r) else pure r

/-- A warning whose test and message may throw. -/
def warnE (bad : Except JsError Bool) (msg : Except JsError String)
    (r : List String × Bool) : Except JsError (List String × Bool) :=
  bad >>= fun b => if b then msg >>= fun m => pure (warn true m r) else pure r

/-- `typeof v !== 'number' || bad(v)`: the shape of the typed checks of stage 1. -/
def notNumberOr (v : JsVal) (bad : JsNum → Bool) : Bool :=
  match v with
  | .num n => bad n
  | _ => true

/-- `n < c` on a number. -/
def JsNum.lt (n : JsNum) (c : ℚ) : Bool := n.lessThan (.fin c) == some true

/-- `n <= c` on a number: `c < n` is `false` (not `undefined`). -/
def JsNum.le (n : JsNum) (c : ℚ) : Bool := JsNum.lessThan (.fin c) n == some false

/-! ## The stages -/

/-- `['iteration', 'scale', 'learnerVersion', 'timestamp', 'ark95xNode']`. -/
def required : List String := ["iteration", "scale", "learnerVersion", "timestamp", "ark95xNode"]

/-- `stage1_syntax`: the required fields are present, and four of them have their type
and range. -/
def stage1Syntax (p : JsRecord) (errors : List String) : List String × Bool :=
  let r := required.foldl (fun r field =>
    check (p.get field).isNullish ("STAGE1: Missing required field: " ++ field) r) (errors, true)
  let r := check (notNumberOr (p.get "iteration") (JsNum.lt · 0))
    "STAGE1: iteration must be a non-negative number" r
  let r := check (notNumberOr (p.get "scale") (JsNum.lt · 1)) "STAGE1: scale must be >= 1" r
  let r := check (match p.get "ark95xNode" with
      | .str s => !strIncludes s "ARK95X"
      | _ => true)
    "STAGE1: ark95xNode must contain \'ARK95X\' identifier" r
  check (notNumberOr (p.get "timestamp") (JsNum.le · 0))
    "STAGE1: timestamp must be a positive epoch ms value" r

/-- `payload[field] < 0 || payload[field] > 1` with its message, the range check of
stage 2. -/
def rangeCheck (p : JsRecord) (field : String) (r : List String × Bool) :
    Except JsError (List String × Bool) :=
  let v := p.get field
  checkE (jsOr (v.ltNum 0) (v.gtNum 1))
    (v.toStr >>= fun s => pure ("STAGE2: " ++ field ++ " out of range: " ++ s)) r

/-- `(ageMs / 1000).toFixed(1)`; a `BigInt` has no `toFixed`. -/
def ageSeconds : JsVal.Numeric → Except JsError String
  | .num n => pure (JsNum.toFixed 1 (n.div (.fin 1000)).toDouble)
  | .big _ => throw .typeError

/-- `stage2_logic`: the two ratios lie in `[0, 1]`, the timestamp is at most a minute
old, and the iteration is not negative. A negative `avgROI` only warns. -/
def stage2Logic (p : JsRecord) (now : ℚ) (errors : List String) :
    Except JsError (List String × Bool) := do
  let r ← rangeCheck p "successRate" (errors, true)
  let r ← rangeCheck p "avgConfidence" r
  let roi := p.get "avgROI"
  let r ← warnE (roi.ltNum 0)
    (roi.toStr >>= fun s => pure ("STAGE2: avgROI is negative (" ++ s ++ ") — underperforming")) r
  let ageMs ← JsVal.sub (.num (.fin now)) (p.get "timestamp")
  let r ← checkE (pure (JsVal.Numeric.lessThan (.num (.fin 60000)) ageMs == some true))
    (ageSeconds ageMs >>= fun s => pure ("STAGE2: Payload timestamp is stale (" ++ s ++ "s old)")) r
  pure (check (match p.get "iteration" with
      | .num n => JsNum.lt n 0
      | _ => false)
    "STAGE2: iteration cannot be negative" r)

/-- The node names of stage 3; a node is valid when it contains the part of one of them
before the first `-` (`n.split('-')[0]`). -/
def validNodes : List String :=
  ["SLVSS-ARK95X-v2", "PAXRuntime", "SovereignExtraction", "AutomationAPI"]

/-- `stage3_sovereignty`: an allow-listed node, enough confidence after warmup, no scale
regression after iteration 10, and a versioned learner. -/
def stage3Sovereignty (p : JsRecord) (errors : List String) :
    Except JsError (List String × Bool) := do
  let node := p.get "ark95xNode"
  let nodeValid ← (node.string >>= fun s =>
    pure (validNodes.any fun n => strIncludes s (String.mk (n.toList.takeWhile (· ≠ '-')))))
  let r ← checkE (pure !nodeValid)
    (node.toStr >>= fun s => pure ("STAGE3: Non-sovereign node detected: " ++ s)) (errors, true)
  let iter := p.get "iteration"
  let conf := p.get "avgConfidence"
  let r ← checkE (jsAnd (iter.gtNum 5) (conf.ltNum (f64 0.70)))
    (conf.toStr >>= fun s => pure ("STAGE3: Sovereignty confidence too low after warmup: " ++ s)) r
  let r ← checkE (jsAnd (iter.gtNum 10) ((p.get "scale").ltNum 1))
    (pure "STAGE3: Scale regression detected — sovereignty at risk") r
  let lv := p.get "learnerVersion"
  checkE (jsOr (pure !lv.truthy) (lv.string >>= fun s => pure !hasDigitDotDigit s.toList))
    (lv.toStr >>= fun s => pure ("STAGE3: Invalid learner version: " ++ s)) r

/-! ## `verify` -/

/-- The result `verify` computes from the stages and the configuration. The weights are
the literals `0.35` and `0.30`, and the threshold, the weights' sums and the products are
numbers of the language, so each is the double `f64` gives. -/
def runStages (c : VERI3FYConfig) (now : ℚ) (p : JsRecord) : Except JsError VERI3FYResult :=
  let (errors, s1) := stage1Syntax p []
  let stage1Score : ℚ := if s1 then f64 0.35 else 0
  if c.stages < 2 then
    pure ⟨s1, false, false, s1 && decide (f64 (f64 c.threshold * f64 0.35) ≤ stage1Score),
      stage1Score, errors⟩
  else do
    let (errors, s2) ← stage2Logic p now errors
    let stage2Score : ℚ := if s2 then f64 0.30 else 0
    if c.stages < 3 then
      let score := f64 (stage1Score + stage2Score)
      pure ⟨s1, s2, false, s1 && s2 && decide (f64 (f64 c.threshold * f64 0.65) ≤ score), score,
        errors⟩
    else do
      let (errors, s3) ← stage3Sovereignty p errors
      let stage3Score : ℚ := if s3 then f64 0.35 else 0
      let score := parseFixed 4 (f64 (f64 (stage1Score + stage2Score) + stage3Score))
      let passed := if c.strictMode then s1 && s2 && s3 && decide (f64 c.threshold ≤ score)
        else decide (f64 c.threshold ≤ score)
      pure ⟨s1, s2, s3, passed, score, errors⟩

/-- `verify(payload)`: the attempt is counted first, a pass after the result. -/
def verify (v : VERI3FY) (now : ℚ) (p : JsRecord) : Except JsError VERI3FYResult × VERI3FY :=
  let res := runStages v.config now p
  (res, { v with
    verifyCount := v.verifyCount + 1
    passCount := v.passCount + match res with
      | .ok r => if r.passed then 1 else 0
      | .error _ => 0 })

/-! ## Stats -/

/-- `get passRate()`: passes per attempt, `0` before the first attempt. -/
def passRate (v : VERI3FY) : ℚ :=
  if 0 < v.verifyCount then f64 (v.passCount / v.verifyCount) else 0

/-- What `get stats()` reports. -/
structure Stats where
  verifyCount : ℕ
  passCount : ℕ
  passRate : ℚ
  stages : ℚ
  threshold : ℚ
  deriving DecidableEq, Repr

/-- `get stats()`: the counters, `parseFloat(passRate.toFixed(4))` and the configuration. -/
def stats (v : VERI3FY) : Stats :=
  ⟨v.verifyCount, v.passCount, parseFixed 4 v.passRate, v.config.stages, v.config.threshold⟩

end VERI3FY

end SovereignLoop
