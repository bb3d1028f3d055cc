import SovereignLoop.Loop.Types

/-!
# `ScalingEngine`

The engine keeps one scale and two streak counters. Each `scale(input)` first recounts
the streaks from the last ten records of the loop's history, then applies the first rule
of its table that fires (scale up, decay, periodic boost) and logs the event in a
log of at most 50 entries. Every new scale is a product rounded to a double, clamped, and
rounded again with `parseFloat(x.toFixed(4))` (`parseFixed 4`). The policy's factors and
the score thresholds `0.85` and `0.95` are read as their doubles.
-/

namespace SovereignLoop

/-- `ScalePolicy`. The code reads the two factors as the doubles of the numbers given;
`maxScale`, the bound every new scale is clamped to and compared with, is kept as the
double it is. -/
structure ScalePolicy where
  growthFactor : ℚ
  maxScale : ℚ
  minPassStreak : ℚ
  decayOnFailure : Bool
  decayFactor : ℚ
  maxScale_double : f64 maxScale = maxScale

/-- The defaults of `new ScalingEngine()`, the policy the loop runs with. -/
def ScalePolicy.default : ScalePolicy where
  growthFactor := 1.25
  maxScale := 1024
  minPassStreak := 3
  decayOnFailure := true
  decayFactor := 0.9
  maxScale_double := by simpa using f64_two_pow 10

namespace ScalePolicy

@[simp] theorem default_growthFactor : default.growthFactor = 1.25 := rfl
@[simp] theorem default_maxScale : default.maxScale = 1024 := rfl
@[simp] theorem default_minPassStreak : default.minPassStreak = 3 := rfl
@[simp] theorem default_decayOnFailure : default.decayOnFailure = true := rfl
@[simp] theorem default_decayFactor : default.decayFactor = 0.9 := rfl

end ScalePolicy

/-- `ScaleInput`. -/
structure ScaleInput where
  score : ℚ
  iteration : ℚ
  history : List LoopIteration

/-- An entry of the engine's scale log. -/
structure ScaleEvent where
  iteration : ℚ
  scale : ℚ
  reason : String
  deriving DecidableEq, Repr

/-- A `ScalingEngine` instance. -/
structure ScalingEngine where
  policy : ScalePolicy
  currentScale : ℚ
  passStreak : ℕ
  failStreak : ℕ
  scaleHistory : List ScaleEvent

namespace ScalingEngine

/-- `new ScalingEngine(policy)`. -/
def create (policy : ScalePolicy) : ScalingEngine := ⟨policy, 1, 0, 0, []⟩

/-- The streak loop of `updateStreaks`, over the window's statuses newest first: a run
of passes counts while no failure was counted, and the other way round; any other
status, or the other kind of outcome after a count, ends the scan. -/
def countStreaks : List Status → ℕ → ℕ → ℕ × ℕ
  | [], p, f => (p, f)
  | s :: rest, p, f =>
    match s with
    | .passed | .scaled => if f = 0 then countStreaks rest (p + 1) f else (p, f)
    | .failed => if p = 0 then countStreaks rest p (f + 1) else (p, f)
    | .running => (p, f)

/-- `updateStreaks(history)`: an empty history leaves both streaks as they were. -/
def updateStreaks (e : ScalingEngine) (history : List LoopIteration) : ScalingEngine :=
  if history.length = 0 then e
  else
    let window := history.drop (history.length - 10)
    let (p, f) := countStreaks (window.map (·.status)).reverse 0 0
    { e with passStreak := p, failStreak := f }

/-- `scaleHistory.push(event)` with the shift past 50 entries. -/
def logEvent (log : List ScaleEvent) (ev : ScaleEvent) : List ScaleEvent :=
  let log := log ++ [ev]
  if log.length > 50 then log.tail else log

/-- The rule table of `scale`, after the streaks are recounted: the first rule that fires,
with its reason and the engine it leaves; `none` when no rule fires. -/
def scaleRule (e : ScalingEngine) (input : ScaleInput) : Option (String × ScalingEngine) :=
  let P := e.policy
  if P.minPassStreak ≤ e.passStreak ∧ f64 0.85 ≤ input.score ∧ e.currentScale < P.maxScale then
    some ("Pass streak " ++ toString e.passStreak ++ " + score " ++
        JsNum.toFixed 3 (.fin input.score) ++ " → scale up",
      { e with
        currentScale := parseFixed 4 (min (f64 (e.currentScale * f64 P.growthFactor)) P.maxScale)
        passStreak := 0 })
  else if P.decayOnFailure = true ∧ 3 ≤ e.failStreak ∧ 1 < e.currentScale then
    some ("Fail streak " ++ toString e.failStreak ++ " → scale decay",
      { e with currentScale := parseFixed 4 (max (f64 (e.currentScale * f64 P.decayFactor)) 1),
               failStreak := 0 })
  else if 0 < input.iteration ∧ jsRem input.iteration 10 = 0 ∧ f64 0.95 ≤ input.score then
    some ("Quantum boost at iteration " ++ JsNum.toStr (.fin input.iteration) ++ " (score=" ++
        JsNum.toFixed 3 (.fin input.score) ++ ")",
      { e with currentScale := parseFixed 4 (min (f64 (e.currentScale * 1.5)) P.maxScale) })
  else none

/-- `scale(input)`: recount the streaks, apply the rule table, and log a scaling event. -/
def scale (e : ScalingEngine) (input : ScaleInput) : ScalingResult × ScalingEngine :=
  let prev := e.currentScale
  let e := e.updateStreaks input.history
  match e.scaleRule input with
  | some (reason, e') =>
    (⟨true, prev, e'.currentScale, reason⟩,
      { e' with scaleHistory := logEvent e'.scaleHistory ⟨input.iteration, e'.currentScale, reason⟩ })
  | none => (⟨false, prev, e.currentScale, "No scaling event"⟩, e)

/-- `reset()`. -/
def reset (e : ScalingEngine) : ScalingEngine :=
  { e with currentScale := 1, passStreak := 0, failStreak := 0, scaleHistory := [] }

end ScalingEngine

end SovereignLoop
