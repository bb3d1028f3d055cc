import SovereignLoop.Loop.Runner

/-!
# The event loop around one runner

A `Sys` is a runner's world with the ticks in progress. What can happen next is an
`Event`: a call of `start()` or `stop()`, from other code or from a listener at a point of
a tick; a pending timer firing, which calls `tick()`; or a tick going on from its point,
with its listeners returning or throwing there. A listener is passed the tick's record at
`slvss:iteration:*`; the model lets it return or throw, never write to that record. Every
interleaving of these is a run, so the model has every placement of `start()` and `stop()`
relative to the points of the ticks in progress. `getState()` changes nothing: a snapshot
is `world.getState now` at any state of a run.

`SeqRun` is the sequential use the loop is written for: `start()`, `stop()` and timers only
between ticks, one tick at a time, and listeners that return. It records the iterations
the ticks push, in order.
-/

namespace SovereignLoop

/-- A runner's world and its ticks in progress. -/
structure Sys where
  world : World
  frames : List TickFrame

/-- What can happen next. -/
inductive Event where
  /-- `start()`, with the clock reading of its segment. -/
  | start (now : ℚ)
  /-- `stop()`. -/
  | stop
  /-- The pending timer `timer` fires and calls `tick()`. -/
  | fire (timer : ℕ) (now : ℚ)
  /-- The tick `frame` goes on from its point; `throws` says whether a listener there
  throws. -/
  | resume (frame : ℕ) (throws : Bool) (clk : Clock)

namespace Sys

/-- A new runner, with no tick in progress. -/
def create (config : LoopConfig) (now : ℚ) : Sys := ⟨World.create config now, []⟩

/-- A tick called in world `w`: its first segment runs at once, and the tick is in
progress if it stopped at a point. -/
def callTick (frames : List TickFrame) (w : World) (now : ℚ) : Sys :=
  let r := w.callTick now
  ⟨r.1, frames ++ r.2.toList⟩

/-- `start()`: a second call only logs; the first turns `running` on, takes the start time
and calls `tick()`. -/
def start (s : Sys) (now : ℚ) : Sys :=
  if s.world.running then s
  else callTick s.frames { s.world with running := true, startTime := now } now

variable (log2 : ℚ → ℚ)

/-- One event; `none` when it cannot happen (a timer that is not pending, a tick that is
not in progress). -/
def step (s : Sys) : Event → Option Sys
  | .start now => some (s.start now)
  | .stop => some { s with world := s.world.stop }
  | .fire t now =>
    if t ∈ s.world.timers then
      some (callTick s.frames { s.world with timers := s.world.timers.erase t } now)
    else none
  | .resume i throws clk =>
    (s.frames.get? i).map fun f =>
      let r := s.world.resume log2 f throws clk
      ⟨r.1, match r.2 with
        | some f' => s.frames.set i f'
        | none => s.frames.eraseIdx i⟩

/-- A sequence of events. -/
def run (s : Sys) (es : List Event) : Option Sys := es.foldlM (step log2) s

@[simp] theorem run_nil (s : Sys) : s.run log2 [] = some s := rfl

@[simp] theorem run_cons (s : Sys) (e : Event) (es : List Event) :
    s.run log2 (e :: es) = (s.step log2 e).bind fun s' => s'.run log2 es := rfl

/-- The one tick in progress goes on from its point. -/
theorem step_resume_zero (w : World) (f : TickFrame) (throws : Bool) (clk : Clock) :
    step log2 ⟨w, [f]⟩ (.resume 0 throws clk) =
      some ⟨(w.resume log2 f throws clk).1, (w.resume log2 f throws clk).2.toList⟩ := by
  simp only [step, List.get?_cons_zero, Option.map_some']
  cases (w.resume log2 f throws clk).2 <;> rfl

/-- The runs from a new runner. -/
inductive Reachable (config : LoopConfig) : Sys → Prop
  | create (now : ℚ) : Reachable config (create config now)
  | step {s s' : Sys} (e : Event) : Reachable config s → step log2 s e = some s' →
      Reachable config s'

/-- The iteration a step of a tick pushed to the history: a tick reaches its `done` log
right after the push. -/
def pushed : Option TickFrame → List LoopIteration
  | some (.body .logDone _ obj) => [obj]
  | _ => []

/-- The sequential runs from a new runner whose ticks take their clock readings in
`good`, with the iterations their ticks pushed. -/
inductive SeqRun (config : LoopConfig) (good : Clock → Prop) :
    Sys → List LoopIteration → Prop
  | create (now : ℚ) : SeqRun config good (create config now) []
  | start {w : World} {recs : List LoopIteration} (now : ℚ) :
      SeqRun config good ⟨w, []⟩ recs → SeqRun config good (start ⟨w, []⟩ now) recs
  | stop {w : World} {recs : List LoopIteration} :
      SeqRun config good ⟨w, []⟩ recs → SeqRun config good ⟨w.stop, []⟩ recs
  | fire {w : World} {recs : List LoopIteration} (t : ℕ) (now : ℚ) :
      SeqRun config good ⟨w, []⟩ recs → t ∈ w.timers →
        SeqRun config good (callTick [] { w with timers := w.timers.erase t } now) recs
  | resume {w : World} {f : TickFrame} {recs : List LoopIteration} (clk : Clock) :
      SeqRun config good ⟨w, [f]⟩ recs → good clk →
        SeqRun config good ⟨(w.resume log2 f false clk).1, (w.resume log2 f false clk).2.toList⟩
          (recs ++ pushed (w.resume log2 f false clk).2)

end Sys

end SovereignLoop
