import SovereignLoop.Loop.EventLoop
import SovereignLoop.Loop.Veri3fyTheorems

/-!
# Sequential runs of the loop

In a sequential run (`Sys.SeqRun`) at most one tick is in progress and its listeners
return. This file follows such a run point by point:

* `Inv` is what holds between ticks: the counters account for exactly the iterations the
  ticks pushed, which are the iterations `1 .. iteration` in order, the history is their
  last 100, every pushed record has a final status that agrees with its verification, and
  the iteration number stays below `maxIterations + 1`;
* `TickInv` is what holds at each point of a tick in progress, relative to the iterations
  pushed before it: before the verification result is applied the counters are those of
  the pushed iterations, after it they also count the record in progress, which is pushed
  at the end of the `try`;
* `TickInv.resume` is the step lemma (one case per point), and `SeqRun.seqInv` carries
  the invariant along every run.

From it: the counters and the history between ticks (`seqRun_between_ticks`), at most one
tick pending at any time (`seqRun_pending_le_one`), and what a `getState()` taken at any
point of a tick shows (`seqRun_snapshot`). The engines' calls never throw on the loop's
own inputs, so the `catch` block is unreachable in these runs.
-/

namespace SovereignLoop

/-! ## The engines return on the loop's own inputs -/

namespace LearningCore

theorem mapM_errorType_str (xs : List String) :
    ∃ ys, (xs.map JsVal.str).mapM errorType = .ok ys := by
  induction xs with
  | nil => exact ⟨[], rfl⟩
  | cons x xs ih =>
    obtain ⟨ys, h⟩ := ih
    exact ⟨_, by simp only [List.map_cons, List.mapM_cons, h, errorType]; rfl⟩

theorem ingest_ok_of_errorFeatures {c : LearningCore} {now : ℚ} {input : IngestInput}
    (h : ∃ ef, errorFeatures (input.data.get "errors") = .ok ef) :
    ∃ r, (c.ingest now input).1 = .ok r := by
  obtain ⟨ef, h⟩ := h
  simp only [ingest, extractFeatures, h]
  exact ⟨_, rfl⟩

/-- The failure ingest's data is the verification result, whose `errors` are strings. -/
theorem ingest_failure_ok (c : LearningCore) (now : ℚ) (v : VERI3FYResult) (i : ℚ) :
    ∃ r, (c.ingest now ⟨.failure, v.toRecord, i⟩).1 = .ok r := by
  refine ingest_ok_of_errorFeatures ?_
  obtain ⟨ys, h⟩ := mapM_errorType_str v.errors
  show ∃ ef, errorFeatures (.arr (v.errors.map JsVal.str)) = .ok ef
  simp only [errorFeatures]
  split_ifs
  · rw [h]; exact ⟨_, rfl⟩
  · exact ⟨_, rfl⟩

/-- The success ingest's data has no `errors`. -/
theorem ingest_success_ok (c : LearningCore) (now : ℚ) (v : VERI3FYResult) (scale i : ℚ) :
    ∃ r, (c.ingest now ⟨.success, World.successData v scale, i⟩).1 = .ok r :=
  ingest_ok_of_errorFeatures ⟨[], rfl⟩

end LearningCore

/-- `verify` returns on the payload the runner builds. -/
theorem World.verify_buildPayload_ok (w : World) (t n : ℚ) :
    ∃ v, (w.veri3fy.verify t (w.buildPayload n).toRecord).1 = .ok v :=
  VERI3FY.runStages_toRecord_ok _ _ _

/-! ## Counters and records -/

/-- The counters of a runner: passed, failed and generated, and the sums of confidences
and ROIs. -/
abbrev Tally := ℕ × ℕ × ℕ × ℚ × ℚ

namespace LoopIteration

/-- What a record counts for: passed or failed by its verification, its artifacts, its
confidence and its ROI. -/
def credit (r : LoopIteration) : Tally :=
  (if r.veri3fyResult.passed then 1 else 0, if r.veri3fyResult.passed then 0 else 1,
    r.generationResult.artifacts.length, r.confidence, r.roi)

/-- A pushed record's status is final and agrees with its verification: `failed` exactly
when it failed, `scaled` only when it passed and the engine scaled. -/
def Settled (r : LoopIteration) : Prop :=
  r.status ≠ .running ∧ (r.status = .failed ↔ r.veri3fyResult.passed = false) ∧
    (r.status = .scaled → r.veri3fyResult.passed = true ∧ r.scalingResult.scaled = true)

end LoopIteration

/-- The counters a list of pushed records accounts for. -/
def tallyOf (recs : List LoopIteration) : Tally := (recs.map LoopIteration.credit).sum

@[simp] theorem tallyOf_nil : tallyOf [] = 0 := rfl

@[simp] theorem tallyOf_cons (r : LoopIteration) (recs : List LoopIteration) :
    tallyOf (r :: recs) = r.credit + tallyOf recs := by
  simp [tallyOf]

@[simp] theorem tallyOf_append (recs : List LoopIteration) (r : LoopIteration) :
    tallyOf (recs ++ [r]) = tallyOf recs + r.credit := by
  simp [tallyOf]

/-- Passed and failed add up to the number of records; the other counters are sums over
them. -/
theorem tallyOf_components (recs : List LoopIteration) :
    (tallyOf recs).1 + (tallyOf recs).2.1 = recs.length ∧
    (tallyOf recs).2.2.1 = (recs.map (·.generationResult.artifacts.length)).sum ∧
    (tallyOf recs).2.2.2.1 = (recs.map (·.confidence)).sum ∧
    (tallyOf recs).2.2.2.2 = (recs.map (·.roi)).sum := by
  induction recs with
  | nil => simp
  | cons r recs ih =>
    simp only [tallyOf_cons, Prod.fst_add, Prod.snd_add, LoopIteration.credit, List.map_cons,
      List.sum_cons, List.length_cons, ih.2.1, ih.2.2.1, ih.2.2.2, and_true]
    split <;> omega

/-- A settled record passed exactly when its status is `passed` or `scaled`. -/
theorem LoopIteration.Settled.passed_iff {r : LoopIteration} (h : r.Settled) :
    r.veri3fyResult.passed = true ↔ r.status = .passed ∨ r.status = .scaled := by
  obtain ⟨hr, hf, -⟩ := h
  cases hs : r.status <;> simp_all

/-- Over settled records, the passed counter counts the `passed` and `scaled` ones. -/
theorem tallyOf_passed {recs : List LoopIteration} (hs : ∀ r ∈ recs, r.Settled) :
    (tallyOf recs).1 = recs.countP (fun r => r.status = .passed ∨ r.status = .scaled) := by
  induction recs with
  | nil => rfl
  | cons r recs ih =>
    simp only [List.forall_mem_cons] at hs
    simp only [tallyOf_cons, Prod.fst_add, LoopIteration.credit, List.countP_cons,
      ih hs.2, ← hs.1.passed_iff]
    split <;> simp_all [Nat.add_comm]

/-- The last 100 records, the window the runner keeps. -/
def window (recs : List LoopIteration) : List LoopIteration := recs.drop (recs.length - 100)

/-- Pushing onto the window and shifting past 100 is the window of the longer list. -/
theorem window_push (recs : List LoopIteration) (r : LoopIteration) :
    (if 100 < (window recs ++ [r]).length then (window recs ++ [r]).tail
      else window recs ++ [r]) = window (recs ++ [r]) := by
  unfold window
  have hk : (recs ++ [r]).length - 100 ≤ recs.length := by simp
  rw [List.drop_append_of_le_length hk]
  simp only [List.length_append, List.length_drop, List.length_singleton]
  split
  · rw [List.tail_append_of_ne_nil (by simp; omega), List.tail_drop]
    congr 2
    omega
  · rw [show recs.length + 1 - 100 = recs.length - 100 by omega]

namespace World

/-- The runner's counters. -/
def tally (w : World) : Tally :=
  (w.totalPassed, w.totalFailed, w.totalGenerated, w.confidenceSum, w.roiSum)

/-- Between ticks: the counters account for the pushed iterations, which are `1 ..
iteration` in order and settled, the history is their last 100, and the iteration number
stays below `maxIterations + 1`. -/
structure Inv (config : LoopConfig) (w : World) (recs : List LoopIteration) : Prop where
  config_eq : w.config = config
  iteration_eq : w.iteration = recs.length
  ids : recs.map (·.id) = List.range' 1 recs.length
  history_eq : w.history = window recs
  settled : ∀ r ∈ recs, r.Settled
  tally_eq : w.tally = tallyOf recs
  below_max : 0 < config.maxIterations → (w.iteration : ℚ) < config.maxIterations + 1

/-- Between ticks the timers are in order: none while stopped, and at most the one the
runner set last. -/
def TimersOk (w : World) : Prop :=
  (w.running = false → w.timers = []) ∧ (w.timers = [] ∨ ∃ t, w.timers = [t] ∧ w.loopTimer = some t)

/-- During a tick, relative to the iterations pushed before it: the runner counts this
iteration, whose record `obj` is not pushed yet; the runner is running with no timer
pending. -/
structure InFlight (config : LoopConfig) (recs : List LoopIteration) (w : World)
    (obj : LoopIteration) : Prop where
  config_eq : w.config = config
  iteration_eq : w.iteration = recs.length + 1
  id_eq : obj.id = recs.length + 1
  running : w.running = true
  timers : w.timers = []
  history_eq : w.history = window recs
  ids : recs.map (·.id) = List.range' 1 recs.length
  settled : ∀ r ∈ recs, r.Settled
  below_max : 0 < config.maxIterations → (w.iteration : ℚ) < config.maxIterations + 1

/-- The same facts for a world and a record that differ only in what they do not read. -/
theorem InFlight.congr {config : LoopConfig} {recs : List LoopIteration} {w w' : World}
    {obj obj' : LoopIteration} (h : InFlight config recs w obj) (hc : w'.config = w.config)
    (hi : w'.iteration = w.iteration) (hr : w'.running = w.running) (ht : w'.timers = w.timers)
    (hh : w'.history = w.history) (ho : obj'.id = obj.id) : InFlight config recs w' obj' :=
  ⟨hc.trans h.config_eq, hi.trans h.iteration_eq, ho.trans h.id_eq, hr.trans h.running,
    ht.trans h.timers, hh.trans h.history_eq, h.ids, h.settled, hi ▸ h.below_max⟩

/-- A record the tick has verified as passed: its status is `running`, or `scaled` after a
scale-up. -/
def Passing (obj : LoopIteration) : Prop :=
  obj.veri3fyResult.passed = true ∧
    (obj.status = .running ∨ obj.status = .scaled ∧ obj.scalingResult.scaled = true)

/-- What each point of a tick adds to `InFlight`: how the counters stand, the record as
the code has built it so far, and that each awaited call has returned. -/
def PcInv (recs : List LoopIteration) (w : World) (obj : LoopIteration) : TickPc → Prop
  | .logIteration | .emitStart | .logVerify =>
    w.tally = tallyOf recs ∧ obj.status = .running ∧ obj.confidence = 0 ∧ obj.roi = 0 ∧
      obj.generationResult.artifacts = []
  | .awaitVerify r =>
    (∃ v, r = .ok v) ∧ w.tally = tallyOf recs ∧ obj.status = .running ∧
      obj.confidence = 0 ∧ obj.roi = 0 ∧ obj.generationResult.artifacts = []
  | .logFailed | .logIngestedFailure | .emitFailed =>
    w.tally = tallyOf recs + obj.credit ∧ obj.veri3fyResult.passed = false ∧
      obj.status = .failed
  | .awaitIngestFailure r =>
    (∃ l, r = .ok l) ∧ w.tally = tallyOf recs + obj.credit ∧
      obj.veri3fyResult.passed = false ∧ obj.status = .failed
  | .logPassed | .logScaling | .awaitScale _ =>
    w.tally = tallyOf recs + obj.credit ∧ obj.veri3fyResult.passed = true ∧
      obj.status = .running ∧ obj.roi = 0 ∧ obj.generationResult.artifacts = []
  | .logScaled | .logGenerate | .awaitGenerate _ =>
    w.tally = tallyOf recs + obj.credit ∧ Passing obj ∧ obj.roi = 0 ∧
      obj.generationResult.artifacts = []
  | .logGenerated | .logLearned => w.tally = tallyOf recs + obj.credit ∧ Passing obj
  | .awaitIngestSuccess r => (∃ l, r = .ok l) ∧ w.tally = tallyOf recs + obj.credit ∧ Passing obj
  | .emitPassed => w.tally = tallyOf recs + obj.credit ∧ obj.Settled
  | .logException | .emitError => False
  | .logDone | .emitComplete => True

/-- Where a sequential tick stands: at the max-iterations stop or after the push, the
invariant between ticks holds; elsewhere the record is in flight. -/
def TickInv (config : LoopConfig) (recs : List LoopIteration) (w : World) : TickFrame → Prop
  | .reachedMax => Inv config w recs ∧ w.running = true ∧ w.timers = []
  | .body .logDone _ _ | .body .emitComplete _ _ =>
    Inv config w recs ∧ w.running = true ∧ w.timers = []
  | .body pc _ obj => InFlight config recs w obj ∧ PcInv recs w obj pc

/-! ## One step of a sequential tick -/

variable {config : LoopConfig} {recs : List LoopIteration} {w : World}

/-- With listeners that return, a tick goes on by `advance`. -/
@[simp] theorem resume_body (log2 : ℚ → ℚ) (pc : TickPc) (iterStart : ℚ) (obj : LoopIteration)
    (clk : Clock) : w.resume log2 (.body pc iterStart obj) false clk = w.advance log2 pc iterStart obj clk := by
  simp [resume]

/-- The invariant only reads the configuration, the iteration number, the history and the
counters. -/
theorem Inv.congr {w' : World} (h : Inv config w recs) (hc : w'.config = w.config)
    (hi : w'.iteration = w.iteration) (hh : w'.history = w.history) (ht : w'.tally = w.tally) :
    Inv config w' recs :=
  ⟨hc.trans h.config_eq, hi.trans h.iteration_eq, h.ids, hh.trans h.history_eq, h.settled,
    ht.trans h.tally_eq, hi ▸ h.below_max⟩

theorem Inv.create (config : LoopConfig) (now : ℚ) : Inv config (World.create config now) [] :=
  ⟨rfl, rfl, rfl, rfl, by simp, rfl, fun h => by simp only [World.create, Nat.cast_zero]; linarith⟩

theorem Inv.stop (h : Inv config w recs) : Inv config w.stop recs := h.congr rfl rfl rfl rfl

theorem TimersOk.stop (h : TimersOk w) : TimersOk w.stop := by
  refine ⟨fun _ => ?_, .inl ?_⟩ <;>
  · rcases h.2 with h' | ⟨t, ht, hl⟩
    · simp only [World.stop, h']; split <;> rfl
    · simp [World.stop, ht, hl]

/-- A tick called while running, with no timer pending, starts in `TickInv`. -/
theorem Inv.callTick (h : Inv config w recs) (hr : w.running = true) (ht : w.timers = [])
    (now : ℚ) : ∃ f, (w.callTick now).2 = some f ∧ TickInv config recs (w.callTick now).1 f := by
  unfold World.callTick
  simp only [hr, Bool.not_true, Bool.false_eq_true, if_false]
  split
  · exact ⟨_, rfl, h, hr, ht⟩
  · rename_i hmax
    refine ⟨_, rfl, ⟨h.config_eq, by simp [h.iteration_eq], by simp [newIteration, h.iteration_eq],
      rfl, ht, h.history_eq, h.ids, h.settled, fun hpos => ?_⟩, ?_⟩
    · have : (w.iteration : ℚ) < config.maxIterations := by
        rw [← h.config_eq] at hpos ⊢; exact lt_of_not_le fun hle => hmax ⟨hpos, hle⟩
      push_cast
      linarith
    · exact ⟨h.tally_eq, rfl, rfl, rfl, rfl⟩

theorem tally_eq_iff {T : Tally} :
    w.tally = T ↔ w.totalPassed = T.1 ∧ w.totalFailed = T.2.1 ∧ w.totalGenerated = T.2.2.1 ∧
      w.confidenceSum = T.2.2.2.1 ∧ w.roiSum = T.2.2.2.2 := by
  simp [World.tally, Prod.ext_iff]

/-- Where a step of a sequential tick leads: the tick goes on in `TickInv`, with the
iteration it pushed, or it is over and the runner is between ticks. -/
def After (config : LoopConfig) (recs : List LoopIteration) (r : World × Option TickFrame) :
    Prop :=
  match r.2 with
  | some f => TickInv config (recs ++ Sys.pushed r.2) r.1 f
  | none => Inv config r.1 recs ∧ TimersOk r.1

section Steps

variable {obj : LoopIteration} {iterStart : ℚ}

/-- The push at the end of the `try`, of a settled record the counters already count. -/
theorem InFlight.finalize (h : InFlight config recs w obj)
    (ht : w.tally = tallyOf recs + obj.credit) (hs : obj.Settled) (now : ℚ) :
    After config recs (w.finalize iterStart obj now) := by
  refine ⟨⟨h.config_eq, ?_, ?_, ?_, ?_, ?_, h.below_max⟩, h.running, h.timers⟩
  · simp [World.finalize, h.iteration_eq, Sys.pushed]
  · simp only [World.finalize, Sys.pushed, List.map_append, h.ids, List.length_append,
      List.length_singleton, List.map_cons, List.map_nil, h.id_eq, List.range'_concat]
    congr 2; omega
  · simp only [World.finalize, Sys.pushed, h.history_eq]
    exact window_push _ _
  · simp only [World.finalize, Sys.pushed, List.mem_append, List.mem_singleton]
    rintro r (hr | rfl)
    · exact h.settled r hr
    · exact hs
  · simp only [World.finalize, Sys.pushed, tallyOf_append]
    exact ht

/-- The success ingest, on a passing record. -/
theorem InFlight.learnSuccess (h : InFlight config recs w obj)
    (ht : w.tally = tallyOf recs + obj.credit) (hp : Passing obj) (now : ℚ) :
    After config recs (w.learnSuccess iterStart obj now) := by
  simp only [After, World.learnSuccess, Sys.pushed, List.append_nil]
  exact ⟨h.congr rfl rfl rfl rfl rfl rfl, LearningCore.ingest_success_ok _ _ _ _ _, ht, hp⟩

/-- The phases after scaling, on a passing record not generated for yet. -/
theorem InFlight.afterScaling (h : InFlight config recs w obj)
    (ht : w.tally = tallyOf recs + obj.credit) (hp : Passing obj) (hr : obj.roi = 0)
    (hg : obj.generationResult.artifacts = []) (now : ℚ) :
    After config recs (w.afterScaling iterStart obj now) := by
  unfold World.afterScaling
  split
  · simp only [After, Sys.pushed, List.append_nil]
    exact ⟨h, ht, hp, hr, hg⟩
  · exact h.learnSuccess ht hp now

/-- The step lemma: from every point of a sequential tick, with listeners that return, the
next point is in `TickInv` again, or the tick is over between ticks. -/
theorem TickInv.resume (log2 : ℚ → ℚ) {f : TickFrame} (h : TickInv config recs w f)
    (clk : Clock) : After config recs (w.resume log2 f false clk) := by
  cases f with
  | reachedMax =>
    obtain ⟨hi, -, ht⟩ := h
    have hs : w.stop.timers = [] := by simp only [World.stop, ht]; split <;> rfl
    exact ⟨hi.stop, fun _ => hs, .inl hs⟩
  | body pc iterStart obj =>
    rw [resume_body]
    cases pc with
    | logIteration | emitStart | logIngestedFailure | logException | logDone =>
      first
      | exact h.2.elim
      | simp only [advance, After, Sys.pushed, List.append_nil]; exact h
    | logVerify =>
      simp only [advance, After, Sys.pushed, List.append_nil]
      exact ⟨h.1.congr rfl rfl rfl rfl rfl rfl, verify_buildPayload_ok w _ _, h.2⟩
    | awaitVerify r =>
      obtain ⟨h, ⟨v, rfl⟩, ht, hs, hc, hr, hg⟩ := h
      simp only [advance]
      obtain ⟨h1, h2, h3, h4, h5⟩ := tally_eq_iff.mp ht
      split
      · rename_i hv
        simp only [After, Sys.pushed, List.append_nil]
        refine ⟨h.congr rfl rfl rfl rfl rfl rfl, ?_, hv, hs, hr, hg⟩
        simp only [tally_eq_iff, Prod.fst_add, Prod.snd_add, LoopIteration.credit, hv, if_true,
          hr, hg, List.length_nil, h1, h2, h3, h4, h5, add_zero, and_self]
      · rename_i hv
        simp only [Bool.not_eq_true] at hv
        simp only [After, Sys.pushed, List.append_nil]
        refine ⟨h.congr rfl rfl rfl rfl rfl rfl, ?_, hv, rfl⟩
        simp only [tally_eq_iff, Prod.fst_add, Prod.snd_add, LoopIteration.credit, hv,
          Bool.false_eq_true, if_false, hr, hg, List.length_nil, h1, h2, h3, h4, h5, add_zero,
          and_self]
    | logFailed =>
      simp only [advance]
      split
      · simp only [After, Sys.pushed, List.append_nil]
        exact ⟨h.1.congr rfl rfl rfl rfl rfl rfl, LearningCore.ingest_failure_ok _ _ _ _, h.2⟩
      · simp only [After, Sys.pushed, List.append_nil]
        exact h
    | awaitIngestFailure r =>
      obtain ⟨h, ⟨l, rfl⟩, hrest⟩ := h
      simp only [advance, After, Sys.pushed, List.append_nil]
      exact ⟨h.congr rfl rfl rfl rfl rfl rfl, hrest⟩
    | emitFailed => exact h.1.finalize h.2.1 ⟨by simp [h.2.2.2], by simp [h.2.2], by simp [h.2.2.2]⟩ _
    | logPassed =>
      obtain ⟨h, ht, hp, hs, hr, hg⟩ := h
      simp only [advance]
      split
      · simp only [After, Sys.pushed, List.append_nil]
        exact ⟨h, ht, hp, hs, hr, hg⟩
      · exact h.afterScaling ht ⟨hp, .inl hs⟩ hr hg _
    | logScaling =>
      simp only [advance, After, Sys.pushed, List.append_nil]
      exact ⟨h.1.congr rfl rfl rfl rfl rfl rfl, h.2⟩
    | awaitScale r =>
      obtain ⟨h, ht, hp, hs, hr, hg⟩ := h
      simp only [advance]
      split
      · simp only [After, Sys.pushed, List.append_nil]
        exact ⟨h.congr rfl rfl rfl rfl rfl rfl, ht, ⟨hp, .inr ⟨rfl, ‹_›⟩⟩, hr, hg⟩
      · have h' : InFlight config recs w { obj with scalingResult := r } :=
          h.congr rfl rfl rfl rfl rfl rfl
        exact h'.afterScaling ht ⟨hp, .inl hs⟩ hr hg _
    | logScaled =>
      obtain ⟨h, ht, hp, hr, hg⟩ := h
      exact h.afterScaling ht hp hr hg _
    | logGenerate =>
      simp only [advance, After, Sys.pushed, List.append_nil]
      exact ⟨h.1.congr rfl rfl rfl rfl rfl rfl, h.2⟩
    | awaitGenerate g =>
      obtain ⟨h, ht, hp, hr, hg⟩ := h
      simp only [advance, After, Sys.pushed, List.append_nil]
      refine ⟨h.congr rfl rfl rfl rfl rfl rfl, ?_, hp⟩
      obtain ⟨h1, h2, h3, h4, h5⟩ := tally_eq_iff.mp ht
      simp only [tally_eq_iff, Prod.fst_add, Prod.snd_add, LoopIteration.credit, hr, hg,
        List.length_nil, h1, h2, h3, h4, h5, add_zero, and_self]
    | logGenerated => exact h.1.learnSuccess h.2.1 h.2.2 _
    | awaitIngestSuccess r =>
      obtain ⟨h, ⟨l, rfl⟩, hrest⟩ := h
      simp only [advance, After, Sys.pushed, List.append_nil]
      exact ⟨h.congr rfl rfl rfl rfl rfl rfl, hrest⟩
    | logLearned =>
      obtain ⟨h, ht, hp, hs⟩ := h
      simp only [advance, After, Sys.pushed, List.append_nil]
      split
      · exact ⟨h.congr rfl rfl rfl rfl rfl rfl, ht, by simp, by simp [hp], by simp⟩
      · rcases hs with hs | ⟨hs, hsc⟩
        · contradiction
        · exact ⟨h, ht, by simp [hs], by simp [hs, hp], fun _ => ⟨hp, hsc⟩⟩
    | emitPassed => exact h.1.finalize h.2.1 h.2.2 _
    | emitError => exact h.2.elim
    | emitComplete =>
      obtain ⟨hi, hr, ht⟩ := h
      simp only [advance, After, hr, if_true]
      exact ⟨hi.congr rfl rfl rfl rfl, fun h => by simp [World.setTimer, hr] at h,
        .inr ⟨w.nextTimer, by simp [World.setTimer, ht], rfl⟩⟩

end Steps

/-! ## What a snapshot can see -/

theorem passed_add_failed {xs : List LoopIteration} (h : w.tally = tallyOf xs) :
    w.totalPassed + w.totalFailed = xs.length := by
  have := (tallyOf_components xs).1
  rw [← h] at this
  exact this

theorem Inv.counts (h : Inv config w recs) :
    recs.map (·.id) = List.range' 1 recs.length ∧
      (w.iteration = recs.length ∨ w.iteration = recs.length + 1) ∧
      recs.length ≤ w.totalPassed + w.totalFailed ∧
      w.totalPassed + w.totalFailed ≤ w.iteration ∧ w.history = window recs := by
  have hpf := passed_add_failed h.tally_eq
  have hn := h.iteration_eq
  exact ⟨h.ids, .inl hn, hpf.ge, by omega, h.history_eq⟩

theorem InFlight.counts {obj : LoopIteration} (h : InFlight config recs w obj)
    (ht : w.tally = tallyOf recs ∨ w.tally = tallyOf recs + obj.credit) :
    recs.map (·.id) = List.range' 1 recs.length ∧
      (w.iteration = recs.length ∨ w.iteration = recs.length + 1) ∧
      recs.length ≤ w.totalPassed + w.totalFailed ∧
      w.totalPassed + w.totalFailed ≤ w.iteration ∧ w.history = window recs := by
  have hpf : w.totalPassed + w.totalFailed = recs.length ∨
      w.totalPassed + w.totalFailed = recs.length + 1 := by
    rcases ht with ht | ht
    · exact .inl (passed_add_failed ht)
    · rw [← tallyOf_append] at ht
      exact .inr (by simpa using passed_add_failed ht)
  have := h.iteration_eq
  exact ⟨h.ids, .inr this, by omega, by omega, h.history_eq⟩

/-- Every point of a tick short of the push says how the counters stand. -/
theorem PcInv.tally {obj : LoopIteration} {pc : TickPc} (h : PcInv recs w obj pc)
    (hpc : pc ≠ .logDone ∧ pc ≠ .emitComplete) :
    w.tally = tallyOf recs ∨ w.tally = tallyOf recs + obj.credit := by
  cases pc <;>
    first
    | exact .inl h.1 | exact .inr h.1 | exact .inl h.2.1 | exact .inr h.2.1 | exact h.elim
    | exact absurd rfl hpc.1 | exact absurd rfl hpc.2

theorem TickInv.counts {f : TickFrame} (h : TickInv config recs w f) :
    recs.map (·.id) = List.range' 1 recs.length ∧
      (w.iteration = recs.length ∨ w.iteration = recs.length + 1) ∧
      recs.length ≤ w.totalPassed + w.totalFailed ∧
      w.totalPassed + w.totalFailed ≤ w.iteration ∧ w.history = window recs := by
  cases f with
  | reachedMax => exact h.1.counts
  | body pc _ obj =>
    cases pc <;> first | exact h.1.counts | exact h.1.counts (h.2.tally ⟨nofun, nofun⟩)

/-- During a tick no timer is pending. -/
theorem TickInv.timers_eq_nil {f : TickFrame} (h : TickInv config recs w f) : w.timers = [] := by
  cases f with
  | reachedMax => exact h.2.2
  | body pc _ _ => cases pc <;> first | exact h.2.2 | exact h.1.timers

end World

/-! ## The points of a tick come in order -/

/-- How many points a tick can still pass, at most: the code reaches its points in this
order. -/
def TickPc.rank : TickPc → ℕ
  | .logIteration => 21
  | .emitStart => 20
  | .logVerify => 19
  | .awaitVerify _ => 18
  | .logFailed => 17
  | .awaitIngestFailure _ => 16
  | .logIngestedFailure => 15
  | .emitFailed => 14
  | .logPassed => 13
  | .logScaling => 12
  | .awaitScale _ => 11
  | .logScaled => 10
  | .logGenerate => 9
  | .awaitGenerate _ => 8
  | .logGenerated => 7
  | .awaitIngestSuccess _ => 6
  | .logLearned => 5
  | .emitPassed => 4
  | .logException => 3
  | .emitError => 2
  | .logDone => 1
  | .emitComplete => 0

/-- The rank of a tick in progress. -/
def TickFrame.rank : TickFrame → ℕ
  | .reachedMax => 0
  | .body pc _ _ => pc.rank

/-- Every point of a tick has rank at most `21`. -/
theorem TickFrame.rank_le (f : TickFrame) : f.rank ≤ 21 := by
  rcases f with _ | ⟨pc, _, _⟩ <;> try cases pc
  all_goals simp [TickFrame.rank, TickPc.rank]

namespace World

variable (log2 : ℚ → ℚ) {w : World} {clk : Clock}

/-- Each step of a tick moves to a later point, or ends the tick. -/
theorem advance_rank {pc : TickPc} {iterStart : ℚ} {obj : LoopIteration} {f : TickFrame}
    (h : (w.advance log2 pc iterStart obj clk).2 = some f) : f.rank < pc.rank := by
  unfold advance at h
  split at h <;>
    simp only [finalize, catchFault, afterScaling, learnSuccess, apply_ite Prod.snd] at h <;>
    (repeat' split at h) <;> (cases h <;> exact of_decide_eq_true rfl)

/-- A tick never changes the iteration number after its first segment. -/
theorem advance_iteration {pc : TickPc} {iterStart : ℚ} {obj : LoopIteration} :
    (w.advance log2 pc iterStart obj clk).1.iteration = w.iteration := by
  unfold advance
  split <;> simp only [finalize, catchFault, afterScaling, learnSuccess] <;> (repeat' split) <;> rfl

theorem resume_rank {f f' : TickFrame} (h : (w.resume log2 f false clk).2 = some f') :
    f'.rank < f.rank := by
  cases f with
  | reachedMax => simp [resume] at h
  | body pc iterStart obj => rw [resume_body] at h; exact advance_rank log2 h

theorem resume_iteration {f : TickFrame} :
    (w.resume log2 f false clk).1.iteration = w.iteration := by
  cases f with
  | reachedMax => rfl
  | body pc iterStart obj => rw [resume_body]; exact advance_iteration log2

/-! ## What a snapshot can see during a tick -/

variable {config : LoopConfig} {recs : List LoopIteration}

/-- Up to the `await` of `verify` the counters are those of the pushed records. -/
theorem PcInv.tally_of_verifying {obj : LoopIteration} {pc : TickPc} (h : PcInv recs w obj pc)
    (hr : 18 ≤ pc.rank) : w.tally = tallyOf recs := by
  cases pc
  case logIteration | emitStart | logVerify => exact h.1
  case awaitVerify => exact h.2.1
  all_goals simp only [TickPc.rank] at hr; omega

/-- From the verification result to the push the counters count the record in flight. -/
theorem PcInv.tally_of_counted {obj : LoopIteration} {pc : TickPc} (h : PcInv recs w obj pc)
    (h₁ : 2 ≤ pc.rank) (h₂ : pc.rank < 18) : w.tally = tallyOf (recs ++ [obj]) := by
  rw [tallyOf_append]
  cases pc
  case logFailed | logIngestedFailure | emitFailed | logPassed | logScaling | awaitScale
    | logScaled | logGenerate | awaitGenerate | logGenerated | logLearned | emitPassed => exact h.1
  case awaitIngestFailure | awaitIngestSuccess => exact h.2.1
  case logException | emitError => exact h.elim
  all_goals simp only [TickPc.rank] at h₁ h₂; omega

/-- Short of the push the record is in flight. -/
theorem TickInv.inFlight {pc : TickPc} {iterStart : ℚ} {obj : LoopIteration}
    (h : TickInv config recs w (.body pc iterStart obj)) (hr : 2 ≤ pc.rank) :
    InFlight config recs w obj ∧ PcInv recs w obj pc := by
  cases pc
  case logDone | emitComplete => simp only [TickPc.rank] at hr; omega
  all_goals exact h

/-- After the push the invariant between ticks holds. -/
theorem TickInv.inv_of_pushed {pc : TickPc} {iterStart : ℚ} {obj : LoopIteration}
    (h : TickInv config recs w (.body pc iterStart obj)) (hr : pc.rank < 2) : Inv config w recs := by
  cases pc
  case logDone | emitComplete => exact h.1
  all_goals simp only [TickPc.rank] at hr; omega

/-- How the iteration number and the counters stand at each point of a tick: up to the
`await` of `verify` the iteration is counted but no result; from the result to the push
both are; after the push the pushed records account for both. -/
theorem TickInv.body_counts {pc : TickPc} {iterStart : ℚ} {obj : LoopIteration}
    (h : TickInv config recs w (.body pc iterStart obj)) :
    (18 ≤ pc.rank →
      w.iteration = recs.length + 1 ∧ w.totalPassed + w.totalFailed = recs.length) ∧
    (2 ≤ pc.rank → pc.rank < 18 →
      w.iteration = recs.length + 1 ∧ w.totalPassed + w.totalFailed = recs.length + 1) ∧
    (pc.rank < 2 → w.iteration = recs.length ∧ w.totalPassed + w.totalFailed = recs.length) := by
  refine ⟨fun hr => ?_, fun h₁ h₂ => ?_, fun hr => ?_⟩
  · obtain ⟨hf, hp⟩ := h.inFlight (by omega)
    exact ⟨hf.iteration_eq, passed_add_failed (hp.tally_of_verifying hr)⟩
  · obtain ⟨hf, hp⟩ := h.inFlight h₁
    rw [passed_add_failed (hp.tally_of_counted h₁ h₂), List.length_append, List.length_singleton]
    exact ⟨hf.iteration_eq, rfl⟩
  · have hi := h.inv_of_pushed hr
    exact ⟨hi.iteration_eq, passed_add_failed hi.tally_eq⟩

end World

/-! ## Whole sequential runs -/

theorem drop_range' (s n k : ℕ) : (List.range' s n).drop k = List.range' (s + k) (n - k) := by
  induction k generalizing s n with
  | zero => rfl
  | succ k ih =>
    cases n with
    | zero => simp
    | succ n => simp only [List.range'_succ, List.drop_succ_cons, ih]; congr 1 <;> omega

namespace Sys

/-- The invariant of a sequential run: between ticks `Inv` and `TimersOk`; during its one
tick, `TickInv` at the tick's point. -/
def SeqInv (config : LoopConfig) (recs : List LoopIteration) : Sys → Prop
  | ⟨w, []⟩ => World.Inv config w recs ∧ World.TimersOk w
  | ⟨w, [f]⟩ => World.TickInv config recs w f
  | _ => False

variable {config : LoopConfig} {recs : List LoopIteration} {w : World}

theorem seqInv_after {r : World × Option TickFrame} (h : World.After config recs r) :
    SeqInv config (recs ++ pushed r.2) ⟨r.1, r.2.toList⟩ := by
  obtain ⟨w, _ | f⟩ := r
  · show SeqInv config (recs ++ []) ⟨w, []⟩
    rw [List.append_nil]
    exact h
  · exact h

theorem seqInv_callTick (h : World.Inv config w recs) (hr : w.running = true)
    (ht : w.timers = []) (now : ℚ) : SeqInv config recs (Sys.callTick [] w now) := by
  obtain ⟨f, hf, hinv⟩ := h.callTick hr ht now
  simp only [Sys.callTick, hf, Option.toList, List.nil_append]
  exact hinv

variable (log2 : ℚ → ℚ) {good : Clock → Prop} {s : Sys}

/-- The run lemma: every state of a sequential run satisfies `SeqInv` for the iterations
pushed so far. -/
theorem SeqRun.seqInv (h : SeqRun log2 config good s recs) : SeqInv config recs s := by
  induction h with
  | create now => exact ⟨.create config now, fun _ => rfl, .inl rfl⟩
  | @start w recs now _ ih =>
    obtain ⟨hi, ht⟩ := ih
    unfold Sys.start
    split
    · exact ⟨hi, ht⟩
    · rename_i hr
      exact seqInv_callTick (w := { w with running := true, startTime := now })
        (hi.congr rfl rfl rfl rfl) rfl (ht.1 (by simpa using hr)) now
  | stop _ ih => exact ⟨ih.1.stop, ih.2.stop⟩
  | @fire w recs t now _ hmem ih =>
    obtain ⟨hi, hoff, hone⟩ := ih
    have hr : w.running = true := by
      cases hw : w.running
      · simp [hoff hw] at hmem
      · rfl
    have ht : w.timers.erase t = [] := by
      rcases hone with h0 | ⟨t', h1, -⟩
      · simp [h0] at hmem
      · rw [h1] at hmem ⊢
        rw [List.mem_singleton.mp hmem, List.erase_cons_head]
    exact seqInv_callTick (w := { w with timers := w.timers.erase t }) (hi.congr rfl rfl rfl rfl)
      hr ht now
  | resume clk _ _ ih => exact seqInv_after (World.TickInv.resume log2 ih clk)

/-- What the invariant of a sequential run says about the counters and the history, at
any state. -/
theorem SeqInv.counts (h : SeqInv config recs s) :
    recs.map (·.id) = List.range' 1 recs.length ∧
      (s.world.iteration = recs.length ∨ s.world.iteration = recs.length + 1) ∧
      recs.length ≤ s.world.totalPassed + s.world.totalFailed ∧
      s.world.totalPassed + s.world.totalFailed ≤ s.world.iteration ∧
      s.world.history = window recs := by
  obtain ⟨w, _ | ⟨f, _ | ⟨g, fs⟩⟩⟩ := s
  · exact h.1.counts
  · exact World.TickInv.counts h
  · exact h.elim

theorem SeqInv.pending_le_one (h : SeqInv config recs s) :
    s.frames.length + s.world.timers.length ≤ 1 := by
  obtain ⟨w, _ | ⟨f, _ | ⟨g, fs⟩⟩⟩ := s
  · rcases h.2.2 with ht | ⟨t, ht, -⟩ <;> simp [ht]
  · simp [World.TickInv.timers_eq_nil h]
  · exact h.elim

/-! ## Every sequential tick completes -/

/-- `start()` on a stopped runner short of its limit starts a tick with the next iteration
number. -/
theorem SeqRun.start_tick (h : SeqRun log2 config good ⟨w, []⟩ recs) (hr : w.running = false)
    (hmax : ¬(0 < w.config.maxIterations ∧ w.config.maxIterations ≤ w.iteration)) (now : ℚ) :
    ∃ w' f, SeqRun log2 config good ⟨w', [f]⟩ recs ∧ w'.iteration = w.iteration + 1 := by
  have h' := SeqRun.start now h
  simp only [Sys.start, hr, Bool.false_eq_true, if_false, Sys.callTick, World.callTick,
    Bool.not_true, hmax, Option.toList, List.nil_append] at h'
  exact ⟨_, _, h', rfl⟩

/-- A tick at a point of rank `n`, resumed with good clock readings, completes within
`n + 1` resumes, by induction on `n`: each step lowers the rank. -/
theorem SeqRun.completes_within (clk : Clock) (hclk : good clk) (n : ℕ) {f : TickFrame}
    (hn : f.rank = n) (h : SeqRun log2 config good ⟨w, [f]⟩ recs) :
    ∃ k ≤ n, ∃ w' recs',
      Sys.run log2 ⟨w, [f]⟩ (List.replicate (k + 1) (.resume 0 false clk)) = some ⟨w', []⟩ ∧
      SeqRun log2 config good ⟨w', []⟩ recs' ∧ w'.iteration = w.iteration := by
  induction n using Nat.strong_induction_on generalizing w f recs with
  | _ n ih =>
    have h' := SeqRun.resume clk h hclk
    have hstep := step_resume_zero log2 w f false clk
    cases hr : (w.resume log2 f false clk).2 with
    | none =>
      rw [hr] at h' hstep
      exact ⟨0, n.zero_le, _, _, by simp [hstep], h', World.resume_iteration log2⟩
    | some f' =>
      rw [hr] at h' hstep
      have hlt := hn ▸ World.resume_rank log2 hr
      obtain ⟨k, hk, w'', recs'', hrun, h'', hi⟩ := ih _ hlt rfl h'
      refine ⟨k + 1, by omega, w'', recs'', ?_, h'', hi.trans (World.resume_iteration log2)⟩
      rw [List.replicate_succ, run_cons, hstep, Option.some_bind]
      exact hrun

theorem SeqRun.completes_of_rank_eq (clk : Clock) (hclk : good clk) (n : ℕ) {f : TickFrame}
    (hn : f.rank = n) (h : SeqRun log2 config good ⟨w, [f]⟩ recs) :
    ∃ w' recs', SeqRun log2 config good ⟨w', []⟩ recs' ∧ w'.iteration = w.iteration :=
  let ⟨_, _, w', recs', _, h', hi⟩ := h.completes_within log2 clk hclk n hn
  ⟨w', recs', h', hi⟩

/-- Resumed with good clock readings, a tick in progress in a sequential run completes:
after `k + 1` resumes, with `k` at most the rank of its point and so at most 22 resumes,
the run reaches a state between ticks, with the iteration number the tick had. -/
theorem SeqRun.completes (clk : Clock) (hclk : good clk) {f : TickFrame}
    (h : SeqRun log2 config good ⟨w, [f]⟩ recs) :
    ∃ k ≤ f.rank, k + 1 ≤ 22 ∧ ∃ w' recs',
      Sys.run log2 ⟨w, [f]⟩ (List.replicate (k + 1) (.resume 0 false clk)) = some ⟨w', []⟩ ∧
      SeqRun log2 config good ⟨w', []⟩ recs' ∧ w'.iteration = w.iteration :=
  let ⟨k, hk, hrun⟩ := h.completes_within log2 clk hclk _ rfl
  ⟨k, hk, Nat.succ_le_succ (hk.trans f.rank_le), hrun⟩

/-- The first tick of a new runner completes. -/
theorem first_tick_completes :
    ∃ w f, SeqRun id LoopConfig.default (fun _ => True) ⟨w, [f]⟩ [] ∧
      ∃ k ≤ f.rank, k + 1 ≤ 22 ∧ ∃ w' recs',
        Sys.run id ⟨w, [f]⟩ (List.replicate (k + 1) (.resume 0 false ⟨1000, 1000⟩)) =
          some ⟨w', []⟩ ∧
        SeqRun id LoopConfig.default (fun _ => True) ⟨w', []⟩ recs' ∧ w'.iteration = w.iteration := by
  have h₀ : SeqRun id LoopConfig.default (fun _ => True) ⟨_, []⟩ [] := .create 0
  obtain ⟨w, f, h, -⟩ := h₀.start_tick id rfl (by norm_num [World.create, LoopConfig.default]) 1000
  exact ⟨w, f, h, SeqRun.completes id ⟨1000, 1000⟩ trivial h⟩

/-- A new runner, started at clock `1000` and resumed at `1000`, is between ticks with
iteration `1` once its first tick is over. -/
theorem first_tick_done (log2 : ℚ → ℚ) :
    ∃ w recs, SeqRun log2 LoopConfig.default (fun _ => True) ⟨w, []⟩ recs ∧ w.iteration = 1 := by
  have h₀ : SeqRun log2 LoopConfig.default (fun _ => True) ⟨_, []⟩ [] := .create 0
  obtain ⟨w, f, h, hi⟩ :=
    h₀.start_tick log2 rfl (by norm_num [World.create, LoopConfig.default]) 1000
  obtain ⟨w', recs', h', hi'⟩ := h.completes_of_rank_eq log2 ⟨1000, 1000⟩ trivial _ rfl
  exact ⟨w', recs', h', hi'.trans hi⟩

/-! ## Counters, history and snapshots -/

/-- Between ticks of a sequential run, with `recs` the iterations its ticks pushed: the
counters add up to the iteration number, which stays below `maxIterations + 1`; the pushed
iterations are `1 .. iteration` and the history holds the last 100 of them; each is settled;
and the counters are the count of passed and scaled records and the sums of their
confidences, ROIs and artifacts. -/
theorem seqRun_between_ticks (h : SeqRun log2 config good ⟨w, []⟩ recs) :
    w.totalPassed + w.totalFailed = w.iteration ∧
    (0 < config.maxIterations → (w.iteration : ℚ) < config.maxIterations + 1) ∧
    recs.map (·.id) = List.range' 1 w.iteration ∧
    w.history.map (·.id) = List.range' (max 1 (w.iteration - 99)) (min w.iteration 100) ∧
    w.history = recs.drop (w.iteration - 100) ∧
    (∀ r ∈ recs, r.Settled) ∧
    w.totalPassed = recs.countP (fun r => r.status = .passed ∨ r.status = .scaled) ∧
    w.confidenceSum = (recs.map (·.confidence)).sum ∧
    w.roiSum = (recs.map (·.roi)).sum ∧
    w.totalGenerated = (recs.map (·.generationResult.artifacts.length)).sum := by
  obtain ⟨hi, -⟩ := h.seqInv log2
  have hc := tallyOf_components recs
  have ht := hi.tally_eq
  rw [World.tally_eq_iff] at ht
  obtain ⟨hP, hF, hG, hC, hR⟩ := ht
  have hn := hi.iteration_eq
  refine ⟨by rw [hn, hP, hF, hc.1], hi.below_max, hn ▸ hi.ids, ?_, ?_, hi.settled,
    by rw [hP, tallyOf_passed hi.settled], by rw [hC, hc.2.2.1], by rw [hR, hc.2.2.2],
    by rw [hG, hc.2.1]⟩
  · rw [hi.history_eq, window, List.map_drop, hi.ids, drop_range', hn]
    exact congrArg₂ List.range' (by omega) (by omega)
  · rw [hi.history_eq, window, hn]

/-- The invariant after the first tick of a new runner. -/
theorem first_tick_between_ticks :
    ∃ w recs, SeqRun id LoopConfig.default (fun _ => True) ⟨w, []⟩ recs ∧ w.iteration = 1 ∧
    (w.totalPassed + w.totalFailed = w.iteration ∧
    (0 < LoopConfig.default.maxIterations →
      (w.iteration : ℚ) < LoopConfig.default.maxIterations + 1) ∧
    recs.map (·.id) = List.range' 1 w.iteration ∧
    w.history.map (·.id) = List.range' (max 1 (w.iteration - 99)) (min w.iteration 100) ∧
    w.history = recs.drop (w.iteration - 100) ∧
    (∀ r ∈ recs, r.Settled) ∧
    w.totalPassed = recs.countP (fun r => r.status = .passed ∨ r.status = .scaled) ∧
    w.confidenceSum = (recs.map (·.confidence)).sum ∧
    w.roiSum = (recs.map (·.roi)).sum ∧
    w.totalGenerated = (recs.map (·.generationResult.artifacts.length)).sum) :=
  let ⟨w, recs, h, hi⟩ := first_tick_done id
  ⟨w, recs, h, hi, seqRun_between_ticks id h⟩

/-- With `maxIterations` 1/2 the guard `iteration >= maxIterations` lets the first tick
through: after `start()` and that tick, `iteration` is 1, above the limit. -/
theorem seqRun_passes_fractional_max :
    (let c := { LoopConfig.default with maxIterations := 1 / 2 }
    0 < c.maxIterations ∧ ∀ log2 : ℚ → ℚ, ∃ w recs,
      SeqRun log2 c (fun _ => True) ⟨w, []⟩ recs ∧ c.maxIterations < w.iteration) := by
  intro c
  refine ⟨by norm_num [c], fun log2 => ?_⟩
  have h₀ : SeqRun log2 c (fun _ => True) ⟨World.create c 0, []⟩ [] := .create 0
  obtain ⟨w, f, h, hi⟩ := h₀.start_tick log2 rfl (by norm_num [c, World.create]) 0
  obtain ⟨w', recs', h', hi'⟩ := h.completes_of_rank_eq log2 ⟨0, 0⟩ trivial _ rfl
  refine ⟨w', recs', h', ?_⟩
  rw [hi', hi]
  norm_num [c, World.create]

/-- Between ticks, or at the max-iterations stop, the pushed records account for the
iteration number and the counters; during a tick `TickInv.body_counts` says how they stand
at its point. -/
theorem SeqInv.snapshot (h : SeqInv config recs s) :
    ((s.frames = [] ∨ s.frames = [.reachedMax]) →
      s.world.iteration = recs.length ∧ s.world.totalPassed + s.world.totalFailed = recs.length) ∧
    ∀ pc iterStart obj, s.frames = [.body pc iterStart obj] →
      (18 ≤ pc.rank → s.world.iteration = recs.length + 1 ∧
        s.world.totalPassed + s.world.totalFailed = recs.length) ∧
      (2 ≤ pc.rank → pc.rank < 18 → s.world.iteration = recs.length + 1 ∧
        s.world.totalPassed + s.world.totalFailed = recs.length + 1) ∧
      (pc.rank < 2 → s.world.iteration = recs.length ∧
        s.world.totalPassed + s.world.totalFailed = recs.length) := by
  obtain ⟨w, frames⟩ := s
  refine ⟨fun hf => ?_, fun pc iterStart obj hf => ?_⟩
  · have hi : World.Inv config w recs := by
      rcases hf with rfl | rfl
      exacts [h.1, h.1]
    exact ⟨hi.iteration_eq, World.passed_add_failed hi.tally_eq⟩
  · subst hf
    exact World.TickInv.body_counts h

/-- What a `getState()` at any state of a sequential run shows, with `recs` the iterations
pushed so far, numbered `1 ..`: the history is the last 10 pushed, numbered up to the last
push; the iteration number is their count or one more, and the passed and failed counters
add up to a number between the two. Between ticks (and at the max-iterations stop) the
snapshot is the one after the last tick: iteration and counters are the count of pushed
records. During a tick it is half-updated: up to the `await` of `verify` the iteration is
one more while the counters are not, from the verification result to the push both are
one more while the history is not, and after the push all agree again. -/
theorem seqRun_snapshot (h : SeqRun log2 config good s recs) (now : ℚ) :
    let st := s.world.getState now
    recs.map (·.id) = List.range' 1 recs.length ∧
    st.history = recs.drop (recs.length - 10) ∧
    st.history.map (·.id) =
      List.range' (recs.length + 1 - min recs.length 10) (min recs.length 10) ∧
    (st.iteration = recs.length ∨ st.iteration = recs.length + 1) ∧
    recs.length ≤ st.totalPassed + st.totalFailed ∧
    st.totalPassed + st.totalFailed ≤ st.iteration ∧
    ((s.frames = [] ∨ s.frames = [.reachedMax]) →
      st.iteration = recs.length ∧ st.totalPassed + st.totalFailed = recs.length) ∧
    ∀ pc iterStart obj, s.frames = [.body pc iterStart obj] →
      (18 ≤ pc.rank →
        st.iteration = recs.length + 1 ∧ st.totalPassed + st.totalFailed = recs.length) ∧
      (2 ≤ pc.rank → pc.rank < 18 →
        st.iteration = recs.length + 1 ∧ st.totalPassed + st.totalFailed = recs.length + 1) ∧
      (pc.rank < 2 → st.iteration = recs.length ∧ st.totalPassed + st.totalFailed = recs.length) := by
  intro st
  have hs := h.seqInv log2
  obtain ⟨hids, hit, hlo, hhi, hh⟩ := hs.counts
  have hhist : st.history = recs.drop (recs.length - 10) := by
    simp only [st, World.getState, hh, window, List.drop_drop, List.length_drop]
    congr 1
    omega
  refine ⟨hids, hhist, ?_, hit, hlo, hhi, hs.snapshot.1, hs.snapshot.2⟩
  rw [hhist, List.map_drop, hids, drop_range']
  exact congrArg₂ List.range' (by omega) (by omega)

/-- The snapshot after the first tick of a new runner. -/
theorem first_tick_snapshot :
    ∃ w recs, SeqRun id LoopConfig.default (fun _ => True) ⟨w, []⟩ recs ∧ w.iteration = 1 ∧
    (let st := w.getState 1000
    recs.map (·.id) = List.range' 1 recs.length ∧
    st.history = recs.drop (recs.length - 10) ∧
    st.history.map (·.id) =
      List.range' (recs.length + 1 - min recs.length 10) (min recs.length 10) ∧
    (st.iteration = recs.length ∨ st.iteration = recs.length + 1) ∧
    recs.length ≤ st.totalPassed + st.totalFailed ∧
    st.totalPassed + st.totalFailed ≤ st.iteration ∧
    (([] : List TickFrame) = [] ∨ ([] : List TickFrame) = [.reachedMax] →
      st.iteration = recs.length ∧ st.totalPassed + st.totalFailed = recs.length) ∧
    ∀ pc iterStart obj, ([] : List TickFrame) = [.body pc iterStart obj] →
      (18 ≤ pc.rank →
        st.iteration = recs.length + 1 ∧ st.totalPassed + st.totalFailed = recs.length) ∧
      (2 ≤ pc.rank → pc.rank < 18 →
        st.iteration = recs.length + 1 ∧ st.totalPassed + st.totalFailed = recs.length + 1) ∧
      (pc.rank < 2 → st.iteration = recs.length ∧ st.totalPassed + st.totalFailed = recs.length)) :=
  let ⟨w, recs, h, hi⟩ := first_tick_done id
  ⟨w, recs, h, hi, seqRun_snapshot id h 1000⟩

/-- At the first `log` of the first tick `iteration` is already 1 while nothing is counted
or pushed: a snapshot there is neither the one before the tick (iteration 0) nor one after
it (the passed and failed counters adding up to the iteration). -/
theorem snapshot_mid_first_tick :
    (let s := (Sys.create LoopConfig.default 0).start 1000
    (∀ log2 : ℚ → ℚ, SeqRun log2 LoopConfig.default (fun _ => True) s []) ∧
      (s.world.getState 1000).iteration = 1 ∧
      (s.world.getState 1000).totalPassed + (s.world.getState 1000).totalFailed = 0 ∧
      (s.world.getState 1000).history = []) :=
  ⟨fun _ => .start 1000 (.create 0), rfl, rfl, rfl⟩

/-- In a sequential run at most one tick is pending at any time: in progress, or set by
the loop timer. -/
theorem seqRun_pending_le_one (h : SeqRun log2 config good s recs) :
    s.frames.length + s.world.timers.length ≤ 1 :=
  (h.seqInv log2).pending_le_one

/-- One tick pending in the first tick of a new runner. -/
theorem start_pending_le_one :
    (let s := (Sys.create LoopConfig.default 0).start 1000
    SeqRun id LoopConfig.default (fun _ => True) s [] ∧
      s.frames.length + s.world.timers.length ≤ 1) :=
  have h : SeqRun id LoopConfig.default (fun _ => True) _ [] := .start 1000 (.create 0)
  ⟨h, seqRun_pending_le_one id h⟩

end Sys

end SovereignLoop
