import SovereignLoop.Api.AutomationAPI

/-!
# The kernel along runs of the API

An event may write the vault, pulse, or both (a scan). `Event.apply_state` says once what it
does to the state: the switches of the options `Event.pulseOpts` reads off the event, then
at most one link; `Event.apply_vault` says what it writes to the vault. From these two:

* `run_counters`: from a new kernel, `pulse.count` and `pulse.intensity` hold the number of
  incrementing events and `codex.syncCount` the number of syncing events, whether or not
  the requests succeeded, up to `2^53`, where `++` stops counting;
* `run_vault`: `/vault/:key` answers the value of the last event that wrote the key: last
  writer wins, over any run from any kernel;
* `run_inv`: the state's records agree with one another and each vault entry's hash is the
  hash of its value's JSON text;
* `handle_serverError`: a request answered with a 500 changed neither the vault nor the
  chain; `handle_neurosync`: when `/neurosync` fails;
* `run_pulse_poisoned`: a mode that does not print, once set, makes every packet of
  `/pulse` fail until a later event sets another mode.
-/

namespace SovereignLoop

namespace Kernel

open PAXRuntime

/-! ## What each event reads -/

/-- The options of the pulse an event runs, as its handler builds them and `pulse` reads
them: none for a route that does not pulse and for a body whose first read throws. -/
def Event.pulseOpts : Event → Option PulseOpts
  | .request (.pulse body) => if body.isNullish then none else some (PulseOpts.read body)
  | .request (.neurosync body) => if body.isNullish then none else
      some (PulseOpts.read (neurosyncOpts ((body.prop "mission").coalesce (.str "SOVEREIGN OPS"))))
  | .request .scanOpportunities | .request .scanReport =>
      some (PulseOpts.read ValueScanner.scanPulseOpts)
  | .boot => some (PulseOpts.read bootOpts)
  | _ => none

/-- The events that increment `pulse.count` and `pulse.intensity`: a pulse request whose
body has a truthy `incr`, a NEUROSYNC request with a body, a scan, and the boot pulse. -/
def Event.incrs : Event → Bool
  | .request (.pulse body) => !body.isNullish && (body.prop "incr").truthy
  | .request (.neurosync body) => !body.isNullish
  | .request .scanOpportunities | .request .scanReport | .boot => true
  | _ => false

/-- The events that increment `codex.syncCount`: a pulse request whose body has a truthy
`codexSync`, a NEUROSYNC request with a body, and the boot pulse. -/
def Event.syncs : Event → Bool
  | .request (.pulse body) => !body.isNullish && (body.prop "codexSync").truthy
  | .request (.neurosync body) => !body.isNullish
  | .boot => true
  | _ => false

/-- The mode an event sets when it turns the quad stack on. -/
def Event.setsMode : Event → Option JsVal
  | .request (.pulse body) => if !body.isNullish && (body.prop "quadUp").truthy then
      some ((body.prop "mode").coalesce (.str "parallel")) else none
  | .request (.neurosync body) => if body.isNullish then none else some (.str "parallel")
  | .boot => some (.str "parallel")
  | _ => none

/-- The value an event with clock readings `utc` writes to the vault under `k`: a vault
request for that key with a body and a storable value, or a scan's record under
`last_scan`. -/
def Event.writes (utc : ℕ → String) (k : String) : Event → Option JsVal
  | .request (.vaultSet key body) =>
    if key = k ∧ body.isNullish = false ∧ storable (body.prop "value") = true then
      some (body.prop "value") else none
  | .request .scanOpportunities | .request .scanReport =>
    if k = "last_scan" then some (ValueScanner.scanRecord (utc 0) 4) else none
  | _ => none

section Reads

theorem Event.incrs_eq (e : Event) : e.incrs = (e.pulseOpts.map (·.incr)).getD false := by
  cases e with
  | boot => rfl
  | request r =>
    cases r <;> try rfl
    all_goals
      simp only [Event.incrs, Event.pulseOpts]
      cases JsVal.isNullish _ <;> rfl

theorem Event.syncs_eq (e : Event) : e.syncs = (e.pulseOpts.map (·.codexSync)).getD false := by
  cases e with
  | boot => rfl
  | request r =>
    cases r <;> try rfl
    all_goals
      simp only [Event.syncs, Event.pulseOpts]
      cases JsVal.isNullish _ <;> rfl

theorem Event.setsMode_eq (e : Event) :
    e.setsMode = e.pulseOpts.bind fun o => if o.quadUp then some o.mode else none := by
  cases e with
  | boot => rfl
  | request r =>
    cases r <;> try rfl
    all_goals
      simp only [Event.setsMode, Event.pulseOpts]
      cases JsVal.isNullish _ <;> rfl

end Reads

/-! ## What each event does -/

section Step

variable (sha256 : String → String) (toLocaleString : ℚ → String) (rt : PAXRuntime)

theorem pulse_state (utc : ℕ → String) (opts : JsVal) :
    ∃ c, (rt.pulse sha256 utc opts).2.state =
        { (if opts.isNullish then rt.state else rt.state.update utc (PulseOpts.read opts)) with
          continuity := c } ∧
      (c = rt.state.continuity ∨ ∃ l, c = rt.state.continuity.push l) := by
  obtain ⟨c, h, hc⟩ := @pulse_spec sha256 rt utc opts
  exact ⟨c, by rw [h], hc.imp_right And.right⟩

theorem pulse_vault (utc : ℕ → String) (opts : JsVal) :
    (rt.pulse sha256 utc opts).2.vault = rt.vault := by
  obtain ⟨c, h, -⟩ := @pulse_spec sha256 rt utc opts
  rw [h]

/-- `scanAll` stores its record, which always has a JSON text, then pulses. -/
theorem scanAll_spec (utc : ℕ → String) :
    ∃ text, (ValueScanner.scanRecord (utc 0) 4).jsonStringify = .ok (some text) ∧
      ValueScanner.scanAll sha256 rt utc =
        (({ rt with vault := (rt.vault.set "last_scan"
            ⟨ValueScanner.scanRecord (utc 0) 4, utc 1, sha256 text⟩) }.pulse sha256
            (fun n => utc (2 + n)) ValueScanner.scanPulseOpts).1.map
          fun _ => ValueScanner.sortByRoi
            (ValueScanner.detectWorkflowGaps ++ ValueScanner.detectAutomationROI ++
              ValueScanner.detectDataValue),
        ({ rt with vault := (rt.vault.set "last_scan"
            ⟨ValueScanner.scanRecord (utc 0) 4, utc 1, sha256 text⟩) }.pulse sha256
            (fun n => utc (2 + n)) ValueScanner.scanPulseOpts).2) :=
  ⟨_, rfl, rfl⟩

/-- The step lemma for the state: an event applies the switches of its options, then adds
at most one link. -/
theorem Event.apply_state (e : Event) (utc : ℕ → String) :
    ∃ u c, (e.apply sha256 toLocaleString rt utc).state =
        { e.pulseOpts.elim rt.state (rt.state.update u) with continuity := c } ∧
      (c = rt.state.continuity ∨ ∃ l, c = rt.state.continuity.push l) := by
  cases e with
  | boot =>
    obtain ⟨c, h, hc⟩ := pulse_state sha256 rt utc bootOpts
    exact ⟨utc, c, h, hc⟩
  | request r =>
    cases r with
    | pulse body =>
      obtain ⟨c, h, hc⟩ := pulse_state sha256 rt utc body
      refine ⟨utc, c, ?_, hc⟩
      simp only [Event.apply, handle, h, Event.pulseOpts]
      split <;> rfl
    | neurosync body =>
      simp only [Event.apply, handle, Event.pulseOpts]
      split
      · exact ⟨utc, _, rfl, .inl rfl⟩
      · obtain ⟨c, h, hc⟩ := pulse_state sha256 rt utc
          (neurosyncOpts ((body.prop "mission").coalesce (.str "SOVEREIGN OPS")))
        exact ⟨utc, c, h, hc⟩
    | vaultSet key body =>
      refine ⟨utc, _, ?_, .inl rfl⟩
      simp only [Event.apply, handle]
      split
      · rfl
      · rcases @vaultSet_spec sha256 rt (utc 0) key (body.prop "value") with
          ⟨_, -, h⟩ | ⟨-, _, h⟩ <;> rw [h] <;> rfl
    | scanOpportunities | scanReport =>
      obtain ⟨text, -, h⟩ := scanAll_spec sha256 rt utc
      obtain ⟨c, hs, hc⟩ := pulse_state sha256
        { rt with vault := (rt.vault.set "last_scan"
          ⟨ValueScanner.scanRecord (utc 0) 4, utc 1, sha256 text⟩) }
        (fun n => utc (2 + n)) ValueScanner.scanPulseOpts
      exact ⟨_, c, by simp only [Event.apply, handle, ValueScanner.generateReport, h]; exact hs, hc⟩
    | health | state | vaultGet | metrics => exact ⟨utc, _, rfl, .inl rfl⟩

/-- The step lemma for the vault: an event leaves it, or writes the one key it `writes`
with the hash of the value's JSON text. -/
theorem Event.apply_vault (e : Event) (utc : ℕ → String) :
    (e.apply sha256 toLocaleString rt utc).vault = rt.vault ∧ (∀ k, e.writes utc k = none) ∨
    ∃ key v ts text, v.jsonStringify = .ok (some text) ∧
      (∀ k, e.writes utc k = if k = key then some v else none) ∧
      (e.apply sha256 toLocaleString rt utc).vault = rt.vault.set key ⟨v, ts, sha256 text⟩ := by
  cases e with
  | boot => exact .inl ⟨pulse_vault sha256 rt utc bootOpts, fun _ => rfl⟩
  | request r =>
    cases r with
    | pulse body => exact .inl ⟨pulse_vault sha256 rt utc body, fun _ => rfl⟩
    | neurosync body =>
      refine .inl ⟨?_, fun _ => rfl⟩
      simp only [Event.apply, handle]
      split
      · rfl
      · exact pulse_vault sha256 rt utc _
    | vaultSet key body =>
      simp only [Event.apply, handle, Event.writes]
      split
      · exact .inl ⟨rfl, fun _ => by simp [*]⟩
      · rcases @vaultSet_spec sha256 rt (utc 0) key (body.prop "value") with
          ⟨text, ht, h⟩ | ⟨hs, _, h⟩ <;> rw [h]
        · have hs : storable (body.prop "value") = true := by simp [storable, ht]
          refine .inr ⟨key, _, _, text, ht, fun k => ?_, rfl⟩
          simp only [hs, and_true, eq_comm (a := key), *, Bool.false_eq_true, not_false_eq_true]
        · exact .inl ⟨rfl, fun _ => by simp [hs]⟩
    | scanOpportunities | scanReport =>
      obtain ⟨text, ht, h⟩ := scanAll_spec sha256 rt utc
      refine .inr ⟨"last_scan", _, utc 1, text, ht, fun _ => rfl, ?_⟩
      simp only [Event.apply, handle, ValueScanner.generateReport, h]
      exact pulse_vault sha256 _ _ _
    | health | state | vaultGet | metrics => exact .inl ⟨rfl, fun _ => rfl⟩

theorem Event.apply_vaultGet (e : Event) (utc : ℕ → String) (k : String) :
    (e.apply sha256 toLocaleString rt utc).vaultGet k = (e.writes utc k).getD (rt.vaultGet k) := by
  rcases Event.apply_vault sha256 toLocaleString rt e utc with
    ⟨h, hw⟩ | ⟨key, v, ts, text, -, hw, h⟩
  · simp only [vaultGet, h, hw, Option.getD_none]
  · simp only [vaultGet, h, hw, JsMap.get?_set]
    split <;> rfl

/-- The counters an event moves: `pulse.count` and `pulse.intensity` when it `incrs`,
`codex.syncCount` when it `syncs`, each by one `++`. -/
theorem Event.apply_counters (e : Event) (utc : ℕ → String) :
    (e.apply sha256 toLocaleString rt utc).state.pulse.count =
        (if e.incrs then jsIncr rt.state.pulse.count else rt.state.pulse.count) ∧
      (e.apply sha256 toLocaleString rt utc).state.pulse.intensity =
        (if e.incrs then jsIncr rt.state.pulse.intensity else rt.state.pulse.intensity) ∧
      (e.apply sha256 toLocaleString rt utc).state.codex.syncCount =
        (if e.syncs then jsIncr rt.state.codex.syncCount else rt.state.codex.syncCount) := by
  obtain ⟨u, c, hs, -⟩ := Event.apply_state sha256 toLocaleString rt e utc
  rw [hs, Event.incrs_eq, Event.syncs_eq]
  cases e.pulseOpts with
  | none => simp
  | some o =>
    simp only [Option.elim, PAXState.update_pulse, PAXState.update_codex, Option.map_some',
      Option.getD_some]
    refine ⟨?_, ?_, ?_⟩ <;> split <;> rfl

/-- The mode an event leaves: the one it `setsMode`, or the mode before. -/
theorem Event.apply_mode (e : Event) (utc : ℕ → String) :
    (e.apply sha256 toLocaleString rt utc).state.quadStack.mode =
      e.setsMode.getD rt.state.quadStack.mode := by
  obtain ⟨u, c, hs, -⟩ := Event.apply_state sha256 toLocaleString rt e utc
  rw [hs, Event.setsMode_eq]
  cases e.pulseOpts with
  | none => rfl
  | some o =>
    simp only [Option.elim, PAXState.update_quadStack, Option.some_bind]
    split <;> rfl

end Step

/-! ## The state's invariant -/

/-- The pulse record: the two counters move together, and `lastUtc` is set once they
count. -/
structure Pulse.Ok (p : Pulse) : Prop where
  count_nonneg : 0 ≤ p.count
  intensity : p.intensity = p.count
  lastUtc : p.lastUtc.isSome = decide (0 < p.count)

/-- The codex record: it is synced exactly when it has a sync time and a sync count. -/
structure Codex.Ok (c : Codex) : Prop where
  syncCount_nonneg : 0 ≤ c.syncCount
  lastSyncUtc : c.synced = c.lastSyncUtc.isSome
  syncCount : c.synced = decide (0 < c.syncCount)

/-- The quad stack: its aggregation never changes, and it is enabled exactly when it has a
change time. -/
structure QuadStack.Ok (q : QuadStack) : Prop where
  aggregation : q.aggregation = "hybrid"
  lastChangeUtc : q.enabled = q.lastChangeUtc.isSome

/-- The state's records agree with one another, and the last token is the last link's. -/
structure PAXState.Ok (s : PAXState) : Prop where
  version : s.version = "PAX.Runtime.v2.0"
  pulse : s.pulse.Ok
  codex : s.codex.Ok
  quadStack : s.quadStack.Ok
  lastToken : s.continuity.lastToken = s.continuity.chain.getLast?.map (·.token)

/-- Every vault entry's hash is the hash of its value's JSON text. -/
def VaultOk (sha256 : String → String) (vault : JsMap VaultEntry) : Prop :=
  ∀ e ∈ vault.entries, ∃ text, e.2.value.jsonStringify = .ok (some text) ∧ e.2.hash = sha256 text

/-- The kernel's invariant. -/
structure Inv (sha256 : String → String) (rt : PAXRuntime) : Prop where
  state : rt.state.Ok
  vault : VaultOk sha256 rt.vault

section Invariant

variable {s : PAXState}

theorem Pulse.Ok.bump {p : Pulse} (h : p.Ok) (t : String) (note : JsVal) :
    Pulse.Ok ⟨jsIncr p.count, jsIncr p.intensity, some t, note⟩ := by
  have := one_le_jsIncr h.count_nonneg
  exact ⟨by linarith, by rw [h.intensity], by simp only [Option.isSome_some]; simp; linarith⟩

theorem Codex.Ok.sync {c : Codex} (h : c.Ok) (t : String) :
    Codex.Ok ⟨true, jsIncr c.syncCount, some t⟩ := by
  have := one_le_jsIncr h.syncCount_nonneg
  exact ⟨by linarith, rfl, by simp; linarith⟩

theorem PAXState.Ok.update (h : s.Ok) (u : ℕ → String) (o : PulseOpts) : (s.update u o).Ok := by
  refine ⟨h.version, ?_, ?_, ?_, h.lastToken⟩
  · rw [PAXState.update_pulse]; split
    exacts [h.pulse.bump _ _, h.pulse]
  · rw [PAXState.update_codex]; split
    exacts [h.codex.sync _, h.codex]
  · rw [PAXState.update_quadStack]; split
    exacts [⟨h.quadStack.aggregation, rfl⟩, h.quadStack]

theorem PAXState.Ok.push (h : s.Ok) (l : Link) :
    ({ s with continuity := s.continuity.push l } : PAXState).Ok :=
  { h with lastToken := by simp [Continuity.push] }

theorem Inv.create (sha256 : String → String) (sessionId createdUtc : String) :
    Inv sha256 (create sessionId createdUtc) :=
  ⟨⟨rfl, ⟨le_rfl, rfl, by simp [PAXRuntime.create]⟩, ⟨le_rfl, rfl, by simp [PAXRuntime.create]⟩, ⟨rfl, rfl⟩, rfl⟩,
    fun _ h => nomatch h⟩

variable (sha256 : String → String) (toLocaleString : ℚ → String) {rt : PAXRuntime}

/-- The step lemma: every event keeps the invariant. -/
theorem Inv.apply (h : Inv sha256 rt) (e : Event) (utc : ℕ → String) :
    Inv sha256 (e.apply sha256 toLocaleString rt utc) := by
  obtain ⟨u, c, hs, hc⟩ := Event.apply_state sha256 toLocaleString rt e utc
  have hS : (e.pulseOpts.elim rt.state (rt.state.update u)).Ok := by
    cases e.pulseOpts
    · exact h.state
    · exact h.state.update u _
  have hcont : (e.pulseOpts.elim rt.state (rt.state.update u)).continuity =
      rt.state.continuity := by
    cases e.pulseOpts <;> rfl
  refine ⟨?_, ?_⟩
  · rw [hs]
    rcases hc with rfl | ⟨l, rfl⟩ <;> rw [← hcont]
    · exact hS
    · exact hS.push l
  · rcases Event.apply_vault sha256 toLocaleString rt e utc with
      ⟨hv, -⟩ | ⟨key, v, ts, text, ht, -, hv⟩ <;> rw [hv]
    · exact h.vault
    · intro x hx
      rcases JsMap.mem_set.mp hx with rfl | ⟨hx, -⟩
      · exact ⟨text, ht, rfl⟩
      · exact h.vault x hx

/-- The run lemma. -/
theorem Inv.run (h : Inv sha256 rt) (es : List (Event × (ℕ → String))) :
    Inv sha256 (run sha256 toLocaleString rt es) := by
  induction es generalizing rt with
  | nil => exact h
  | cons p es ih => exact ih (h.apply sha256 toLocaleString p.1 p.2)

end Invariant

/-! ## Runs -/

section Runs

variable (sha256 : String → String) (toLocaleString : ℚ → String)

/-- A quantity that each event either leaves or moves by one `++` has been moved once per
event that moves it. -/
theorem run_iterate (f : PAXRuntime → ℚ) (p : Event → Bool)
    (hf : ∀ rt e utc, f (e.apply sha256 toLocaleString rt utc) = if p e then jsIncr (f rt) else f rt)
    (rt : PAXRuntime) (es : List (Event × (ℕ → String))) :
    f (run sha256 toLocaleString rt es) = jsIncr^[es.countP fun x => p x.1] (f rt) := by
  induction es generalizing rt with
  | nil => rfl
  | cons x es ih =>
    rw [run, ih, hf, List.countP_cons]
    split
    · rw [Function.iterate_succ_apply]
    · rfl

/-- The last of a list, or a default, after one more element in front. -/
private theorem getD_getLast?_cons {α : Type} (a : α) (l : List α) (d : α) :
    ((a :: l).getLast?).getD d = l.getLast?.getD a := by
  cases l <;> simp [List.getLast?_cons]

/-- A quantity that each event either leaves or sets is what the last event that set it
set. -/
theorem run_last {α : Type} (f : PAXRuntime → α) (w : Event × (ℕ → String) → Option α)
    (hf : ∀ rt e utc, f (e.apply sha256 toLocaleString rt utc) = (w (e, utc)).getD (f rt))
    (rt : PAXRuntime) (es : List (Event × (ℕ → String))) :
    f (run sha256 toLocaleString rt es) = ((es.filterMap w).getLast?).getD (f rt) := by
  induction es generalizing rt with
  | nil => rfl
  | cons x es ih =>
    rw [run, ih, hf, List.filterMap_cons]
    cases w x <;> simp only [Option.getD_none, Option.getD_some, getD_getLast?_cons]

/-- From a new kernel, after any run, `pulse.count` and `pulse.intensity` hold the number of
events that increment them and `codex.syncCount` the number of events that sync, whether
or not those requests then succeeded, up to `2^53`, where `++` on a number stops counting. -/
theorem run_counters (sessionId createdUtc : String) (es : List (Event × (ℕ → String))) :
    (run sha256 toLocaleString (create sessionId createdUtc) es).state.pulse.count =
        (min (es.countP fun x => x.1.incrs) (2 ^ 53) : ℕ) ∧
      (run sha256 toLocaleString (create sessionId createdUtc) es).state.pulse.intensity =
        (min (es.countP fun x => x.1.incrs) (2 ^ 53) : ℕ) ∧
      (run sha256 toLocaleString (create sessionId createdUtc) es).state.codex.syncCount =
        (min (es.countP fun x => x.1.syncs) (2 ^ 53) : ℕ) := by
  refine ⟨?_, ?_, ?_⟩ <;> rw [← jsIncr_iterate_zero]
  · exact run_iterate sha256 toLocaleString (·.state.pulse.count) Event.incrs
      (fun rt e utc => (Event.apply_counters sha256 toLocaleString rt e utc).1) _ es
  · exact run_iterate sha256 toLocaleString (·.state.pulse.intensity) Event.incrs
      (fun rt e utc => (Event.apply_counters sha256 toLocaleString rt e utc).2.1) _ es
  · exact run_iterate sha256 toLocaleString (·.state.codex.syncCount) Event.syncs
      (fun rt e utc => (Event.apply_counters sha256 toLocaleString rt e utc).2.2) _ es

/-- Last writer wins: after any run, from any kernel, `/vault/:key` answers the value of the
last event of the run that wrote the key, or the value the kernel held before, with the
run's last token as its hash. -/
theorem run_vault (rt : PAXRuntime) (es : List (Event × (ℕ → String))) (k : String)
    (utc : ℕ → String) :
    (handle sha256 toLocaleString (run sha256 toLocaleString rt es) utc (.vaultGet k)).1 =
      .json (.obj [("key", .str k),
        ("value", ((es.filterMap fun x => x.1.writes x.2 k).getLast?).getD (rt.vaultGet k)),
        ("hash", optStr (run sha256 toLocaleString rt es).state.continuity.lastToken)]) := by
  rw [← run_last sha256 toLocaleString (·.vaultGet k) (fun x => x.1.writes x.2 k)
    (fun rt e utc => Event.apply_vaultGet sha256 toLocaleString rt e utc k)]
  rfl

/-- From a new kernel, after any run, the state's records agree with one another
(`PAXState.Ok`) and every vault entry's hash is the hash of its value's JSON text. -/
theorem run_inv (sessionId createdUtc : String) (es : List (Event × (ℕ → String))) :
    Inv sha256 (run sha256 toLocaleString (create sessionId createdUtc) es) :=
  (Inv.create sha256 sessionId createdUtc).run sha256 toLocaleString es

end Runs

/-! ## Failures -/

section Failures

variable (sha256 : String → String) (toLocaleString : ℚ → String) (rt : PAXRuntime)
  (utc : ℕ → String)

theorem jsonOr_eq_serverError {α : Type} (r : Except JsError α) (f : α → JsVal) :
    jsonOr r f = .serverError ↔ r.isOk = false := by
  cases r <;> simp [jsonOr, Except.isOk, Except.toBool]

theorem packetBody_isOk (s : PAXState) (t : String) (m : JsVal) :
    (packetBody s t m).isOk = (m.concatStr.isOk && s.quadStack.mode.concatStr.isOk) := by
  unfold packetBody
  cases m.concatStr <;> cases s.quadStack.mode.concatStr <;> rfl

/-- A pulse that throws has changed neither the vault nor the chain. -/
theorem pulse_of_not_isOk {opts : JsVal} (h : (rt.pulse sha256 utc opts).1.isOk = false) :
    (rt.pulse sha256 utc opts).2.vault = rt.vault ∧
      (rt.pulse sha256 utc opts).2.state.continuity = rt.state.continuity := by
  obtain ⟨c, he, hc⟩ := @pulse_spec sha256 rt utc opts
  rw [he]
  exact ⟨rfl, hc.resolve_right (by rw [h]; simp)⟩

theorem scanAll_ok : ∃ opps, (ValueScanner.scanAll sha256 rt utc).1 = .ok opps := by
  obtain ⟨text, -, h⟩ := scanAll_spec sha256 rt utc
  exact ⟨_, by rw [h]; rfl⟩

/-- The scan routes are never answered with a 500: `scanAll` writes a record that always
serializes and pulses with options that always print. -/
theorem handle_scan_ne_serverError {r : Request}
    (hr : r = .scanOpportunities ∨ r = .scanReport) :
    (handle sha256 toLocaleString rt utc r).1 ≠ .serverError := by
  obtain ⟨v, hv⟩ := scanAll_ok sha256 rt utc
  rcases hr with rfl | rfl <;>
    simp [handle, ValueScanner.generateReport, hv, jsonOr, Except.map]

/-- A request answered with a 500 has changed neither the vault nor the continuity chain,
from any kernel, and a scan is never answered with a 500; only the switches of a pulse whose
packet failed to print stay fired. -/
theorem handle_serverError (r : Request) :
    ((handle sha256 toLocaleString rt utc r).1 = .serverError →
      (handle sha256 toLocaleString rt utc r).2.vault = rt.vault ∧
        (handle sha256 toLocaleString rt utc r).2.state.continuity = rt.state.continuity) ∧
    (r = .scanOpportunities ∨ r = .scanReport →
      (handle sha256 toLocaleString rt utc r).1 ≠ .serverError) := by
  refine ⟨fun h => ?_, handle_scan_ne_serverError sha256 toLocaleString rt utc⟩
  cases r with
  | pulse body => exact pulse_of_not_isOk sha256 rt utc ((jsonOr_eq_serverError _ _).mp h)
  | neurosync body =>
    cases hn : body.isNullish
    · simp only [handle, hn, Bool.false_eq_true, if_false] at h ⊢
      exact pulse_of_not_isOk sha256 rt utc ((jsonOr_eq_serverError _ _).mp h)
    · simp [handle, hn]
  | vaultSet key body =>
    cases hn : body.isNullish
    · simp only [handle, hn, Bool.false_eq_true, if_false] at h ⊢
      rcases @vaultSet_spec sha256 rt (utc 0) key (body.prop "value") with
        ⟨_, -, hv⟩ | ⟨-, _, hv⟩ <;> simp [hv] at h ⊢
    · simp [handle, hn]
  | scanOpportunities | scanReport =>
    exact absurd h (handle_scan_ne_serverError sha256 toLocaleString rt utc (by simp))
  | health | state | vaultGet | metrics => cases h

/-- A NEUROSYNC request whose mission has an own `toString` is answered with a 500, having
counted its pulse, and it leaves the vault and the chain as they were. -/
theorem neurosync_toString_serverError :
    let r : Request := .neurosync (.obj [("mission", .obj [("toString", .str "x")])])
    (handle id (fun _ => "") (create "s" "t") (fun _ => "") r).1 = .serverError ∧
    (handle id (fun _ => "") (create "s" "t") (fun _ => "") r).2.vault = (create "s" "t").vault ∧
      (handle id (fun _ => "") (create "s" "t") (fun _ => "") r).2.state.continuity =
        (create "s" "t").state.continuity :=
  ⟨rfl, (handle_serverError id (fun _ => "") (create "s" "t") (fun _ => "") _).1 rfl⟩

theorem isOk_map {α β : Type} (f : α → β) (r : Except JsError α) : (r.map f).isOk = r.isOk := by
  cases r <;> rfl

theorem neuroSync_isOk (m : JsVal) :
    (neuroSync sha256 rt utc m).1.isOk = (packetBody rt.state (utc 0) m).isOk := by
  unfold neuroSync
  split <;> (rename_i h; simp [h, Except.isOk, Except.toBool])

/-- `/neurosync` pulses through `neuroSync` after setting the mode to `'parallel'`. -/
theorem pulse_neurosyncOpts {m : JsVal} (hm : m.isNullish = false) :
    ∃ rt' u, rt.pulse sha256 utc (neurosyncOpts m) =
        ((neuroSync sha256 rt' u m).1.map .inr, (neuroSync sha256 rt' u m).2) ∧
      rt'.state.quadStack.mode = .str "parallel" ∧ rt'.state.continuity = rt.state.continuity := by
  refine ⟨{ rt with state := rt.state.update utc (PulseOpts.read (neurosyncOpts m)) },
    fun n => utc ((PulseOpts.read (neurosyncOpts m)).reads + n), ?_, rfl, rfl⟩
  have hmission : (PulseOpts.read (neurosyncOpts m)).mission = m :=
    JsVal.coalesce_of_isNullish_false hm _
  rw [@pulse_eq sha256 rt utc (neurosyncOpts m) rfl, hmission]
  rfl

/-- `/neurosync`, from any kernel: it fails, with a 500, exactly when the body is
`undefined` or `null` or its mission does not print; otherwise it chains one link that
carries the mission. The request turns the quad stack on with the mode `'parallel'` before
the packet prints the mode, so no mode an earlier request left can make it fail. -/
theorem handle_neurosync (body : JsVal) :
    ((handle sha256 toLocaleString rt utc (.neurosync body)).1 = .serverError ↔
      body.isNullish = true ∨
        ((body.prop "mission").coalesce (.str "SOVEREIGN OPS")).concatStr.isOk = false) ∧
    (body.isNullish = false →
      ((body.prop "mission").coalesce (.str "SOVEREIGN OPS")).concatStr.isOk = true →
      ∃ l : Link, l.mission = (body.prop "mission").coalesce (.str "SOVEREIGN OPS") ∧
        (handle sha256 toLocaleString rt utc (.neurosync body)).2.state.continuity =
          rt.state.continuity.push l) := by
  cases hn : body.isNullish
  · obtain ⟨rt', u, hp, hmode, hcont⟩ := pulse_neurosyncOpts sha256 rt utc
      (JsVal.isNullish_coalesce (body.prop "mission") (d := .str "SOVEREIGN OPS") rfl)
    have hok : (neuroSync sha256 rt' u ((body.prop "mission").coalesce (.str "SOVEREIGN OPS"))).1.isOk =
        ((body.prop "mission").coalesce (.str "SOVEREIGN OPS")).concatStr.isOk := by
      rw [neuroSync_isOk, packetBody_isOk, hmode]
      simp [Except.isOk, Except.toBool]
    simp only [handle, hn, Bool.false_eq_true, if_false, hp, jsonOr_eq_serverError, isOk_map, hok,
      false_or]
    refine ⟨trivial, fun _ hc => ?_⟩
    rcases @neuroSync_spec sha256 rt' u
        ((body.prop "mission").coalesce (.str "SOVEREIGN OPS")) with ⟨-, h₁⟩ | ⟨b, -, -, h₂⟩
    · rw [hok, hc] at h₁
      cases h₁
    · exact ⟨_, rfl, by rw [h₂, hcont]⟩
  · simp [handle, hn]

/-- A `/pulse` that asks for a packet without turning the quad stack on, on a kernel whose
mode does not print, fails and chains nothing. -/
theorem handle_pulse_of_mode (body : JsVal) (hm : rt.state.quadStack.mode.concatStr.isOk = false)
    (hb : body.isNullish = false) (he : (body.prop "emitNeuro").truthy = true)
    (hq : (body.prop "quadUp").truthy = false) :
    (handle sha256 toLocaleString rt utc (.pulse body)).1 = .serverError ∧
      (handle sha256 toLocaleString rt utc (.pulse body)).2.state.continuity =
        rt.state.continuity := by
  have hp : (rt.pulse sha256 utc body).1.isOk = false := by
    have he' : (PulseOpts.read body).emitNeuro = true := he
    have hq' : (PulseOpts.read body).quadUp = false := hq
    rw [pulse_eq sha256 hb, if_pos he', isOk_map, neuroSync_isOk, packetBody_isOk]
    simp [PAXState.update_quadStack, hq', hm]
  exact ⟨(jsonOr_eq_serverError _ _).mpr hp, (pulse_of_not_isOk sha256 rt utc hp).2⟩

/-- A mode that does not print, once set, stays until an event sets another, and until
then every `/pulse` whose body asks for a packet without turning the quad stack on fails
with a 500 and chains nothing: after any run, from any kernel, whose last mode-setting
event set such a mode. -/
theorem run_pulse_poisoned (es : List (Event × (ℕ → String))) (m : JsVal)
    (hlast : (es.filterMap fun x => x.1.setsMode).getLast? = some m)
    (hm : m.concatStr.isOk = false) (body : JsVal) (hb : body.isNullish = false)
    (he : (body.prop "emitNeuro").truthy = true) (hq : (body.prop "quadUp").truthy = false) :
    (handle sha256 toLocaleString (run sha256 toLocaleString rt es) utc (.pulse body)).1 =
        .serverError ∧
      (handle sha256 toLocaleString (run sha256 toLocaleString rt es) utc (.pulse body)).2.state.continuity =
        (run sha256 toLocaleString rt es).state.continuity := by
  have hmode : (run sha256 toLocaleString rt es).state.quadStack.mode = m := by
    rw [run_last sha256 toLocaleString (·.state.quadStack.mode) (fun x => x.1.setsMode)
      (fun rt e utc => Event.apply_mode sha256 toLocaleString rt e utc), hlast]
    rfl
  exact handle_pulse_of_mode sha256 toLocaleString _ utc body (hmode ▸ hm) hb he hq

/-- A pulse that sets a mode with an own `toString` makes the next packet request fail. -/
theorem toString_mode_poisons_pulse :
    let es : List (Event × (ℕ → String)) := [(.request (.pulse (.obj [("quadUp", .bool true),
      ("mode", .obj [("toString", .num (.fin 1))])])), fun _ => "")]
    let rt := run id (fun _ => "") (create "s" "t") es
    (handle id (fun _ => "") rt (fun _ => "") (.pulse (.obj [("emitNeuro", .bool true)]))).1 =
        .serverError ∧
      (handle id (fun _ => "") rt (fun _ => "")
        (.pulse (.obj [("emitNeuro", .bool true)]))).2.state.continuity = rt.state.continuity :=
  run_pulse_poisoned id (fun _ => "") (create "s" "t") (fun _ => "")
    [(.request (.pulse (.obj [("quadUp", .bool true), ("mode", .obj [("toString", .num (.fin 1))])])),
      fun _ => "")] _ rfl rfl _ rfl rfl rfl

end Failures

end Kernel

end SovereignLoop
