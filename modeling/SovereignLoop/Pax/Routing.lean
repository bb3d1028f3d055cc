import SovereignLoop.Pax.Runtime

/-!
# Concurrent calls of `route`

Each call of `route` runs up to its `await` at once and is then suspended; the suspended
calls go on in any order, each possibly with a `pax:routed` listener that throws. The
listener is passed the stored result; the model lets it return or throw, never write to
it. A `PaxSys` is the runtime with the calls in flight, a `PaxEvent` what can happen
next.

* In every interleaving the calls in flight hold distinct agents, each `processing`
  (`reachable_exclusive`): `assignAgent` and `updateAgentStatus` run in one segment.
* When no call throws before its counters, every agent not held by a call in flight is
  idle, so with no call in flight `route` always finds an agent (`cleanRun_routes`).
* A call whose ROI or signature throws never sets its agent back to `idle`. Thirteen
  records with a `BigInt` revenue leave the default crew all `processing`, and `route`
  rejects with `No agents available` from then on (`bigint_calls_exhaust_agents`).
-/

namespace SovereignLoop

/-- A runtime and the calls of `route` suspended at their `await`. -/
structure PaxSys where
  runtime : PAXRuntime
  calls : List PAXRuntime.RouteCall

/-- What can happen next. -/
inductive PaxEvent where
  /-- A call `route(data, operation)`, with the clock reading of its first segment. -/
  | route (data : JsRecord) (operation : String) (now : ℚ)
  /-- Call `i` goes on from its `await`; `throws` says whether a `pax:routed` listener
  throws. -/
  | resume (i : ℕ) (now : ℚ) (throws : Bool)

namespace PAXRuntime

/-! ## The agents after each segment -/

variable {rt : PAXRuntime} {k k' : String} {f : AgentState → AgentState}

/-- Each agent is stored under its own id. -/
def KeysOk (m : JsMap AgentState) : Prop := ∀ e ∈ m.entries, e.2.id = e.1

theorem get?_modifyAgent :
    (rt.modifyAgent k f).agents.get? k' =
      if k' = k then (rt.agents.get? k).map f else rt.agents.get? k' := by
  unfold modifyAgent
  split
  · rename_i a ha
    simp [JsMap.get?_set, ha]
  · rename_i ha
    split_ifs with h <;> simp [h, ha]

theorem KeysOk.modifyAgent (h : KeysOk rt.agents) (hf : ∀ a, (f a).id = a.id) :
    KeysOk (rt.modifyAgent k f).agents := by
  unfold PAXRuntime.modifyAgent
  split
  · rename_i a ha
    intro e he
    rcases JsMap.mem_set.mp he with rfl | ⟨he, -⟩
    · simp only [hf]
      exact h _ (JsMap.get?_eq_some_iff.mp ha)
    · exact h e he
  · exact h

/-- Every agent of a new crew is one of the roster, stored under its id, idle, with
confidence `1` and no task done. -/
theorem mem_initializeAgents {agentCount now : ℚ} {e : String × AgentState}
    (he : e ∈ (initializeAgents agentCount now).entries) :
    ∃ t ∈ agentRoster, e = (t.1, ⟨t.1, t.2.1, t.2.2, .idle, 1, 0, now⟩) := by
  suffices ∀ (l : List (String × String × String)) (m : JsMap AgentState),
      (∀ e ∈ m.entries, ∃ t ∈ agentRoster, e = (t.1, ⟨t.1, t.2.1, t.2.2, .idle, 1, 0, now⟩)) →
      (∀ t ∈ l, t ∈ agentRoster) →
      ∀ e ∈ (l.foldl (fun m t => m.set t.1 ⟨t.1, t.2.1, t.2.2, .idle, 1, 0, now⟩) m).entries,
        ∃ t ∈ agentRoster, e = (t.1, ⟨t.1, t.2.1, t.2.2, .idle, 1, 0, now⟩) from
    this _ JsMap.empty (fun _ h => nomatch h) (fun _ ht => List.mem_of_mem_take ht) e he
  intro l
  induction l with
  | nil => exact fun _ h _ => h
  | cons t l ih =>
    refine fun m h hl => ih _ (fun e he => ?_) fun t' ht' => hl t' (List.mem_cons_of_mem _ ht')
    rcases JsMap.mem_set.mp he with rfl | ⟨he, -⟩
    · exact ⟨t, hl t (List.mem_cons_self _ _), rfl⟩
    · exact h e he

/-- A new runtime stores each agent under its id, idle. -/
theorem create_entries (config : PAXConfig) (now : ℚ) :
    ∀ e ∈ (PAXRuntime.create config now).agents.entries, e.2.id = e.1 ∧ e.2.status = .idle := by
  intro e he
  obtain ⟨t, -, rfl⟩ := mem_initializeAgents he
  exact ⟨rfl, rfl⟩

theorem KeysOk.create (config : PAXConfig) (now : ℚ) :
    KeysOk (PAXRuntime.create config now).agents :=
  fun e he => (create_entries config now e he).1

/-- `assignAgent` returns a stored idle agent. -/
theorem assignAgent_spec {operation : String} {a : AgentState}
    (h : rt.assignAgent operation = some a) :
    a ∈ rt.agents.entries.map Prod.snd ∧ a.status = .idle := by
  dsimp only [assignAgent] at h
  split at h
  · rename_i a' ha
    cases h
    have hp := List.find?_some ha
    simp only [decide_eq_true_eq] at hp
    exact ⟨List.mem_of_find?_eq_some ha, hp.1⟩
  · have hp := List.find?_some h
    simp only [decide_eq_true_eq] at hp
    exact ⟨List.mem_of_find?_eq_some h, hp⟩

/-- `assignAgent` finds no agent exactly when none is idle. -/
theorem assignAgent_eq_none {operation : String} :
    rt.assignAgent operation = none ↔ ∀ e ∈ rt.agents.entries, e.2.status ≠ .idle := by
  dsimp only [assignAgent]
  split
  · rename_i a ha
    obtain ⟨hidle, -⟩ := by simpa using List.find?_some ha
    have hmem := List.mem_of_find?_eq_some ha
    simp only [List.mem_map] at hmem
    obtain ⟨e, he, rfl⟩ := hmem
    simp only [reduceCtorEq, false_iff, not_forall, not_not]
    exact ⟨e, he, hidle⟩
  · simp [List.find?_eq_none]

theorem routeStart_ok {data : JsRecord} {operation : String} {now : ℚ} {rt' : PAXRuntime}
    {call : RouteCall} (h : rt.routeStart data operation now = .ok (rt', call)) :
    ∃ a, rt.assignAgent operation = some a ∧ rt' = rt.updateAgentStatus a.id .processing now ∧
      call.agentId = a.id := by
  unfold routeStart at h
  split at h
  · cases h
  · rename_i a ha
    cases h
    exact ⟨a, ha, rfl, rfl⟩

section Finish

variable {c : RouteCall} {now : ℚ} {throws : Bool}

/-- A throw in `scoreROI` or `generateQuantumSignature` leaves the runtime as it was. -/
theorem routeFinish_of_error {e : JsError} (he : rt.scoreAndSign c now = .error e) :
    rt.routeFinish c now throws = (rt, .error (.thrown e)) := by
  simp [routeFinish, he]

theorem get?_routeFinish_of_ne (hk : k ≠ c.agentId) :
    (rt.routeFinish c now throws).1.agents.get? k = rt.agents.get? k := by
  unfold routeFinish
  split
  · rfl
  · simp only [updateAgentStatus, get?_modifyAgent, hk, if_false]

/-- A call whose ROI and signature are computed sets its agent `idle`, one task more. -/
theorem get?_routeFinish_of_ok {r : JsNum × Option String} (ho : rt.scoreAndSign c now = .ok r) :
    (rt.routeFinish c now throws).1.agents.get? c.agentId =
      (rt.agents.get? c.agentId).map fun a =>
        { a with status := .idle, tasksCompleted := a.tasksCompleted + 1, lastActivity := now } := by
  simp only [routeFinish, ho, updateAgentStatus, get?_modifyAgent, if_true, Option.map_map]
  rfl

theorem KeysOk.routeFinish (h : KeysOk rt.agents) :
    KeysOk (rt.routeFinish c now throws).1.agents := by
  unfold PAXRuntime.routeFinish
  split
  · exact h
  · exact (KeysOk.modifyAgent (KeysOk.modifyAgent h fun _ => rfl) fun _ => rfl)

end Finish

end PAXRuntime

namespace PaxSys

open PAXRuntime

/-- A new runtime, with no call in flight. -/
def create (config : PAXConfig) (now : ℚ) : PaxSys := ⟨PAXRuntime.create config now, []⟩

/-- One event; `none` when call `i` is not in flight. A call that rejects at once leaves
nothing in flight. -/
def step (s : PaxSys) : PaxEvent → Option PaxSys
  | .route data operation now =>
    some (match s.runtime.routeStart data operation now with
      | .ok (rt, call) => ⟨rt, s.calls ++ [call]⟩
      | .error _ => s)
  | .resume i now throws =>
    (s.calls.get? i).map fun call =>
      ⟨(s.runtime.routeFinish call now throws).1, s.calls.eraseIdx i⟩

/-- A sequence of events. -/
def run (s : PaxSys) (es : List PaxEvent) : Option PaxSys := es.foldlM step s

/-- The interleavings from a new runtime. -/
inductive Reachable (config : PAXConfig) : PaxSys → Prop
  | create (now : ℚ) : Reachable config (create config now)
  | step {s s' : PaxSys} (e : PaxEvent) : Reachable config s → s.step e = some s' →
      Reachable config s'

/-! ## Mutual exclusion -/

/-- What holds in every interleaving: each agent is stored under its id, and the calls in
flight hold distinct agents, each `processing`. -/
structure Exclusive (s : PaxSys) : Prop where
  keys : KeysOk s.runtime.agents
  distinct : (s.calls.map (·.agentId)).Nodup
  processing : ∀ c ∈ s.calls, ∃ a, s.runtime.agents.get? c.agentId = some a ∧
    a.status = .processing

/-- The calls left when call `i` resumes hold other agents than it. -/
theorem agentId_ne_of_mem_eraseIdx {calls : List RouteCall} {i : ℕ} {call c : RouteCall}
    (hd : (calls.map (·.agentId)).Nodup) (hi : calls.get? i = some call)
    (hc : c ∈ calls.eraseIdx i) : c.agentId ≠ call.agentId := by
  obtain ⟨j, hji, hj⟩ := List.mem_eraseIdx_iff_getElem?.mp hc
  intro heq
  have hjlen : j < (calls.map (·.agentId)).length := by
    rw [List.length_map]
    exact (List.getElem?_eq_some_iff.mp hj).1
  have hij : (calls.map (·.agentId))[j]? = (calls.map (·.agentId))[i]? := by
    rw [List.get?_eq_getElem?] at hi
    simp [hj, hi, heq]
  exact hji (List.getElem?_inj hjlen hd hij)

/-- A stored idle agent is held by no call in flight. -/
theorem Exclusive.not_held {s : PaxSys} (h : Exclusive s) {a : AgentState}
    (ha : a ∈ s.runtime.agents.entries.map Prod.snd) (hidle : a.status = .idle) :
    a.id ∉ s.calls.map (·.agentId) := by
  simp only [List.mem_map] at ha ⊢
  obtain ⟨e, he, rfl⟩ := ha
  rintro ⟨c, hc, hid⟩
  obtain ⟨b, hb, hproc⟩ := h.processing c hc
  have hkey := h.keys e he
  rw [hid, hkey, JsMap.get?_eq_some_iff.mpr he] at hb
  cases hb
  rw [hidle] at hproc
  cases hproc

theorem Exclusive.step {s s' : PaxSys} (h : Exclusive s) {e : PaxEvent}
    (hs : s.step e = some s') : Exclusive s' := by
  cases e with
  | route data operation now =>
    simp only [PaxSys.step, Option.some.injEq] at hs
    subst hs
    split
    · rename_i rt call hrc
      obtain ⟨a, ha, rfl, hcall⟩ := routeStart_ok hrc
      obtain ⟨hmem, hidle⟩ := assignAgent_spec ha
      have hfree := h.not_held hmem hidle
      refine ⟨h.keys.modifyAgent fun _ => rfl, ?_, ?_⟩
      · rw [List.map_append, List.nodup_append]
        exact ⟨h.distinct, List.nodup_singleton _, by simpa [hcall] using hfree⟩
      · intro c hc
        simp only [updateAgentStatus, get?_modifyAgent]
        rcases List.mem_append.mp hc with hc' | hc'
        · have hne : c.agentId ≠ a.id := fun heq => hfree (heq ▸ List.mem_map_of_mem _ hc')
          simpa [hne] using h.processing c hc'
        · obtain ⟨e, he, rfl⟩ := List.mem_map.mp hmem
          rw [List.mem_singleton] at hc'
          subst hc'
          rw [hcall, h.keys e he, JsMap.get?_eq_some_iff.mpr he]
          simp
    · exact h
  | resume i now throws =>
    simp only [PaxSys.step, Option.map_eq_some'] at hs
    obtain ⟨call, hi, rfl⟩ := hs
    refine ⟨h.keys.routeFinish, ?_, fun c hc => ?_⟩
    · exact h.distinct.sublist ((List.eraseIdx_sublist _ _).map _)
    · rw [get?_routeFinish_of_ne (agentId_ne_of_mem_eraseIdx h.distinct hi hc)]
      exact h.processing c ((List.eraseIdx_sublist _ _).subset hc)

/-- In every interleaving of calls of `route`, the calls in flight hold distinct agents,
each `processing`: no agent is assigned to two calls in flight at once. -/
theorem reachable_exclusive {config : PAXConfig} {s : PaxSys} (h : Reachable config s) :
    (s.calls.map (·.agentId)).Nodup ∧
      ∀ c ∈ s.calls, ∃ a, s.runtime.agents.get? c.agentId = some a ∧ a.status = .processing := by
  suffices hx : Exclusive s from ⟨hx.distinct, hx.processing⟩
  induction h with
  | create now => exact ⟨KeysOk.create config now, List.nodup_nil, nofun⟩
  | step e _ hs ih => exact ih.step hs

/-- Two calls of `route` in flight at once on the default runtime hold two distinct
agents, both `processing`. -/
theorem two_routes_exclusive :
    ∃ s, (create PAXConfig.default 0).run
        [.route JsRecord.empty "extract" 0, .route JsRecord.empty "extract" 0] = some s ∧
      s.calls.length = 2 ∧ Reachable PAXConfig.default s ∧
      ((s.calls.map (·.agentId)).Nodup ∧
        ∀ c ∈ s.calls, ∃ a, s.runtime.agents.get? c.agentId = some a ∧ a.status = .processing) :=
  have h : Reachable PAXConfig.default _ := .step (.route JsRecord.empty "extract" 0)
    (.step (.route JsRecord.empty "extract" 0) (.create 0) rfl) rfl
  ⟨_, rfl, rfl, h, reachable_exclusive h⟩

/-! ## Interleavings without a throw before the counters -/

/-- Whether event `e` computes the ROI and the signature of the call it resumes without a
throw. -/
def Clean (s : PaxSys) : PaxEvent → Prop
  | .route .. => True
  | .resume i now _ =>
    ∀ call, s.calls.get? i = some call → ∃ r, s.runtime.scoreAndSign call now = .ok r

/-- The interleavings from a new runtime in which no resumed call throws in `scoreROI` or
`generateQuantumSignature`; `pax:routed` listeners may throw. -/
inductive CleanRun (config : PAXConfig) : PaxSys → Prop
  | create (now : ℚ) : CleanRun config (create config now)
  | step {s s' : PaxSys} (e : PaxEvent) : CleanRun config s → s.Clean e →
      s.step e = some s' → CleanRun config s'

/-- Every stored agent is idle or held by a call in flight. -/
def Idle (s : PaxSys) : Prop :=
  ∀ k a, s.runtime.agents.get? k = some a → a.status = .idle ∨ k ∈ s.calls.map (·.agentId)

/-- An agent held by another call than call `i` is still held when call `i` is done. -/
theorem mem_map_eraseIdx {calls : List RouteCall} {i : ℕ} {call : RouteCall} {k : String}
    (hk : k ∈ calls.map (·.agentId)) (hi : calls.get? i = some call) (hne : k ≠ call.agentId) :
    k ∈ (calls.eraseIdx i).map (·.agentId) := by
  obtain ⟨c, hc, rfl⟩ := List.mem_map.mp hk
  obtain ⟨j, hj⟩ := List.mem_iff_getElem?.mp hc
  have hji : j ≠ i := by
    rintro rfl
    rw [List.get?_eq_getElem?, hj, Option.some.injEq] at hi
    exact hne (hi ▸ rfl)
  exact List.mem_map_of_mem _ (List.mem_eraseIdx_iff_getElem?.mpr ⟨j, hji, hj⟩)

theorem Idle.step {s s' : PaxSys} (h : Idle s) {e : PaxEvent}
    (hc : s.Clean e) (hs : s.step e = some s') : Idle s' := by
  cases e with
  | route data operation now =>
    simp only [PaxSys.step, Option.some.injEq] at hs
    subst hs
    split
    · rename_i rt call hrc
      obtain ⟨a, -, rfl, hcall⟩ := routeStart_ok hrc
      intro k b hb
      simp only [updateAgentStatus, get?_modifyAgent] at hb
      split_ifs at hb with hk
      · exact .inr (by simp [hk, hcall])
      · rcases h k b hb with hidle | hheld
        · exact .inl hidle
        · exact .inr (by simp only [List.map_append, List.mem_append]; exact .inl hheld)
    · exact h
  | resume i now throws =>
    simp only [PaxSys.step, Option.map_eq_some'] at hs
    obtain ⟨call, hi, rfl⟩ := hs
    obtain ⟨r, hr⟩ := hc call hi
    intro k b hb
    by_cases hk : k = call.agentId
    · subst hk
      rw [get?_routeFinish_of_ok hr, Option.map_eq_some'] at hb
      obtain ⟨a, -, rfl⟩ := hb
      exact .inl rfl
    · rw [get?_routeFinish_of_ne hk] at hb
      rcases h k b hb with hidle | hheld
      · exact .inl hidle
      · exact .inr (mem_map_eraseIdx hheld hi hk)

/-- In an interleaving where no resumed call throws before its counters, whenever no call
is in flight every agent is idle, and `route` then finds an agent for every record and
operation unless the crew is empty. -/
theorem cleanRun_routes {config : PAXConfig} {s : PaxSys} (h : CleanRun config s)
    (hc : s.calls = []) :
    (∀ e ∈ s.runtime.agents.entries, e.2.status = .idle) ∧
      (s.runtime.agents.entries ≠ [] →
        ∀ data operation now, ∃ r, s.runtime.routeStart data operation now = .ok r) := by
  have hinv : Exclusive s ∧ Idle s := by
    clear hc
    induction h with
    | create now =>
      exact ⟨⟨KeysOk.create config now, List.nodup_nil, nofun⟩, fun k a ha =>
        .inl (create_entries config now (k, a) (JsMap.get?_eq_some_iff.mp ha)).2⟩
    | step e _ hclean hs ih => exact ⟨ih.1.step hs, ih.2.step hclean hs⟩
  have hidle : ∀ e ∈ s.runtime.agents.entries, e.2.status = .idle := fun e he => by
    rcases hinv.2 e.1 e.2 (JsMap.get?_eq_some_iff.mpr he) with hi | hheld
    · exact hi
    · simp [hc] at hheld
  refine ⟨hidle, fun hne data operation now => ?_⟩
  obtain ⟨e, he⟩ := List.exists_mem_of_ne_nil _ hne
  have hsome : s.runtime.assignAgent operation ≠ none := fun hnone =>
    assignAgent_eq_none.mp hnone e he (hidle e he)
  obtain ⟨a, ha⟩ := Option.ne_none_iff_exists'.mp hsome
  unfold routeStart
  rw [ha]
  exact ⟨_, rfl⟩

/-- The default runtime after one call of `route` on an empty record, resumed after its
`await`. -/
theorem route_resumed_routes :
    ∃ s, (create PAXConfig.default 0).run
        [.route JsRecord.empty "extract" 0, .resume 0 1000 false] = some s ∧
      CleanRun PAXConfig.default s ∧ s.calls = [] ∧
      ((∀ e ∈ s.runtime.agents.entries, e.2.status = .idle) ∧
        (s.runtime.agents.entries ≠ [] →
          ∀ data operation now, ∃ r, s.runtime.routeStart data operation now = .ok r)) :=
  have h : CleanRun PAXConfig.default _ := .step (.resume 0 1000 false)
    (.step (.route JsRecord.empty "extract" 0) (.create 0) trivial rfl)
    (fun _ hc => by cases Option.some.inj hc; exact ⟨_, rfl⟩) rfl
  ⟨_, rfl, h, rfl, cleanRun_routes h rfl⟩

/-! ## A throw after the `await` -/

theorem run_append (s : PaxSys) (es es' : List PaxEvent) :
    s.run (es ++ es') = (s.run es).bind (·.run es') :=
  List.foldlM_append _ _ _ _

/-- Setting the idle entry stored under `k` to a status other than idle leaves one idle
entry fewer: keys are distinct, so it is the only entry replaced. -/
theorem countP_idle_replace {l : List (String × AgentState)} (hl : (l.map Prod.fst).Nodup)
    {k : String} {a b : AgentState} (hmem : (k, a) ∈ l) (ha : a.status = .idle)
    (hb : b.status ≠ .idle) :
    (l.map fun e => if e.1 = k then (k, b) else e).countP (·.2.status = .idle) + 1 =
      l.countP (·.2.status = .idle) := by
  induction l with
  | nil => simp at hmem
  | cons e l ih =>
    simp only [List.map_cons, List.nodup_cons, List.mem_map] at hl
    by_cases he : e.1 = k
    · have hk : ∀ x ∈ l, x.1 ≠ k := fun x hx hxk => hl.1 ⟨x, hx, hxk.trans he.symm⟩
      obtain rfl : e = (k, a) :=
        (List.mem_cons.mp hmem).elim Eq.symm fun h => (hk _ h rfl).elim
      have hid : (l.map fun e => if e.1 = k then (k, b) else e) = l :=
        (List.map_congr_left (g := id) fun x hx => if_neg (hk x hx)).trans (List.map_id l)
      simp [hid, ha, hb]
    · have hmem' : (k, a) ∈ l := (List.mem_cons.mp hmem).resolve_left fun h => he (h ▸ rfl)
      simp only [List.map_cons, he, if_false, List.countP_cons, ← ih hl.2 hmem']
      omega

/-- Marking the agent `assignAgent` picks `processing` keeps the keys, leaves one idle
agent fewer, and sets no status but `processing`. -/
theorem updateAgentStatus_assigned {rt : PAXRuntime} (hk : KeysOk rt.agents)
    {operation : String} {a : AgentState} (ha : rt.assignAgent operation = some a) (now : ℚ) :
    KeysOk (rt.updateAgentStatus a.id .processing now).agents ∧
      (rt.updateAgentStatus a.id .processing now).agents.size = rt.agents.size ∧
      (rt.updateAgentStatus a.id .processing now).agents.entries.countP (·.2.status = .idle) + 1 =
        rt.agents.entries.countP (·.2.status = .idle) ∧
      ∀ e ∈ (rt.updateAgentStatus a.id .processing now).agents.entries,
        e.2.status = .processing ∨ e ∈ rt.agents.entries := by
  have hk' : KeysOk (rt.updateAgentStatus a.id .processing now).agents :=
    hk.modifyAgent fun _ => rfl
  obtain ⟨hmem, hidle⟩ := assignAgent_spec ha
  obtain ⟨⟨k, a⟩, he, rfl⟩ := List.mem_map.mp hmem
  obtain rfl : a.id = k := hk _ he
  have hhas : rt.agents.has a.id := JsMap.has_iff.mpr ⟨a, he⟩
  have hupd : rt.updateAgentStatus a.id .processing now =
      { rt with agents := rt.agents.set a.id { a with status := .processing, lastActivity := now } } := by
    simp only [updateAgentStatus, modifyAgent, JsMap.get?_eq_some_iff.mpr he]
  rw [hupd] at hk' ⊢
  refine ⟨hk', by simp [JsMap.size_set, hhas], ?_, fun e he' => ?_⟩
  · rw [JsMap.entries_set_of_has hhas]
    exact countP_idle_replace rt.agents.nodup he hidle (by simp)
  · rcases JsMap.mem_set.mp he' with rfl | ⟨he', -⟩
    · exact .inl rfl
    · exact .inr he'

section Leak

variable {data : JsRecord} (hroi : ∀ c, ∃ e, scoreROI data c = .error e) (operation : String)
  (now : ℚ)

include hroi in
/-- A call of `route` whose `scoreROI` throws, resumed after its `await`, leaves the agent it
assigned `processing` and no call in flight. -/
theorem run_route_leaks {rt : PAXRuntime} {a : AgentState} (ha : rt.assignAgent operation = some a)
    (now' : ℚ) (throws : Bool) :
    (⟨rt, []⟩ : PaxSys).run [.route data operation now, .resume 0 now' throws] =
      some ⟨rt.updateAgentStatus a.id .processing now, []⟩ := by
  obtain ⟨e, he⟩ := hroi (computeConfidence data operation)
  have hs : (rt.updateAgentStatus a.id .processing now).scoreAndSign
      ⟨a.id, data, computeConfidence data operation⟩ now' = .error e := by
    simp [scoreAndSign, he]
  simp [run, step, routeStart, ha, routeFinish_of_error hs]

include hroi in
/-- `n` such calls in a row, each resumed before the next: while idle agents remain, each
call leaves one more agent `processing` for good. -/
theorem run_routes_leak : ∀ (n : ℕ) (rt : PAXRuntime), KeysOk rt.agents →
    n ≤ rt.agents.entries.countP (·.2.status = .idle) →
    ∃ rt', (⟨rt, []⟩ : PaxSys).run
        ((List.range n).flatMap fun _ => [.route data operation now, .resume 0 now false]) =
        some ⟨rt', []⟩ ∧ KeysOk rt'.agents ∧ rt'.agents.size = rt.agents.size ∧
      rt'.agents.entries.countP (·.2.status = .idle) + n =
        rt.agents.entries.countP (·.2.status = .idle) ∧
      ∀ e ∈ rt'.agents.entries, e.2.status = .processing ∨ e ∈ rt.agents.entries
  | 0, rt, hk, _ => ⟨rt, rfl, hk, rfl, rfl, fun _ he => .inr he⟩
  | n + 1, rt, hk, hn => by
    obtain ⟨rt', hrun, hk', hsize, hcount, hmem⟩ :=
      run_routes_leak n rt hk (by omega)
    obtain ⟨e, he, hidle⟩ := List.countP_pos_iff.mp (by omega :
      0 < rt'.agents.entries.countP (·.2.status = .idle))
    obtain ⟨a, ha⟩ := Option.ne_none_iff_exists'.mp fun h =>
      assignAgent_eq_none.mp h e he (by simpa using hidle)
    obtain ⟨hk'', hsize', hcount', hmem'⟩ := updateAgentStatus_assigned hk' ha now
    refine ⟨_, ?_, hk'', hsize'.trans hsize, by omega, fun x hx => ?_⟩
    · rw [List.range_succ, List.flatMap_append, List.flatMap_singleton, run_append, hrun]
      exact run_route_leaks hroi operation now ha now false
    · exact (hmem' x hx).elim .inl (hmem x)

end Leak

/-- Thirteen calls `route({ revenue: 5n })` on the default runtime, each resumed after its
`await`: `scoreROI` throws a `TypeError` at `revenue - cost`, a `BigInt` minus the number
`1`, before the agent is set back to `idle`. Afterwards no call is in flight, the 13 agents
are all `processing`, and every later call of `route` rejects with `No agents available`. -/
theorem bigint_calls_exhaust_agents :
    (let data : JsRecord := ⟨[("revenue", .bigint 5)], by decide⟩
    ∃ s, (create PAXConfig.default 0).run
        ((List.range 13).flatMap fun _ => [.route data "extract" 0, .resume 0 0 false]) = some s ∧
      s.calls = [] ∧ s.runtime.agents.size = 13 ∧
      (∀ e ∈ s.runtime.agents.entries, e.2.status = .processing) ∧
      ∀ data' operation now, s.runtime.routeStart data' operation now = .error .noAgents) := by
  intro data
  have hall := create_entries PAXConfig.default 0
  have hsize : (PAXRuntime.create PAXConfig.default 0).agents.entries.length = 13 := rfl
  have hidle : (PAXRuntime.create PAXConfig.default 0).agents.entries.countP
      (·.2.status = .idle) = 13 := by
    rw [List.countP_eq_length.mpr fun e he => by simpa using (hall e he).2, hsize]
  obtain ⟨rt, hrun, -, hsize', hcount, hmem⟩ :=
    run_routes_leak (fun _ => ⟨.typeError, rfl⟩ : ∀ c, ∃ e, scoreROI data c = .error e) "extract" 0 13 _
      (KeysOk.create PAXConfig.default 0) hidle.ge
  have h0 : rt.agents.entries.countP (·.2.status = .idle) = 0 := by omega
  have hproc : ∀ e ∈ rt.agents.entries, e.2.status = .processing := fun e he =>
    (hmem e he).resolve_right fun he' =>
      List.countP_eq_zero.mp h0 e he (by simpa using (hall e he').2)
  refine ⟨⟨rt, []⟩, hrun, rfl, hsize'.trans hsize, hproc, fun data' operation now => ?_⟩
  have hnone : rt.assignAgent operation = none :=
    assignAgent_eq_none.mpr fun e he hidle => by simp [hproc e he] at hidle
  simp [routeStart, hnone]

end PaxSys

end SovereignLoop
