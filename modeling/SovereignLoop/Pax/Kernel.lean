import SovereignLoop.Js.Value
import SovereignLoop.Js.Binary64

/-!
# The PAX runtime kernel

The kernel file defines a second `PAXRuntime`, the singleton the sovereignty API serves: a
state record of counters and timestamps (`pulse`, `codex`, `quadStack`), a continuity chain
of NEUROSYNC tokens, and a vault of JSON values. It is `Kernel.PAXRuntime` here.

`pulse(opts)` reads its options off whatever the request body holds, so `opts` is a
`JsVal`, read with the language's property access and `??` (`PulseOpts.read`). A counter's
`++` is a binary64 addition (`jsIncr`). `new Date().toISOString()` is an input: `utc i` is
what its `i`-th call within one call of the kernel returns, so each method takes the
readings from its own start. The hex digest of `createHash('sha256')` is the parameter
`sha256`.

Printing a value into a NEUROSYNC packet can throw (`JsVal.concatStr`); the option updates
made before it stay, as in the source (`pulse_eq`).
-/

namespace SovereignLoop

namespace Kernel

/-! ## State -/

/-- `PAXState.pulse`. The note is whatever `opts.note ?? 'auto'` gave. -/
structure Pulse where
  count : ℚ
  intensity : ℚ
  lastUtc : Option String
  lastNote : JsVal

/-- `PAXState.codex`. -/
structure Codex where
  synced : Bool
  syncCount : ℚ
  lastSyncUtc : Option String

/-- `PAXState.quadStack`. The mode is whatever `opts.mode ?? 'parallel'` gave. -/
structure QuadStack where
  enabled : Bool
  mode : JsVal
  aggregation : String
  lastChangeUtc : Option String

/-- An entry `{ utc, token, mission }` of the continuity chain. -/
structure Link where
  utc : String
  token : String
  mission : JsVal

/-- `PAXState.continuity`. -/
structure Continuity where
  chain : List Link
  lastToken : Option String

/-- `lastToken = token; chain.push(link)` for a link that carries `token`. -/
def Continuity.push (c : Continuity) (l : Link) : Continuity := ⟨c.chain ++ [l], some l.token⟩

/-- `PAXState`. -/
structure PAXState where
  version : String
  sessionId : String
  createdUtc : String
  pulse : Pulse
  codex : Codex
  quadStack : QuadStack
  continuity : Continuity

/-- A vault entry `{ value, ts, hash }`. -/
structure VaultEntry where
  value : JsVal
  ts : String
  hash : String

/-- The kernel's `PAXRuntime`: its state and its vault. -/
structure PAXRuntime where
  state : PAXState
  vault : JsMap VaultEntry

/-! ## The options of `pulse` -/

/-- The options `pulse` reads: the four switches, by truthiness, and the three texts with
their defaults. -/
structure PulseOpts where
  incr : Bool
  codexSync : Bool
  quadUp : Bool
  emitNeuro : Bool
  note : JsVal
  mode : JsVal
  mission : JsVal

/-- `opts.incr`, ..., `opts.note ?? 'auto'`, `opts.mode ?? 'parallel'`,
`opts.mission ?? 'SOVEREIGN OPS'` on an `opts` that is not `undefined` or `null`. Reading a
property has no effect, so reading all of them first is reading each where `pulse` does. -/
def PulseOpts.read (opts : JsVal) : PulseOpts where
  incr := (opts.prop "incr").truthy
  codexSync := (opts.prop "codexSync").truthy
  quadUp := (opts.prop "quadUp").truthy
  emitNeuro := (opts.prop "emitNeuro").truthy
  note := (opts.prop "note").coalesce (.str "auto")
  mode := (opts.prop "mode").coalesce (.str "parallel")
  mission := (opts.prop "mission").coalesce (.str "SOVEREIGN OPS")

/-- The number of clock readings the enabled switches take before `emitNeuro`. -/
def PulseOpts.reads (o : PulseOpts) : ℕ :=
  (if o.incr then 1 else 0) + (if o.codexSync then 1 else 0) + (if o.quadUp then 1 else 0)

/-- The three `if` blocks of `pulse`, each reading the clock once when its switch is on. -/
def PAXState.update (s : PAXState) (utc : ℕ → String) (o : PulseOpts) : PAXState :=
  let i := if o.incr then 1 else 0
  let j := i + if o.codexSync then 1 else 0
  { s with
    pulse := if o.incr then ⟨jsIncr s.pulse.count, jsIncr s.pulse.intensity, some (utc 0), o.note⟩
      else s.pulse
    codex := if o.codexSync then ⟨true, jsIncr s.codex.syncCount, some (utc i)⟩ else s.codex
    quadStack := if o.quadUp then
        { s.quadStack with enabled := true, mode := o.mode, lastChangeUtc := some (utc j) }
      else s.quadStack }

section

variable {utc : ℕ → String}

/-- A pulse keeps the version. -/
@[simp] theorem PAXState.update_version (s : PAXState) (o : PulseOpts) :
    (s.update utc o).version = s.version := rfl

@[simp] theorem PAXState.update_sessionId (s : PAXState) (o : PulseOpts) :
    (s.update utc o).sessionId = s.sessionId := rfl

@[simp] theorem PAXState.update_createdUtc (s : PAXState) (o : PulseOpts) :
    (s.update utc o).createdUtc = s.createdUtc := rfl

/-- A pulse keeps the continuity record. -/
@[simp] theorem PAXState.update_continuity (s : PAXState) (o : PulseOpts) :
    (s.update utc o).continuity = s.continuity := rfl

/-- With `incr` a pulse counts one more beat and raises the intensity by one. -/
@[simp] theorem PAXState.update_pulse (s : PAXState) (o : PulseOpts) :
    (s.update utc o).pulse =
      if o.incr then ⟨jsIncr s.pulse.count, jsIncr s.pulse.intensity, some (utc 0), o.note⟩
      else s.pulse := rfl

/-- With `codexSync` a pulse marks the codex synced and counts one more sync. -/
@[simp] theorem PAXState.update_codex (s : PAXState) (o : PulseOpts) :
    (s.update utc o).codex =
      if o.codexSync then ⟨true, jsIncr s.codex.syncCount, some (utc (if o.incr then 1 else 0))⟩
      else s.codex := rfl

/-- With `quadUp` a pulse enables the quad stack in the requested mode. -/
@[simp] theorem PAXState.update_quadStack (s : PAXState) (o : PulseOpts) :
    (s.update utc o).quadStack =
      if o.quadUp then
        ⟨true, o.mode, s.quadStack.aggregation,
          some (utc ((if o.incr then 1 else 0) + (if o.codexSync then 1 else 0)))⟩
      else s.quadStack := rfl

end

namespace PAXRuntime

/-- `new PAXRuntime()`, with the `uuid()` and the clock reading it takes. -/
def create (sessionId createdUtc : String) : PAXRuntime where
  state := ⟨"PAX.Runtime.v2.0", sessionId, createdUtc, ⟨0, 0, none, .null⟩, ⟨false, 0, none⟩,
    ⟨false, .str "parallel", "hybrid", none⟩, ⟨[], none⟩⟩
  vault := JsMap.empty

/-! ## `pulse` -/

variable (sha256 : String → String)

/-- The lines of a NEUROSYNC packet, joined by newlines. Printing the mission, then the
mode, can throw. -/
def packetBody (s : PAXState) (utc : String) (mission : JsVal) : Except JsError String := do
  let m ← mission.concatStr
  let q ← s.quadStack.mode.concatStr
  return "\n".intercalate ["NEUROSYNC:v2.0", "Timestamp: " ++ utc, "Mission: " ++ m,
    "Session: " ++ s.sessionId, "---", "Pulse: " ++ (JsNum.fin s.pulse.count).toStr,
    "Codex: " ++ (if s.codex.synced then "true" else "false"), "QuadStack: " ++ q, "---",
    "Agents: @STRAT @OPS @CODE @SENTINEL @NEO"]

/-- `createHash('sha256').update(body).digest('hex').slice(0, 32)`. -/
def token (body : String) : String := String.mk ((sha256 body).toList.take 32)

/-- `neuroSync(mission)`: the packet and its token; the token becomes the last one and is
chained with the second clock reading. -/
def neuroSync (rt : PAXRuntime) (utc : ℕ → String) (mission : JsVal) :
    Except JsError String × PAXRuntime :=
  match packetBody rt.state (utc 0) mission with
  | .error e => (.error e, rt)
  | .ok body =>
    (.ok (body ++ "\nHC-SHA256: " ++ token sha256 body),
      { rt with state :=
        { rt.state with continuity := rt.state.continuity.push ⟨utc 1, token sha256 body, mission⟩ } })

/-- `pulse(opts)`: `opts.incr` throws on an `undefined` or `null` body before anything
changes; otherwise the switches update the state, and `emitNeuro` returns a packet, with
the clock's next readings, in place of the state. -/
def pulse (rt : PAXRuntime) (utc : ℕ → String) (opts : JsVal) :
    Except JsError (PAXState ⊕ String) × PAXRuntime :=
  if opts.isNullish then (.error .typeError, rt) else
  let o := PulseOpts.read opts
  let rt' := { rt with state := rt.state.update utc o }
  if o.emitNeuro then
    let p := neuroSync sha256 rt' (fun n => utc (o.reads + n)) o.mission
    (p.1.map .inr, p.2)
  else (.ok (.inl rt'.state), rt')

/-! ## The vault and the readers -/

/-- `vaultSet(key, value)`: the entry is stored with the time and the hash of
`JSON.stringify(value)`. For a value with no JSON text `hash.update(undefined)` throws, and
`JSON.stringify` throws on a `BigInt`, before the vault changes. -/
def vaultSet (rt : PAXRuntime) (utc : String) (key : String) (value : JsVal) :
    Except JsError PAXRuntime :=
  match value.jsonStringify with
  | .ok (some text) => .ok { rt with vault := rt.vault.set key ⟨value, utc, sha256 text⟩ }
  | .ok none => .error .typeError
  | .error e => .error e

/-- Whether `vaultSet` stores a value: whether it has a JSON text. -/
def storable (value : JsVal) : Bool :=
  match value.jsonStringify with
  | .ok (some _) => true
  | _ => false

/-- `vaultGet(key)`: `this.vault.get(key)?.value`. -/
def vaultGet (rt : PAXRuntime) (key : String) : JsVal :=
  ((rt.vault.get? key).map (·.value)).getD .undefined

/-- `getState()`. -/
def getState (rt : PAXRuntime) : PAXState := rt.state

/-- What `getMetrics()` returns. -/
structure Metrics where
  pulseCount : ℚ
  codexSynced : Bool
  vaultSize : ℕ
  chainLength : ℕ

/-- `getMetrics()`. -/
def getMetrics (rt : PAXRuntime) : Metrics :=
  ⟨rt.state.pulse.count, rt.state.codex.synced, rt.vault.size, rt.state.continuity.chain.length⟩

/-! ## What each method changes -/

section Lemmas

variable {rt : PAXRuntime} {utc : ℕ → String}

/-- `neuroSync` touches only the continuity: it chains one link, whose token becomes the
last, exactly when the packet prints. -/
theorem neuroSync_spec (mission : JsVal) :
    (neuroSync sha256 rt utc mission).2 = rt ∧ (neuroSync sha256 rt utc mission).1.isOk = false ∨
      ∃ body, packetBody rt.state (utc 0) mission = .ok body ∧
        (neuroSync sha256 rt utc mission).1 = .ok (body ++ "\nHC-SHA256: " ++ token sha256 body) ∧
        (neuroSync sha256 rt utc mission).2 = { rt with state :=
          { rt.state with continuity := rt.state.continuity.push ⟨utc 1, token sha256 body, mission⟩ } } := by
  unfold neuroSync
  split
  · exact .inl ⟨rfl, rfl⟩
  · exact .inr ⟨_, ‹_›, rfl, rfl⟩

/-- `pulse` on a body that is not nullish: the switches' updates, then `neuroSync` when
`emitNeuro` is on. -/
theorem pulse_eq {opts : JsVal} (h : opts.isNullish = false) :
    rt.pulse sha256 utc opts =
      if (PulseOpts.read opts).emitNeuro then
        ((neuroSync sha256 { rt with state := rt.state.update utc (PulseOpts.read opts) }
          (fun n => utc ((PulseOpts.read opts).reads + n)) (PulseOpts.read opts).mission).1.map
            .inr,
          (neuroSync sha256 { rt with state := rt.state.update utc (PulseOpts.read opts) }
          (fun n => utc ((PulseOpts.read opts).reads + n)) (PulseOpts.read opts).mission).2)
      else (.ok (.inl (rt.state.update utc (PulseOpts.read opts))),
        { rt with state := rt.state.update utc (PulseOpts.read opts) }) := by
  simp only [pulse, h, Bool.false_eq_true, if_false]

/-- `pulse` on an `undefined` or `null` body throws and changes nothing. -/
theorem pulse_of_isNullish {opts : JsVal} (h : opts.isNullish = true) :
    rt.pulse sha256 utc opts = (.error .typeError, rt) := by
  simp only [pulse, h, if_true]

/-- What `pulse` does: the switches' updates, on a body that is not nullish, then at most
one link, which only a call that returns adds. The vault is untouched. -/
theorem pulse_spec (opts : JsVal) :
    ∃ c, (rt.pulse sha256 utc opts).2 =
        ⟨{ (if opts.isNullish then rt.state else rt.state.update utc (PulseOpts.read opts)) with
          continuity := c }, rt.vault⟩ ∧
      (c = rt.state.continuity ∨
        (rt.pulse sha256 utc opts).1.isOk = true ∧ ∃ l, c = rt.state.continuity.push l) := by
  cases hn : opts.isNullish
  · rw [pulse_eq sha256 hn]
    split
    · rcases @neuroSync_spec sha256 { rt with state := rt.state.update utc (PulseOpts.read opts) }
        (fun n => utc ((PulseOpts.read opts).reads + n)) (PulseOpts.read opts).mission
        with ⟨h₁, -⟩ | ⟨body, -, h₁, h₂⟩
      · exact ⟨_, by rw [h₁]; rfl, .inl rfl⟩
      · exact ⟨_, by rw [h₂]; rfl, .inr ⟨by rw [h₁]; rfl, _, rfl⟩⟩
    · exact ⟨_, rfl, .inl rfl⟩
  · rw [pulse_of_isNullish sha256 hn]
    exact ⟨_, rfl, .inl rfl⟩

/-- `vaultSet` stores a storable value and throws on any other, leaving the kernel as it
was. -/
theorem vaultSet_spec (ts key : String) (value : JsVal) :
    (∃ text, value.jsonStringify = .ok (some text) ∧
      rt.vaultSet sha256 ts key value = .ok { rt with vault := rt.vault.set key ⟨value, ts, sha256 text⟩ }) ∨
    storable value = false ∧ ∃ e, rt.vaultSet sha256 ts key value = .error e := by
  unfold vaultSet storable
  split
  · exact .inl ⟨_, ‹_›, rfl⟩
  all_goals exact .inr ⟨by simp only [*], _, rfl⟩

/-- After storing an entry under `key`, `vaultGet` of `key` finds its value, and of any
other key what it found before. -/
@[simp] theorem vaultGet_set {key k : String} {e : VaultEntry} :
    vaultGet { rt with vault := rt.vault.set key e } k =
      if k = key then e.value else rt.vaultGet k := by
  simp only [vaultGet, JsMap.get?_set]
  split <;> rfl

end Lemmas

end PAXRuntime

end Kernel

end SovereignLoop
