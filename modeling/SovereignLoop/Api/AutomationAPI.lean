import SovereignLoop.Api.ValueScanner

/-!
# `AutomationAPI`

The sovereignty API serves the kernel over HTTP. A handler runs to completion before the
next request is read: the scan routes `await` a function with no `await` of its own, whose
writes are done when it returns. So the server is a state machine over the kernel: `handle`
serves one request, `start` is the pulse of `start()`'s listen callback, and `run` applies a
list of events, each with the clock readings it takes.

A request body is whatever `express.json()` left in `req.body`, any `JsVal` here; a route
that reads a property of an `undefined` or `null` body throws. A handler that throws is
answered by Express's error handler with a 500 (`serverError`). `res.json` serializes the
`JsVal` a handler answers with.
-/

namespace SovereignLoop

namespace Kernel

/-! ## Requests and responses -/

/-- A route of the API, with what its handler reads off the request. -/
inductive Request where
  | health
  | state
  | pulse (body : JsVal)
  | neurosync (body : JsVal)
  | vaultGet (key : String)
  | vaultSet (key : String) (body : JsVal)
  | scanOpportunities
  | scanReport
  | metrics

/-- What a handler sends. -/
inductive Response where
  /-- `res.json(body)`. -/
  | json (body : JsVal)
  /-- `res.type(contentType).send(body)`. -/
  | send (contentType : String) (body : String)
  /-- The handler threw. -/
  | serverError

/-- `null` or a string. -/
def optStr : Option String → JsVal
  | none => .null
  | some s => .str s

/-- The state as the JSON value `res.json` serializes. -/
def PAXState.toVal (s : PAXState) : JsVal :=
  .obj [("version", .str s.version), ("sessionId", .str s.sessionId),
    ("createdUtc", .str s.createdUtc),
    ("pulse", .obj [("count", .num (.fin s.pulse.count)),
      ("intensity", .num (.fin s.pulse.intensity)), ("lastUtc", optStr s.pulse.lastUtc),
      ("lastNote", s.pulse.lastNote)]),
    ("codex", .obj [("synced", .bool s.codex.synced), ("syncCount", .num (.fin s.codex.syncCount)),
      ("lastSyncUtc", optStr s.codex.lastSyncUtc)]),
    ("quadStack", .obj [("enabled", .bool s.quadStack.enabled), ("mode", s.quadStack.mode),
      ("aggregation", .str s.quadStack.aggregation),
      ("lastChangeUtc", optStr s.quadStack.lastChangeUtc)]),
    ("continuity", .obj [("chain", .arr (s.continuity.chain.map fun l =>
        .obj [("utc", .str l.utc), ("token", .str l.token), ("mission", l.mission)])),
      ("lastToken", optStr s.continuity.lastToken)])]

/-- The metrics as a JSON value. -/
def PAXRuntime.Metrics.toVal (m : PAXRuntime.Metrics) : JsVal :=
  .obj [("pulseCount", .num (.fin m.pulseCount)), ("codexSynced", .bool m.codexSynced),
    ("vaultSize", .num (.fin m.vaultSize)), ("chainLength", .num (.fin m.chainLength))]

/-- The Prometheus text of `/api/sovereignty/metrics`. -/
def PAXRuntime.Metrics.exposition (m : PAXRuntime.Metrics) : String :=
  "\n".intercalate ["# HELP pax_pulse_count Total PAX Runtime pulse count",
    "# TYPE pax_pulse_count counter", "pax_pulse_count " ++ (JsNum.fin m.pulseCount).toStr,
    "# HELP pax_vault_size PAX vault entry count", "# TYPE pax_vault_size gauge",
    "pax_vault_size " ++ (JsNum.fin m.vaultSize).toStr,
    "# HELP pax_chain_length Continuity chain length", "# TYPE pax_chain_length gauge",
    "pax_chain_length " ++ (JsNum.fin m.chainLength).toStr]

/-- `res.json(body r)`, or a 500 when the handler threw. -/
def jsonOr {α : Type} (r : Except JsError α) (body : α → JsVal) : Response :=
  match r with
  | .ok a => .json (body a)
  | .error _ => .serverError

/-! ## The routes -/

/-- The options `/api/sovereignty/neurosync` pulses with. -/
def neurosyncOpts (mission : JsVal) : JsVal :=
  .obj [("emitNeuro", .bool true), ("mission", mission), ("incr", .bool true),
    ("codexSync", .bool true), ("quadUp", .bool true)]

/-- The options of the boot pulse. -/
def bootOpts : JsVal :=
  .obj [("incr", .bool true), ("codexSync", .bool true), ("quadUp", .bool true),
    ("note", .str "AutomationAPI boot"), ("emitNeuro", .bool true),
    ("mission", .str "SOVEREIGNTY API ONLINE")]

variable (sha256 : String → String) (toLocaleString : ℚ → String)

/-- The handler of a request, on the kernel `rt`, with the request's clock readings: the
response and the kernel after it. -/
def handle (rt : PAXRuntime) (utc : ℕ → String) : Request → Response × PAXRuntime
  | .health => (.json (.obj [("status", .str "operational"), ("version", .str "PAX.Runtime.v2.0"),
      ("timestamp", .str (utc 0))]), rt)
  | .state => (.json (.obj [("state", rt.getState.toVal), ("metrics", rt.getMetrics.toVal)]), rt)
  | .pulse body =>
    let p := rt.pulse sha256 utc body
    (jsonOr p.1 fun r => .obj [("status", .str "pulsed"), ("result", r.elim PAXState.toVal .str)],
      p.2)
  | .neurosync body =>
    if body.isNullish then (.serverError, rt) else
    let p := rt.pulse sha256 utc
      (neurosyncOpts ((body.prop "mission").coalesce (.str "SOVEREIGN OPS")))
    (jsonOr p.1 fun r => .obj [("status", .str "emitted"), ("packet", r.elim PAXState.toVal .str)],
      p.2)
  | .vaultGet key => (.json (.obj [("key", .str key), ("value", rt.vaultGet key),
      ("hash", optStr rt.getState.continuity.lastToken)]), rt)
  | .vaultSet key body =>
    if body.isNullish then (.serverError, rt) else
    match rt.vaultSet sha256 (utc 0) key (body.prop "value") with
    | .ok rt' => (.json (.obj [("status", .str "stored"), ("key", .str key)]), rt')
    | .error _ => (.serverError, rt)
  | .scanOpportunities =>
    let p := ValueScanner.scanAll sha256 rt utc
    (jsonOr p.1 fun opps => .obj [("count", .num (.fin opps.length)),
      ("opportunities", .arr (opps.map ValueOpportunity.toVal))], p.2)
  | .scanReport =>
    let p := ValueScanner.generateReport sha256 toLocaleString rt utc
    (match p.1 with
      | .ok report => .send "text/markdown" report
      | .error _ => .serverError, p.2)
  | .metrics => (.send "text/plain" rt.getMetrics.exposition, rt)

/-- `start()`: its listen callback pulses with `bootOpts`; the logs are not modelled. -/
def start (rt : PAXRuntime) (utc : ℕ → String) : PAXRuntime := (rt.pulse sha256 utc bootOpts).2

/-! ## Runs -/

/-- An event of the server: a request served, or the boot pulse. -/
inductive Event where
  | request (r : Request)
  | boot

/-- The kernel after an event. -/
def Event.apply (rt : PAXRuntime) (utc : ℕ → String) : Event → PAXRuntime
  | .request r => (handle sha256 toLocaleString rt utc r).2
  | .boot => start sha256 rt utc

/-- The kernel after a list of events, each with its clock readings. -/
def run (rt : PAXRuntime) : List (Event × (ℕ → String)) → PAXRuntime
  | [] => rt
  | (e, utc) :: es => run (e.apply sha256 toLocaleString rt utc) es

end Kernel

end SovereignLoop
