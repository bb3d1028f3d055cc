import SovereignLoop.Js.Value

/-!
# The PAX runtime

`PAXRuntime` (`PAXRuntime.ts`) keeps a crew of agents in a `Map` and routes each record
to an idle agent. `route` marks the agent `processing`, awaits the record's confidence,
scores its ROI, signs it with `JSON.stringify`, stores it in the vault when it is confident
enough, counts it and sets the agent `idle` again. The two segments of `route` around its
`await` are `routeStart` and `routeFinish`.

`roleMap` and `opBonus` are plain objects: an operation that names a property of
`Object.prototype` (`constructor`, `toString`, ...) finds an inherited function there. The
role it gives matches no agent, and the bonus turns the score into a string, which
`Math.min` reads as `NaN`. The `pax:initialized` event and the `debugMode` logs are not
modelled; the ISO time strings are the clock readings they print.
-/

namespace SovereignLoop

/-- `AgentState['status']`. -/
inductive AgentStatus where
  | idle
  | active
  | processing
  | error
  deriving DecidableEq, Repr

/-- `AgentState`. -/
structure AgentState where
  id : String
  name : String
  role : String
  status : AgentStatus
  confidence : ℚ
  tasksCompleted : ℕ
  lastActivity : ℚ
  deriving DecidableEq, Repr

/-- The fields of `PAXConfig` the runtime reads. -/
structure PAXConfig where
  agentCount : ℚ
  confidenceThreshold : ℚ
  vaultEnabled : Bool
  quantumMode : Bool
  deriving DecidableEq, Repr

/-- The defaults of `new PAXRuntime()`, which the exported `paxRuntime` also passes. -/
def PAXConfig.default : PAXConfig := ⟨13, 0.85, true, true⟩

/-- `ExtractionResult`. -/
structure ExtractionResult where
  id : String
  data : JsRecord
  confidence : JsNum
  roi : JsNum
  agentId : String
  quantumSignature : Option String
  processedAt : ℚ

/-- The fields of a `PAXRuntime`. -/
structure PAXRuntime where
  config : PAXConfig
  agents : JsMap AgentState
  startTime : ℚ
  processedItems : ℕ
  totalROI : JsNum
  vaultLog : List ExtractionResult

namespace PAXRuntime

/-! ## The crew -/

/-- `PAXRuntime.AGENT_ROSTER`: the id, name and role of each of the 13 agents. -/
def agentRoster : List (String × String × String) :=
  [("ark-01", "Commander", "orchestrator"), ("ark-02", "Scout", "data_ingestion"),
    ("ark-03", "Analyst", "value_analysis"), ("ark-04", "Extractor", "extraction"),
    ("ark-05", "Validator", "confidence_scoring"), ("ark-06", "Vaultkeeper", "vault_management"),
    ("ark-07", "Router", "pax_routing"), ("ark-08", "Quantum", "quantum_correlate"),
    ("ark-09", "Reporter", "roi_reporting"), ("ark-10", "Sentinel", "security_monitor"),
    ("ark-11", "Deployer", "ci_cd_pipeline"), ("ark-12", "Optimizer", "performance_tuning"),
    ("ark-13", "Nexus", "meta_orchestrator")]

/-- The end index of `slice(0, e)` on a list of length `len`: `e` truncated towards zero,
counted from the back when negative, clamped to the list. -/
def sliceEnd (len : ℕ) (e : ℚ) : ℕ :=
  let r : ℤ := if 0 ≤ e then ⌊e⌋ else ⌈e⌉
  if r < 0 then ((len : ℤ) + r).toNat else min r.toNat len

/-- `initializeAgents()` at clock reading `now`: the first agents of the roster, each idle
with confidence 1, set in roster order. -/
def initializeAgents (agentCount now : ℚ) : JsMap AgentState :=
  (agentRoster.take (sliceEnd agentRoster.length agentCount)).foldl
    (fun m t => m.set t.1 ⟨t.1, t.2.1, t.2.2, .idle, 1, 0, now⟩) JsMap.empty

/-- `new PAXRuntime(config)` at clock reading `now`. -/
def create (config : PAXConfig) (now : ℚ) : PAXRuntime :=
  ⟨config, initializeAgents config.agentCount now, now, 0, .fin 0, []⟩

/-- The agent stored under `agentId` updated by `f`, as the code mutates the object the map
holds. -/
def modifyAgent (rt : PAXRuntime) (agentId : String) (f : AgentState → AgentState) :
    PAXRuntime :=
  match rt.agents.get? agentId with
  | some a => { rt with agents := rt.agents.set agentId (f a) }
  | none => rt

/-- `updateAgentStatus(agentId, status)` at clock reading `now`. -/
def updateAgentStatus (rt : PAXRuntime) (agentId : String) (status : AgentStatus) (now : ℚ) :
    PAXRuntime :=
  rt.modifyAgent agentId fun a => { a with status := status, lastActivity := now }

/-- The names `Object.prototype` gives every plain object. -/
def objectPrototypeKeys : List String :=
  ["constructor", "__proto__", "__defineGetter__", "__defineSetter__", "__lookupGetter__",
    "__lookupSetter__", "hasOwnProperty", "isPrototypeOf", "propertyIsEnumerable",
    "toLocaleString", "toString", "valueOf"]

/-- `roleMap[operation] || 'orchestrator'`: the role of an own key; `none` for an inherited
function or object, which no role equals; `'orchestrator'` otherwise. -/
def targetRole (operation : String) : Option String :=
  match operation with
  | "extract" => some "extraction"
  | "analyze" => some "value_analysis"
  | "validate" => some "confidence_scoring"
  | "quantum" => some "quantum_correlate"
  | "report" => some "roi_reporting"
  | "vault" => some "vault_management"
  | op => if op ∈ objectPrototypeKeys then none else some "orchestrator"

/-- `assignAgent(operation)`: the first idle agent with the target role, else the first
idle agent, in the map's order. -/
def assignAgent (rt : PAXRuntime) (operation : String) : Option AgentState :=
  let agents := rt.agents.entries.map Prod.snd
  match agents.find? fun a => a.status = .idle ∧ some a.role = targetRole operation with
  | some a => some a
  | none => agents.find? fun a => a.status = .idle

/-! ## Confidence, ROI and signature -/

/-- `opBonus[operation]` for an own key of `opBonus`. -/
def opBonus : String → Option ℚ
  | "extract" => some 0.05
  | "analyze" => some 0.1
  | "validate" => some 0.15
  | "quantum" => some 0.2
  | _ => none

/-- The keys `computeConfidence` counts a bonus for. -/
def valueKeys : List String :=
  ["revenue", "profit", "roi", "value", "score", "confidence", "amount"]

/-- `computeConfidence(data, operation)`. An inherited `opBonus` entry turns the score into
a string, and the result is `NaN`. -/
def computeConfidence (data : JsRecord) (operation : String) : JsNum :=
  if operation ∈ objectPrototypeKeys then .nan
  else
    let keys := data.keys
    let score : ℚ := f64 (0.5 + min (f64 (keys.length / 20)) (f64 0.2))
    let score := f64 (score + f64 ((opBonus operation).getD 0))
    let score := f64 (score + f64 ((valueKeys.filter (· ∈ keys)).length * f64 0.03))
    .fin (parseFixed 4 (min score 1))

/-- `scoreROI(data, confidence)`: `revenue || 0` and `cost || 1` are values of any type,
compared and combined by the language's rules, so a `BigInt` among them throws a
`TypeError`. -/
def scoreROI (data : JsRecord) (confidence : JsNum) : Except JsError JsNum := do
  let revenue := data.get "revenue"
  let revenue := if revenue.truthy then revenue else .num (.fin 0)
  let cost := data.get "cost"
  let cost := if cost.truthy then cost else .num (.fin 1)
  let baseROI ← if ← revenue.gtNum 0 then do
      let d ← JsVal.sub revenue cost
      let q ← JsVal.div d.toVal cost
      pure (← JsVal.mul q.toVal (.num (.fin 100))).toVal
    else pure (.num (.fin 0))
  match ← JsVal.mul baseROI (.num confidence) with
  | .num n => pure (n.parseFixed 2)
  | .big _ => .error .typeError

/-- `n.toString(16).toUpperCase()` for a non-negative integer `n`. -/
def hexUpper (n : ℕ) : String := String.mk ((Nat.toDigits 16 n).map Char.toUpper)

/-- `generateQuantumSignature(data)` at clock reading `now`: the sum of the UTF-16 code
units of `JSON.stringify(data)`, in hexadecimal. -/
def generateQuantumSignature (data : JsRecord) (now : ℚ) : Except JsError String := do
  match ← data.toVal.jsonStringify with
  | some payload =>
    pure ("QSig-" ++ hexUpper (String.utf16 payload).sum ++ "-ARK95X-" ++ (JsNum.fin now).toStr)
  | none => .error .typeError

/-! ## `route` -/

/-- A call of `route` suspended at its `await`: the agent it holds, its record, and the
confidence the `await` delivers. -/
structure RouteCall where
  agentId : String
  data : JsRecord
  confidence : JsNum

/-- Why a call of `route` rejects. -/
inductive RouteError where
  /-- `new Error('[PAX] No agents available for routing')`, thrown when no agent is
  idle. -/
  | noAgents
  /-- A throw after the `await`. -/
  | thrown (e : JsError)

/-- `route(data, operation)` up to its `await`: with no idle agent the call rejects at
once; otherwise the agent is marked `processing` and `computeConfidence` runs. -/
def routeStart (rt : PAXRuntime) (data : JsRecord) (operation : String) (now : ℚ) :
    Except RouteError (PAXRuntime × RouteCall) :=
  match rt.assignAgent operation with
  | none => .error .noAgents
  | some agent =>
    .ok (rt.updateAgentStatus agent.id .processing now,
      ⟨agent.id, data, computeConfidence data operation⟩)

/-- The ROI and the signature `route` computes after its `await`. -/
def scoreAndSign (rt : PAXRuntime) (call : RouteCall) (now : ℚ) :
    Except JsError (JsNum × Option String) := do
  let roi ← scoreROI call.data call.confidence
  let signature ← if rt.config.quantumMode then some <$> generateQuantumSignature call.data now
    else pure none
  return (roi, signature)

/-- `route` after its `await`, at clock reading `now`; `throws` says whether a
`pax:routed` listener throws. A throw in `scoreROI` or `generateQuantumSignature` rejects
the call before any update, so its agent stays `processing`. -/
def routeFinish (rt : PAXRuntime) (call : RouteCall) (now : ℚ) (throws : Bool) :
    PAXRuntime × Except RouteError ExtractionResult :=
  match rt.scoreAndSign call now with
  | .error e => (rt, .error (.thrown e))
  | .ok (roi, signature) =>
    let result : ExtractionResult := ⟨"PAX-" ++ (JsNum.fin now).toStr ++ "-" ++ call.agentId,
      call.data, call.confidence, roi, call.agentId, signature, now⟩
    let stored := rt.config.vaultEnabled &&
      call.confidence.lessThan (.fin rt.config.confidenceThreshold) == some false
    let rt := { rt with
      vaultLog := if stored then rt.vaultLog ++ [result] else rt.vaultLog
      processedItems := rt.processedItems + 1
      totalROI := rt.totalROI.add roi }
    let rt := (rt.updateAgentStatus call.agentId .idle now).modifyAgent call.agentId
      fun a => { a with tasksCompleted := a.tasksCompleted + 1, lastActivity := now }
    (rt, if throws then .error (.thrown .thrown) else .ok result)

/-! ## `scanOpportunities` -/

/-- An entry of `scanOpportunities()`. -/
structure Opportunity where
  id : String
  roi : JsNum
  confidence : JsNum
  agentId : String
  processedAt : ℚ
  grade : String

/-- `r.roi >= 50 ? 'A' : r.roi >= 25 ? 'B' : 'C'`. -/
def grade (roi : JsNum) : String :=
  if roi.lessThan (.fin 50) = some false then "A"
  else if roi.lessThan (.fin 25) = some false then "B" else "C"

/-- The entry `scanOpportunities` makes of a vaulted result. -/
def toOpportunity (r : ExtractionResult) : Opportunity :=
  ⟨r.id, r.roi, r.confidence, r.agentId, r.processedAt, grade r.roi⟩

/-- The comparator `(b.roi as number) - (a.roi as number)` as an order: `a` may stand
before `b` unless its ROI is the smaller. -/
def roiDesc (a b : Opportunity) : Bool := a.roi.lessThan b.roi != some true

/-- `scanOpportunities()`: the vaulted results at the confidence threshold with an ROI
above `10`, graded, by decreasing ROI. `Array.prototype.sort` is stable, and on ROIs above
`10` (finite or `Infinity`) the comparator is consistent, so its result is the stable sort
`List.mergeSort` computes. -/
def scanOpportunities (rt : PAXRuntime) : List Opportunity :=
  ((rt.vaultLog.filter fun r =>
      r.confidence.lessThan (.fin rt.config.confidenceThreshold) = some false ∧
        JsNum.lessThan (.fin 10) r.roi = some true).map
    toOpportunity).mergeSort roiDesc

end PAXRuntime

end SovereignLoop
