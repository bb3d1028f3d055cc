import SovereignLoop.Pax.Kernel

/-!
# `ValueScanner`

The scanner's detectors return fixed opportunities. `scanAll` logs each scan to the kernel,
writing the scan's time and count to the vault under `last_scan` and then pulsing once, and
returns the opportunities by decreasing `roi_score`; `generateReport` prints them as
markdown.

Clock readings follow the kernel's convention: `utc i` is the `i`-th reading of the call.
`toLocaleString` is the host's formatting of a number in its locale, an input here.
-/

namespace SovereignLoop

namespace Kernel

/-- `ValueOpportunity`. -/
structure ValueOpportunity where
  id : String
  type : String
  title : String
  description : String
  roiScore : ℚ
  monthlyValue : ℚ
  effortHours : ℚ
  paybackMonths : ℚ
  priority : String
  actions : List String

/-- An opportunity as the JSON value the API answers with. -/
def ValueOpportunity.toVal (o : ValueOpportunity) : JsVal :=
  .obj [("id", .str o.id), ("type", .str o.type), ("title", .str o.title),
    ("description", .str o.description), ("roi_score", .num (.fin o.roiScore)),
    ("monthly_value", .num (.fin o.monthlyValue)), ("effort_hours", .num (.fin o.effortHours)),
    ("payback_months", .num (.fin o.paybackMonths)), ("priority", .str o.priority),
    ("actions", .arr (o.actions.map .str))]

namespace ValueScanner

/-! ## The detectors -/

/-- `detectWorkflowGaps()`. -/
def detectWorkflowGaps : List ValueOpportunity :=
  [⟨"wf-manual-triggers", "automation_roi", "Convert manual workflow triggers to webhooks",
    "Manual triggers require human intervention. Webhooks enable fully autonomous execution.",
    250, 2500, 4, 0.05, "critical", ["Replace manual trigger with webhook",
      "Add auth header validation", "Test with curl", "Document endpoint"]⟩,
  ⟨"wf-error-handling", "workflow_optimization", "Add error handling to all production workflows",
    "Unhandled errors cause silent failures. Error nodes route to alerts.",
    180, 1800, 8, 0.13, "high", ["Add Error Trigger node", "Route to Slack/email alert",
      "Log to CREATE_VAULT", "Add retry logic"]⟩]

/-- `detectAutomationROI()`. -/
def detectAutomationROI : List ValueOpportunity :=
  [⟨"auto-data-extraction", "data_monetization", "Package Sovereign Extraction as API product",
    "Your LLM+Rules hybrid extractor can be monetized as a data API service.",
    500, 5000, 40, 0.4, "high", ["Design 3-tier pricing", "Build API documentation",
      "Add rate limiting", "Launch beta with 10 users"]⟩]

/-- `detectDataValue()`. -/
def detectDataValue : List ValueOpportunity :=
  [⟨"vault-analytics", "data_monetization", "Build analytics dashboard on CREATE_VAULT data",
    "Your vault ledger contains rich operational data. Surface insights via Grafana.",
    150, 1500, 12, 0.4, "medium", ["Export vault metrics to Prometheus",
      "Build Grafana dashboard", "Add trend detection", "Schedule weekly reports"]⟩]

/-! ## `scanAll` -/

variable (sha256 : String → String)

/-- The `last_scan` record `{ timestamp, count }`. -/
def scanRecord (timestamp : String) (count : ℕ) : JsVal :=
  .obj [("timestamp", .str timestamp), ("count", .num (.fin count))]

/-- The options of the scan's pulse. -/
def scanPulseOpts : JsVal :=
  .obj [("incr", .bool true), ("note", .str "ValueScanner.scanAll completed")]

/-- `opps.sort((a, b) => b.roi_score - a.roi_score)`: a stable sort that puts `a` first
when the comparator is not positive. -/
def sortByRoi (opps : List ValueOpportunity) : List ValueOpportunity :=
  opps.mergeSort fun a b => decide (b.roiScore - a.roiScore ≤ 0)

/-- `scanAll()`: the detectors' opportunities; the record, with its own clock reading, then
the vault's write, with the next, then the pulse, with the rest. A throw rejects the
promise with the writes made so far. -/
def scanAll (rt : PAXRuntime) (utc : ℕ → String) :
    Except JsError (List ValueOpportunity) × PAXRuntime :=
  let opps := detectWorkflowGaps ++ detectAutomationROI ++ detectDataValue
  match rt.vaultSet sha256 (utc 1) "last_scan" (scanRecord (utc 0) opps.length) with
  | .error e => (.error e, rt)
  | .ok rt =>
    let p := rt.pulse sha256 (fun n => utc (2 + n)) scanPulseOpts
    (p.1.map fun _ => sortByRoi opps, p.2)

/-! ## `generateReport` -/

/-- One opportunity's section of the report. -/
def reportSection (opp : ValueOpportunity) : String :=
  "## " ++ opp.title ++ "\n" ++
  "Priority: " ++ opp.priority.toUpper ++ " | ROI Score: " ++ (JsNum.fin opp.roiScore).toStr ++
    " | Monthly: $" ++ (JsNum.fin opp.monthlyValue).toStr ++ " | Payback: " ++
    (JsNum.fin opp.paybackMonths).toStr ++ "mo\n" ++
  opp.description ++ "\n" ++
  "Actions: " ++ "; ".intercalate opp.actions ++ "\n\n"

/-- `generateReport()`: the scan, then the report with the clock's next reading. The
monthly values are whole numbers far below `2^53`, so their sum is exact. -/
def generateReport (toLocaleString : ℚ → String) (rt : PAXRuntime) (utc : ℕ → String) :
    Except JsError String × PAXRuntime :=
  let p := scanAll sha256 rt utc
  (p.1.map fun opps =>
    "# SOVEREIGN VALUE OPPORTUNITY REPORT\n" ++
    "Generated: " ++ utc 3 ++ "\n" ++
    "Opportunities: " ++ (JsNum.fin opps.length).toStr ++ " | Total Monthly Value: $" ++
      toLocaleString (opps.foldl (fun s o => s + o.monthlyValue) 0) ++ "\n\n" ++
    String.join (opps.map reportSection), p.2)

end ValueScanner

end Kernel

end SovereignLoop
