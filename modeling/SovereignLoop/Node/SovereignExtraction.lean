import SovereignLoop.Pax.Runtime
import SovereignLoop.Js.Binary64

/-!
# The `SovereignExtraction` node

`execute` runs one loop over the input items. Each item is scored (`computeSovereignScore`)
and either filtered, with a `_pax` record, or reduced to the target fields with a
`_sovereignty` record that carries its ROI (`calculateROI`) and, in the `quantumCorrelate`
mode, its signals (`generateQuantumSignals`). An item whose processing throws becomes an
error record when the node continues on failure; otherwise the whole run fails with the
item's index.

The three methods are called as `this.computeSovereignScore(...)` and so on, and `this` is
whatever `execute` is called on. n8n calls it on its execution context, an
`IExecuteFunctions`: that object has the host's functions (`getInputData`,
`getNodeParameter`, `continueOnFail`, `getNode`) and none of the node's private methods, so
each of the three reads `undefined` and calling it throws a `TypeError`. `Receiver` says
which `this` the model runs with: `n8n`, or `withMethods`, a `this` that also has the
node's methods.

An item is the `json` of `INodeExecutionData`, a `JsRecord`. The score and the ROI are
binary64 computations, compared against a threshold and against the grade boundaries, so
each operation rounds (`f64`). `new Date().toISOString()`, `Math.random()` and
`Date.now()` are inputs (`ItemHost`), and so is the host's message for an error the
methods throw.

An output object is a `JsMap` of its properties in creation order. An extracted target
field that names an `Object.prototype` member the item does not have copies the inherited
function, an `OutVal.builtin`.
-/

namespace SovereignLoop

namespace SovereignExtraction

open PAXRuntime (objectPrototypeKeys)

/-! ## Parameters and host inputs -/

/-- The node's parameters, as `getNodeParameter(name, 0)` returns them. -/
structure Params where
  mode : String
  confidenceThreshold : JsNum
  targetFields : String
  enablePAX : Bool
  sovereigntyApiUrl : String

/-- The parameters' defaults. -/
def Params.default : Params :=
  ⟨"valueScan", .fin 0.85, "value,roi,confidence,source", true, "http://localhost:5679"⟩

/-- What the host gives the processing of one item: `new Date().toISOString()`'s readings,
`Math.random()`'s, and `Date.now()`. -/
structure ItemHost where
  utc : ℕ → String
  random : ℕ → ℚ
  now : ℚ

/-- `s.trim()`: white space and line terminators off both ends. -/
def jsTrim (s : String) : String :=
  String.mk ((s.toList.dropWhile JsNum.isStrWhiteSpace).reverse.dropWhile
    JsNum.isStrWhiteSpace).reverse

/-- `targetFields.split(',').map(f => f.trim())`. -/
def targetFieldList (p : Params) : List String := (p.targetFields.splitOn ",").map jsTrim

/-! ## `computeSovereignScore` -/

/-- The own keys of `modeMultipliers`, with their values. -/
def modeMultipliers : List (String × ℚ) :=
  [("valueScan", 1.0), ("deepExtract", 1.1), ("roiAnalysis", 1.15), ("quantumCorrelate", 1.25)]

/-- `highValueKeys`. -/
def highValueKeys : List String := ["revenue", "profit", "roi", "value", "score", "confidence"]

/-- `score *= modeMultipliers[mode] || 1.0`: an own key multiplies by its value; a member
of `Object.prototype` is a function or an object, truthy, and multiplying by it gives
`NaN`; any other mode multiplies by `1.0`. -/
def multiply (score : ℚ) (mode : String) : JsNum :=
  match modeMultipliers.lookup mode with
  | some m => .fin (f64 (score * f64 m))
  | none => if mode ∈ objectPrototypeKeys then .nan else .fin (f64 (score * 1))

/-- `computeSovereignScore(item, mode)`. -/
def computeSovereignScore (item : JsRecord) (mode : String) : JsNum :=
  let keys := item.keys
  let score : ℚ := f64 (0.5 + min (f64 (keys.length / 20)) (f64 0.2))
  let matchCount := (highValueKeys.filter fun k => k ∈ keys).length
  JsNum.mathMin (JsNum.add (multiply score mode) (.fin (f64 (matchCount * f64 0.05)))).toDouble
    (.fin 1)

/-! ## `calculateROI` -/

/-- `v || d`. -/
def orDefault (v d : JsVal) : JsVal := if v.truthy then v else d

/-- A binary operator of the language on numeric values, each `Number` result rounded; a
`Number` and a `BigInt` together throw. -/
def numericOp (fNum : JsNum → JsNum → JsNum) (fBig : ℤ → ℤ → Except JsError ℤ) :
    JsVal.Numeric → JsVal.Numeric → Except JsError JsVal.Numeric
  | .num x, .num y => .ok (.num (fNum x y).toDouble)
  | .big x, .big y => (fBig x y).map .big
  | _, _ => .error .typeError

/-- `revenue > 0 ? ((revenue - cost) / cost) * 100 : 0` on the coerced operands. -/
def baseROI (revenue cost : JsVal) : Except JsError JsNum := do
  let r ← revenue.primNumeric
  if JsVal.Numeric.lessThan (.num (.fin 0)) r = some true then
    let c ← cost.primNumeric
    let d ← numericOp JsNum.sub (fun x y => .ok (x - y)) r c
    let q ← numericOp JsNum.div (fun x y => if y = 0 then .error .rangeError else .ok (x.tdiv y))
      d c
    match q with
    | .num n => return (JsNum.mul n (.fin 100)).toDouble
    | .big _ => throw .typeError
  else return .fin 0

/-- `baseROI >= 50 ? 'A' : baseROI >= 25 ? 'B' : baseROI >= 10 ? 'C' : 'D'`. -/
def grade (roi : JsNum) : String :=
  if roi.lessThan (.fin 50) = some false then "A"
  else if roi.lessThan (.fin 25) = some false then "B"
  else if roi.lessThan (.fin 10) = some false then "C"
  else "D"

/-- `calculateROI(item, mode)`, with the clock's reading. -/
def calculateROI (item : JsRecord) (mode : String) (utc : String) : Except JsError JsVal := do
  let roi ← baseROI (orDefault (item.get "revenue") (.num (.fin 0)))
    (orDefault (item.get "cost") (.num (.fin 1)))
  return .obj [("percentage", .num (JsNum.parseFixed 2 roi)), ("mode", .str mode),
    ("grade", .str (grade roi)),
    ("sovereignMultiplier", .num (.fin (if mode = "quantumCorrelate" then 2.5 else 1.0))),
    ("calculatedAt", .str utc)]

/-! ## `generateQuantumSignals` -/

/-- `generateQuantumSignals(item)`: `JSON.stringify(item).length` in UTF-16 code units picks
the entanglement and the superposition; two readings of `Math.random()` and one of
`Date.now()` give the rest. -/
def generateQuantumSignals (item : JsRecord) (h : ItemHost) : Except JsError JsVal := do
  let text ← (JsVal.obj item.props).jsonStringify
  match text with
  | none => throw .typeError
  | some text =>
    let hash := (String.utf16 text).length
    return .obj [("entanglement", .num (.fin (f64 ((hash % 100 : ℕ) / 100)))),
      ("coherence", .num (.fin (f64 (f64 (h.random 0 * f64 0.3) + f64 0.7)))),
      ("superposition", .str (["alpha", "beta", "gamma"].getD (hash % 3) "")),
      ("quantumROI", .num (JsNum.parseFixed 2 (.fin (f64 (f64 (h.random 1 * 200) + 50))))),
      ("ark95xSignature", .str ("QS-" ++ (JsNum.fin h.now).toStr ++ "-ARK95X"))]

/-! ## Output objects -/

/-- A property value of an output object: a JavaScript value, or the function an extracted
field inherited from `Object.prototype`. -/
inductive OutVal where
  | val (v : JsVal)
  | builtin (name : String)

/-- `{ ...item }`: the item's properties. -/
def spread (item : JsRecord) : JsMap OutVal :=
  ⟨item.props.map fun e => (e.1, .val e.2), by rw [List.map_map]; exact item.nodup⟩

/-- What `extracted[field] = item[field]` stores, when `item[field] !== undefined`: an own
value other than `undefined`, or the function an `Object.prototype` member the item lacks
inherits. Nothing is stored for `__proto__`, whose assignment calls the prototype's
setter. -/
def fieldValue (item : JsRecord) (field : String) : Option OutVal :=
  if field = "__proto__" then none else
  match item.props.lookup field with
  | some .undefined => none
  | some v => some (.val v)
  | none => if field ∈ objectPrototypeKeys then some (.builtin field) else none

/-- `if (item[field] !== undefined) extracted[field] = item[field]`. -/
def extractField (item : JsRecord) (extracted : JsMap OutVal) (field : String) :
    JsMap OutVal :=
  match fieldValue item field with
  | some v => extracted.set field v
  | none => extracted

/-! ## What `this` resolves to -/

/-- The `this` of `execute`, as far as the node's own methods go. -/
inductive Receiver where
  /-- n8n's execution context: `this.computeSovereignScore` and its siblings are
  `undefined`. -/
  | n8n
  /-- A `this` that has the node's three methods. -/
  | withMethods
  deriving DecidableEq

/-- What the `try` block of one item throws: an error the methods throw, or the `TypeError`
of calling `this.<name>` when it is not a function, whose message V8 writes as
`this.<name> is not a function`. -/
inductive ItemError where
  | js (e : JsError)
  | notAFunction (name : String)

/-- `(error as Error).message`, with the host's message for the methods' errors. -/
def ItemError.message (message : JsError → String) : ItemError → String
  | .js e => message e
  | .notAFunction name => "this." ++ name ++ " is not a function"

/-- `this.<name>(...)`: the method's result when `this` has it, the `TypeError` otherwise.
The arguments are plain variables, so nothing else is evaluated before the call fails. -/
def Receiver.call {α : Type} (r : Receiver) (name : String) (m : Except JsError α) :
    Except ItemError α :=
  match r with
  | .n8n => .error (.notAFunction name)
  | .withMethods => m.mapError .js

/-! ## One item -/

/-- `enablePAX ? await this.computeSovereignScore(item, mode) : 1.0`. -/
def itemScore (r : Receiver) (p : Params) (item : JsRecord) : Except ItemError JsNum :=
  if p.enablePAX then r.call "computeSovereignScore" (.ok (computeSovereignScore item p.mode))
  else .ok (.fin 1)

/-- The object pushed for an item below the threshold: the item with a `_pax` record. -/
def filteredRecord (p : Params) (h : ItemHost) (item : JsRecord) (score : JsNum) :
    JsMap OutVal :=
  (spread item).set "_pax" (.val (.obj [("filtered", .bool true), ("score", .num score),
    ("threshold", .num p.confidenceThreshold), ("mode", .str p.mode), ("timestamp", .str (h.utc 0)),
    ("node", .str "SovereignExtraction@ARK95X")]))

/-- The body of the loop for one item, up to its `catch`. -/
def processItem (r : Receiver) (p : Params) (h : ItemHost) (item : JsRecord) :
    Except ItemError (JsMap OutVal) := do
  let score ← itemScore r p item
  if score.lessThan p.confidenceThreshold = some true then
    return filteredRecord p h item score
  let extracted := (targetFieldList p).foldl (extractField item) JsMap.empty
  let roi ← r.call "calculateROI" (calculateROI item p.mode (h.utc 0))
  let quantumSignals ← if p.mode = "quantumCorrelate" then
      r.call "generateQuantumSignals" (generateQuantumSignals item h)
    else pure .null
  return (extracted.set "_sovereignty" (.val (.obj [("score", .num score), ("roi", roi),
      ("mode", .str p.mode), ("paxEnabled", .bool p.enablePAX),
      ("apiEndpoint", .str p.sovereigntyApiUrl), ("quantumSignals", quantumSignals),
      ("extractedAt", .str (h.utc 1)), ("agent", .str "ARK95X-SovereignExtraction-v2"),
      ("vault", .str "CREATE_VAULT_ACTIVE")]))).set "_source" (.val (.obj item.props))

/-- The error record the `catch` pushes when the node continues on failure. -/
def errorRecord (message : String) (item : JsRecord) : JsMap OutVal :=
  ⟨[("error", .val (.str message)), ("item", .val (.obj item.props)),
    ("node", .val (.str "SovereignExtraction"))], by
      show List.Nodup ["error", "item", "node"]
      decide⟩

/-! ## `execute` -/

/-- The loop of `execute` from the item of index `i`: each item's output, or the index and
error of the first item that throws when the node does not continue on failure. -/
def executeFrom (r : Receiver) (p : Params) (continueOnFail : Bool) (message : JsError → String)
    (host : ℕ → ItemHost) : ℕ → List JsRecord → Except (ℕ × ItemError) (List (JsMap OutVal))
  | _, [] => .ok []
  | i, item :: items =>
    match processItem r p (host i) item with
    | .ok out => (executeFrom r p continueOnFail message host (i + 1) items).map (out :: ·)
    | .error e =>
      if continueOnFail then
        (executeFrom r p continueOnFail message host (i + 1) items).map
          (errorRecord (e.message message) item :: ·)
      else .error (i, e)

/-- `execute()` on the input items, with `this` resolving as `r` says: the one output list,
or the `NodeOperationError`'s item index and cause. -/
def execute (r : Receiver) (p : Params) (continueOnFail : Bool) (message : JsError → String)
    (host : ℕ → ItemHost) (items : List JsRecord) :
    Except (ℕ × ItemError) (List (JsMap OutVal)) :=
  executeFrom r p continueOnFail message host 0 items

end SovereignExtraction

end SovereignLoop
