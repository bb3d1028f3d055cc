import SovereignLoop.Loop.Types

/-!
# `LearningCore`

The learner keeps a `Map` of weighted patterns keyed by a hash of an outcome class and a
feature list. Each `ingest` derives the features of the data it is given, decays every
stored weight, then boosts the pattern with the derived id or stores a new one, and
prunes the weakest tenth of the memory size when the map outgrows it. Weights are
numbers of the language: every product and sum is a double, an infinity once it passes
the largest double, and is read back through `toFixed(6)`. The configuration's rates and
the literals are read as their doubles.

`ingest` counts the call before it extracts the features, and extraction throws on an
`errors` array holding a value that is not a string, so a throwing call leaves the count
one higher (`Except` together with the state reached).
-/

namespace SovereignLoop

/-- `IngestInput['type']`. -/
inductive OutcomeType where
  | success
  | failure
  deriving DecidableEq, Repr

/-- The class as the sources print it. -/
def OutcomeType.name : OutcomeType → String
  | .success => "success"
  | .failure => "failure"

/-- `IngestInput`. -/
structure IngestInput where
  type : OutcomeType
  data : JsRecord
  iteration : ℚ

/-- `LearnedPattern`; `lastSeen` is the clock reading its ISO string prints. -/
structure LearnedPattern where
  id : String
  type : OutcomeType
  features : List String
  weight : JsNum
  seenCount : ℕ
  lastSeen : ℚ
  deriving DecidableEq, Repr

/-- `LearningConfig`. -/
structure LearningConfig where
  memorySize : ℚ
  decayRate : ℚ
  successBoost : ℚ
  failurePenalty : ℚ
  versionPrefix : String
  deriving DecidableEq, Repr

/-- The defaults of `new LearningCore()`, the configuration the loop runs with. -/
def LearningConfig.default : LearningConfig := ⟨500, 0.99, 0.1, 0.15, "LC"⟩

/-- A `LearningCore` instance. -/
structure LearningCore where
  config : LearningConfig
  patterns : JsMap LearnedPattern
  ingestCount : ℕ
  successCount : ℕ
  failureCount : ℕ
  modelVersion : String
  totalImprovementDelta : JsNum

namespace LearningCore

/-- `new LearningCore(config)`. -/
def create (config : LearningConfig) : LearningCore := ⟨config, .empty, 0, 0, 0, "1.0", .fin 0⟩

/-! ## Features and their hash -/

/-- `e.split(':')[0]` on an element of an `errors` array: only a string has `split`. -/
def errorType : JsVal → Except JsError String
  | .str s => pure (String.mk (s.toList.takeWhile (· ≠ ':')))
  | _ => throw .typeError

/-- `n >= c` on a number. -/
def geNum (n : JsNum) (c : ℚ) : Bool := n.lessThan (.fin c) == some false

/-- `n < c` on a number. -/
def ltNum (n : JsNum) (c : ℚ) : Bool := n.lessThan (.fin c) == some true

/-- The `errors` descriptors of `extractFeatures`: the array's length and, when it is not
empty, the part before the first `:` of each element; nothing for a value that is not an
array. -/
def errorFeatures : JsVal → Except JsError (List String)
  | .arr es =>
    if es.length > 0 then
      es.mapM errorType >>= fun types =>
        pure ["errors:" ++ toString es.length, "error_types:" ++ ",".intercalate types]
    else pure ["errors:" ++ toString es.length]
  | _ => pure []

/-- `extractFeatures(data)`: the key count and the sorted key signature always, then a
descriptor for each of `score`, `iteration`, `errors` and `scale` that has the type it is
read with, in that order. Only the `errors` descriptors can throw. -/
def extractFeatures (data : JsRecord) : Except JsError (List String) :=
  let keys := data.keys
  let structural :=
    ["keys:" ++ toString keys.length, "type_sig:" ++ "|".intercalate (sortStrings keys)]
  let score := match data.get "score" with
    | .num n =>
      ["score_band:" ++ if geNum n (f64 0.9) then "high" else if geNum n (f64 0.7) then "mid" else "low"]
    | _ => []
  let phase := match data.get "iteration" with
    | .num n => ["phase:" ++ if ltNum n 10 then "warmup" else if ltNum n 50 then "ramp" else "cruise"]
    | _ => []
  let scale := match data.get "scale" with
    | .num n => ["scale_log2:" ++ (n.add (.fin 1)).toDouble.floorLog2.toStr]
    | _ => []
  (errorFeatures (data.get "errors")).map fun errors => structural ++ score ++ phase ++ errors ++ scale

/-- `hashFeatures(features, type)`: the 32-bit rolling hash `h ↦ (h << 5) - h + c` of
`type:` and the sorted features joined by `||`, printed in hexadecimal after the class.
The source sorts `features` in place, so the caller's array is sorted afterwards. -/
def hashFeatures (features : List String) (type : String) : String :=
  let raw := type ++ ":" ++ "||".intercalate (sortStrings features)
  let hash := (String.utf16 raw).foldl (fun h c => toInt32 (toInt32 (h * 2 ^ 5) - h + c)) 0
  type ++ "_" ++ String.mk (Nat.toDigits 16 hash.natAbs)

/-! ## Pattern management

Each method below reads the configuration and the pattern map of the core and writes the
map, so it is a function of those two. -/

/-- `decayPatterns()`: each weight times the decay rate, a double or an infinity, read back
through `toFixed(6)`. -/
def decayPatterns (config : LearningConfig) (patterns : JsMap LearnedPattern) :
    JsMap LearnedPattern :=
  patterns.mapValues fun p =>
    { p with weight := (p.weight.mul (.fin (f64 config.decayRate))).toDouble.parseFixed 6 }

/-- `xs.slice(0, k)`: a negative end counts from the back. -/
def sliceTo {α : Type} (xs : List α) (k : ℤ) : List α :=
  xs.take (if 0 ≤ k then k.toNat else (xs.length + k).toNat)

/-- `pruneWeakPatterns()`: sort the entries stably with the comparator `a.weight - b.weight`
(an entry goes before another unless the difference is positive) and delete the first
`⌊memorySize · 0.1⌋`. -/
def pruneWeakPatterns (config : LearningConfig) (patterns : JsMap LearnedPattern) :
    JsMap LearnedPattern :=
  let sorted := patterns.entries.insertionSort fun a b =>
    ¬ (a.2.weight.sub b.2.weight).toDouble.Above 0
  let toRemove := sliceTo sorted ⌊config.memorySize * 0.1⌋
  toRemove.foldl (fun m e => m.delete e.1) patterns

/-- A stored pattern seen again: its weight raised by the class's boost, capped at `1` with
`Math.min` and read back through `toFixed(6)`, its count up by one. -/
def boostPattern (config : LearningConfig) (now : ℚ) (type : OutcomeType) (p : LearnedPattern) :
    LearnedPattern :=
  let boost := if type = .success then config.successBoost else config.failurePenalty
  { p with
    weight := (JsNum.mathMin (p.weight.add (.fin (f64 boost))).toDouble (.fin 1)).parseFixed 6
    seenCount := p.seenCount + 1
    lastSeen := now }

/-- A pattern seen for the first time. -/
def newPattern (now : ℚ) (type : OutcomeType) (patternId : String) (features : List String) :
    LearnedPattern :=
  ⟨patternId, type, features, .fin (f64 (if type = .success then 0.6 else 0.4)), 1, now⟩

/-- The pattern update of `ingest` once the id is known and the weights decayed: boost the
stored pattern, or store a new one and prune on overflow. Returns the improvement delta. -/
def learnPattern (config : LearningConfig) (patterns : JsMap LearnedPattern) (now : ℚ)
    (type : OutcomeType) (patternId : String) (features : List String) :
    JsNum × JsMap LearnedPattern :=
  match patterns.get? patternId with
  | some p =>
    let p' := boostPattern config now type p
    ((p'.weight.sub p.weight).toDouble, patterns.set patternId p')
  | none =>
    let np := newPattern now type patternId features
    let patterns := patterns.set patternId np
    (np.weight,
      if config.memorySize < patterns.size then pruneWeakPatterns config patterns else patterns)

/-- `updateModelVersion()`: major every 100 ingests from `1`, minor every 10. -/
def updateModelVersion (c : LearningCore) : LearningCore :=
  { c with modelVersion :=
      toString (c.ingestCount / 100 + 1) ++ "." ++ toString (c.ingestCount % 100 / 10) }

/-- The counters of `ingest` after the pattern update: one more success or one more
failure, and the delta added up. -/
def countOutcome (c : LearningCore) (type : OutcomeType) (delta : JsNum) : LearningCore :=
  { c with
    successCount := c.successCount + if type = .success then 1 else 0
    failureCount := c.failureCount + if type = .success then 0 else 1
    totalImprovementDelta := (c.totalImprovementDelta.add delta).toDouble }

/-- `ingest(input)`; `now` is the clock reading behind `lastSeen`. -/
def ingest (c : LearningCore) (now : ℚ) (input : IngestInput) :
    Except JsError LearningResult × LearningCore :=
  let c := { c with ingestCount := c.ingestCount + 1 }
  match extractFeatures input.data with
  | .error e => (.error e, c)
  | .ok features =>
    let patternId := hashFeatures features input.type.name
    let learnt := learnPattern c.config (decayPatterns c.config c.patterns) now input.type
      patternId (sortStrings features)
    let c := ({ c with patterns := learnt.2 }.countOutcome input.type learnt.1).updateModelVersion
    (.ok ⟨true, c.patterns.size, learnt.1.parseFixed 6, c.modelVersion⟩, c)

/-! ## Prediction -/

/-- One pattern's contribution to `predict(features)`: its weight to the total, and its
weight times its similarity to the match, a failure counting half and against; every
operation returns a double. -/
def predictStep (features : List String) (acc : JsNum × JsNum) (p : LearnedPattern) :
    JsNum × JsNum :=
  let overlap := (p.features.filter (· ∈ features)).length
  let similarity :=
    (JsNum.div (.fin overlap) (.fin (max p.features.length features.length))).toDouble
  let w := p.weight
  ((acc.1.add w).toDouble,
    if p.type = .success then (acc.2.add (w.mul similarity).toDouble).toDouble
    else (acc.2.sub ((w.mul similarity).toDouble.mul (.fin 0.5)).toDouble).toDouble)

/-- `predict(features)`: the match over the total weight, shifted by `0.5` and clamped to
`[0, 1]`, or `0.5` with nothing stored. -/
def predict (c : LearningCore) (features : List String) : JsNum :=
  if c.patterns.size = 0 then .fin 0.5
  else
    -- `(totalWeight, matchWeight)`
    let sums := c.patterns.entries.foldl (fun acc e => predictStep features acc e.2) (.fin 0, .fin 0)
    let base :=
      if (JsNum.fin 0).lessThan sums.1 = some true then (sums.2.div sums.1).toDouble else .fin 0.5
    (JsNum.mathMax (.fin 0) (JsNum.mathMin (.fin 1) (base.add (.fin 0.5)).toDouble)).parseFixed 4

end LearningCore

end SovereignLoop
