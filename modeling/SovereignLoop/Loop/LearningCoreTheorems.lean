import SovereignLoop.Loop.LearningCore
import Mathlib.Data.Prod.Lex

/-!
# The learner's pattern store

`ingest` decays, boosts, creates and prunes patterns. This file says once what each of
those does to the map (`mem_learnPattern`, `size_learnPattern`, `ingest_patterns`) and
derives from it what every sequence of calls keeps:

* every stored pattern is keyed by its own id, which is the hash of its class and its
  features; it was seen at least once and has at least two features (`PatternOk`), so
  `predict` never divides by zero;
* with a decay rate in `[0, 1]` and non-negative boosts, every weight is a finite number in
  `[0, 1]`, and `predict` returns one: its binary64 sums stay within `2^53`;
* calls that return count one outcome each;
* an ingest whose id is new stores one pattern under it when there is room, and one whose
  id is stored keeps the size and adds one to that pattern's count only;
* with a memory size of at least `10` the store never outgrows it. Below `10` pruning
  removes `⌊memorySize · 0.1⌋ = 0` patterns, and a store of memory size `1` holds two
  patterns after two ingests.
-/

namespace SovereignLoop
namespace LearningCore

variable {config : LearningConfig} {patterns : JsMap LearnedPattern} {now : ℚ}
  {type : OutcomeType} {id : String} {fs : List String} {e : String × LearnedPattern}

/-! ## Features and ids -/

/-- Hashing sorts the features first, so the sorted array the pattern stores hashes to the
same id. -/
@[simp] theorem hashFeatures_sortStrings (t : String) :
    hashFeatures (sortStrings fs) t = hashFeatures fs t := by
  simp [hashFeatures]

/-- Extraction always yields the key count and the key signature. -/
theorem two_le_length_of_extractFeatures {data : JsRecord} (h : extractFeatures data = .ok fs) :
    2 ≤ fs.length := by
  unfold extractFeatures at h
  cases he : errorFeatures (data.get "errors") with
  | error => simp [he, Except.map] at h
  | ok ef =>
    simp only [he, Except.map, Except.ok.injEq] at h
    subst h
    simp

/-! ## Pruning -/

theorem mem_pruneWeakPatterns (h : e ∈ (pruneWeakPatterns config patterns).entries) :
    e ∈ patterns.entries :=
  JsMap.mem_foldl_delete h

/-- Every entry after the update is an old entry under another key, the stored pattern
boosted, or a new pattern. -/
theorem mem_learnPattern (h : e ∈ (learnPattern config patterns now type id fs).2.entries) :
    (e ∈ patterns.entries ∧ e.1 ≠ id) ∨
      (∃ p, patterns.get? id = some p ∧ e = (id, boostPattern config now type p)) ∨
      (patterns.get? id = none ∧ e = (id, newPattern now type id fs)) := by
  unfold learnPattern at h
  split at h
  · rename_i p hp
    rcases JsMap.mem_set.mp h with rfl | h
    · exact .inr (.inl ⟨p, hp, rfl⟩)
    · exact .inl h
  · rename_i hp
    dsimp only at h
    have h' : e ∈ (patterns.set id (newPattern now type id fs)).entries := by
      split at h
      · exact mem_pruneWeakPatterns h
      · exact h
    rcases JsMap.mem_set.mp h' with rfl | h'
    · exact .inr (.inr ⟨hp, rfl⟩)
    · exact .inl h'

/-- A store holding the id keeps its size. -/
theorem size_learnPattern_of_has (h : patterns.has id) :
    (learnPattern config patterns now type id fs).2.size = patterns.size := by
  obtain ⟨p, hp⟩ : ∃ p, patterns.get? id = some p := by
    obtain ⟨v, hv⟩ := JsMap.has_iff.mp h
    exact ⟨v, JsMap.get?_eq_some_iff.mpr hv⟩
  simp [learnPattern, hp, JsMap.size_set, h]

/-- A store without the id gets the new pattern, and is pruned when that passes the memory
size. -/
theorem learnPattern_of_not_has (h : patterns.has id = false) :
    (learnPattern config patterns now type id fs).2 =
      let m := patterns.set id (newPattern now type id fs)
      if config.memorySize < m.size then pruneWeakPatterns config m else m := by
  simp [learnPattern, JsMap.get?_eq_none_iff.mpr h]

/-- The stored pattern's count goes up by one, every other key keeps its pattern. -/
theorem get?_learnPattern_of_has (h : patterns.has id) (k : String) :
    ((learnPattern config patterns now type id fs).2.get? k).map (·.seenCount) =
      (patterns.get? k).map fun p => if k = id then p.seenCount + 1 else p.seenCount := by
  obtain ⟨p, hp⟩ : ∃ p, patterns.get? id = some p := by
    obtain ⟨v, hv⟩ := JsMap.has_iff.mp h
    exact ⟨v, JsMap.get?_eq_some_iff.mpr hv⟩
  simp only [learnPattern, hp, JsMap.get?_set]
  split
  · subst k; simp [hp, boostPattern]
  · simp_all

/-! ## One `ingest` call -/

section Ingest

variable {c : LearningCore} {input : IngestInput}

@[simp] theorem ingest_config : (c.ingest now input).2.config = c.config := by
  unfold ingest
  cases extractFeatures input.data <;> rfl

/-- The store after a call: unchanged when extraction throws, otherwise the decayed store
with the derived id learnt. -/
theorem ingest_patterns : (c.ingest now input).2.patterns =
    match extractFeatures input.data with
    | .error _ => c.patterns
    | .ok fs => (learnPattern c.config (decayPatterns c.config c.patterns) now input.type
        (hashFeatures fs input.type.name) (sortStrings fs)).2 := by
  unfold ingest
  cases extractFeatures input.data <;> rfl

/-- A call that returns counts one ingest and one outcome. -/
theorem ingest_counts {r : LearningResult} (h : (c.ingest now input).1 = .ok r) :
    (c.ingest now input).2.ingestCount = c.ingestCount + 1 ∧
    (c.ingest now input).2.successCount + (c.ingest now input).2.failureCount =
      c.successCount + c.failureCount + 1 := by
  unfold ingest at h ⊢
  cases hx : extractFeatures input.data with
  | error => simp [hx] at h
  | ok fs =>
    simp only [hx, updateModelVersion, countOutcome, true_and]
    split <;> omega

end Ingest

/-! ## Runs -/

/-- The cores `new LearningCore(config)` and a sequence of `ingest` calls produce, whether
each call returns or throws. -/
inductive Reachable (config : LearningConfig) : LearningCore → Prop
  | create : Reachable config (create config)
  | ingest {c : LearningCore} (now : ℚ) (input : IngestInput) :
      Reachable config c → Reachable config (c.ingest now input).2

/-- The cores reached by `ingest` calls that all return. -/
inductive ReachableOk (config : LearningConfig) : LearningCore → Prop
  | create : ReachableOk config (create config)
  | ingest {c : LearningCore} (now : ℚ) (input : IngestInput) (r : LearningResult) :
      ReachableOk config c → (c.ingest now input).1 = .ok r →
        ReachableOk config (c.ingest now input).2

theorem ReachableOk.reachable {c : LearningCore} (h : ReachableOk config c) :
    Reachable config c := by
  induction h with
  | create => exact .create
  | ingest now input _ _ _ ih => exact .ingest now input ih

theorem Reachable.config_eq {c : LearningCore} (h : Reachable config c) : c.config = config := by
  induction h with
  | create => rfl
  | ingest _ _ _ ih => rw [ingest_config, ih]

/-! ## The shape of every stored pattern -/

/-- What every stored pattern satisfies: it is keyed by its own id, which is the hash of
its class and its features; it was seen at least once and has at least two features. -/
structure PatternOk (key : String) (p : LearnedPattern) : Prop where
  key_eq : key = p.id
  id_eq : p.id = hashFeatures p.features p.type.name
  one_le_seenCount : 1 ≤ p.seenCount
  two_le_features : 2 ≤ p.features.length

/-- Every entry of a store is well formed. -/
def StoreOk (patterns : JsMap LearnedPattern) : Prop := ∀ e ∈ patterns.entries, PatternOk e.1 e.2

theorem StoreOk.decayPatterns (h : StoreOk patterns) : StoreOk (decayPatterns config patterns) := by
  rintro ⟨k, p⟩ he
  obtain ⟨v, hv, rfl⟩ := JsMap.mem_mapValues.mp he
  have := h _ hv
  exact ⟨this.key_eq, this.id_eq, this.one_le_seenCount, this.two_le_features⟩

theorem StoreOk.learnPattern (h : StoreOk patterns) (hid : id = hashFeatures fs type.name)
    (hfs : 2 ≤ fs.length) : StoreOk (learnPattern config patterns now type id fs).2 := by
  intro e he
  rcases mem_learnPattern he with ⟨he, -⟩ | ⟨p, hp, rfl⟩ | ⟨-, rfl⟩
  · exact h e he
  · have := h _ (JsMap.get?_eq_some_iff.mp hp)
    exact ⟨this.key_eq, this.id_eq, by simp [boostPattern], this.two_le_features⟩
  · exact ⟨rfl, hid, le_rfl, hfs⟩

theorem StoreOk.ingest {c : LearningCore} (h : StoreOk c.patterns) (input : IngestInput) :
    StoreOk (c.ingest now input).2.patterns := by
  rw [ingest_patterns]
  split
  · exact h
  · rename_i fs hfs
    exact h.decayPatterns.learnPattern (hashFeatures_sortStrings _).symm
      (by simpa using two_le_length_of_extractFeatures hfs)

theorem Reachable.storeOk {c : LearningCore} (h : Reachable config c) : StoreOk c.patterns := by
  induction h with
  | create => exact fun e he => absurd he (List.not_mem_nil e)
  | ingest _ input _ ih => exact ih.ingest input

/-! ## Weights -/

/-- Every stored weight is a finite number in `[0, 1]`. -/
def WeightsOk (patterns : JsMap LearnedPattern) : Prop :=
  ∀ e ∈ patterns.entries, ∃ q, e.2.weight = .fin q ∧ 0 ≤ q ∧ q ≤ 1

/-- A finite number of `[0, 1]` read back through `toFixed(d)` is one. -/
theorem parseFixed_fin_mem_unit (d : ℕ) {q : ℚ} (h0 : 0 ≤ q) (h1 : q ≤ 1) :
    ∃ q', (JsNum.fin q).parseFixed d = .fin q' ∧ 0 ≤ q' ∧ q' ≤ 1 :=
  ⟨_, rfl, parseFixed_mem_unit d h0 h1⟩

/-- A weight of `[0, 1]` raised by a non-negative boost and capped at `1` is one, also when
the sum overflows. -/
theorem boost_mem_unit {q b : ℚ} (h0 : 0 ≤ q) (hb : 0 ≤ b) :
    ∃ q', (JsNum.mathMin ((JsNum.fin q).add (.fin (f64 b))).toDouble (.fin 1)).parseFixed 6 =
      .fin q' ∧ 0 ≤ q' ∧ q' ≤ 1 := by
  have hs : 0 ≤ q + f64 b := add_nonneg h0 (f64_nonneg hb)
  rcases JsNum.toDouble_of_nonneg hs with h | h <;> simp only [JsNum.add, h]
  · rw [JsNum.mathMin_fin]
    exact parseFixed_fin_mem_unit 6 (le_min (f64_nonneg hs) zero_le_one) (min_le_right _ _)
  · exact parseFixed_fin_mem_unit 6 zero_le_one le_rfl

section Weights

variable (hd0 : 0 ≤ config.decayRate) (hd1 : config.decayRate ≤ 1)
  (hs : 0 ≤ config.successBoost) (hf : 0 ≤ config.failurePenalty)

include hd0 hd1 in
/-- A weight of `[0, 1]` decays to one: the product stays in `[0, 1]`, far from overflow. -/
theorem decay_mem_unit {q : ℚ} (h0 : 0 ≤ q) (h1 : q ≤ 1) :
    ∃ q', ((JsNum.fin q).mul (.fin (f64 config.decayRate))).toDouble.parseFixed 6 = .fin q' ∧
      0 ≤ q' ∧ q' ≤ 1 := by
  obtain ⟨r0, r1⟩ := f64_mem_unit hd0 hd1
  have hm0 : 0 ≤ q * f64 config.decayRate := mul_nonneg h0 r0
  have hm1 : q * f64 config.decayRate ≤ 1 := mul_le_one₀ h1 r0 r1
  simp only [JsNum.mul, JsNum.toDouble_fin_unit hm0 hm1]
  exact parseFixed_fin_mem_unit 6 (f64_nonneg hm0) (f64_le_one hm1)

include hd0 hd1 in
theorem WeightsOk.decayPatterns (h : WeightsOk patterns) :
    WeightsOk (decayPatterns config patterns) := by
  rintro ⟨k, p⟩ he
  obtain ⟨v, hv, rfl⟩ := JsMap.mem_mapValues.mp he
  obtain ⟨q, hq, h0, h1⟩ := h _ hv
  dsimp only
  rw [hq]
  exact decay_mem_unit hd0 hd1 h0 h1

include hs hf in
theorem WeightsOk.learnPattern (h : WeightsOk patterns) :
    WeightsOk (learnPattern config patterns now type id fs).2 := by
  intro e he
  rcases mem_learnPattern he with ⟨he, -⟩ | ⟨p, hp, rfl⟩ | ⟨-, rfl⟩
  · exact h e he
  · obtain ⟨q, hq, h0, -⟩ := h _ (JsMap.get?_eq_some_iff.mp hp)
    dsimp only at hq
    have hb : 0 ≤ if type = .success then config.successBoost else config.failurePenalty := by
      split <;> assumption
    simp only [boostPattern, hq]
    exact boost_mem_unit h0 hb
  · exact ⟨_, rfl, f64_mem_unit (by split <;> norm_num) (by split <;> norm_num)⟩

include hd0 hd1 hs hf in
theorem Reachable.weightsOk {c : LearningCore} (h : Reachable config c) : WeightsOk c.patterns := by
  induction h with
  | create => exact fun e he => absurd he (List.not_mem_nil e)
  | @ingest c _ input hc ih =>
    rw [ingest_patterns]
    split
    · exact ih
    · rw [hc.config_eq]
      exact (ih.decayPatterns hd0 hd1).learnPattern hs hf

end Weights

/-! ## Seeing a pattern again -/

section Ingest

variable {c : LearningCore} {input : IngestInput}

/-- An ingest whose derived id is stored keeps the number of patterns, adds one to that
pattern's count and leaves every other count as it was. -/
theorem ingest_existing (hfs : extractFeatures input.data = .ok fs)
    (h : c.patterns.has (hashFeatures fs input.type.name)) :
    (c.ingest now input).2.patterns.size = c.patterns.size ∧
    ∀ k, ((c.ingest now input).2.patterns.get? k).map (·.seenCount) =
      (c.patterns.get? k).map fun p =>
        if k = hashFeatures fs input.type.name then p.seenCount + 1 else p.seenCount := by
  have hd : (decayPatterns c.config c.patterns).has (hashFeatures fs input.type.name) := by
    simpa [decayPatterns] using h
  rw [ingest_patterns, hfs]
  refine ⟨by rw [size_learnPattern_of_has hd]; exact JsMap.size_mapValues, fun k => ?_⟩
  rw [get?_learnPattern_of_has hd, decayPatterns, JsMap.get?_mapValues, Option.map_map]
  rfl

/-- An ingest whose derived id is not stored, with room for one more pattern, stores the
new pattern under that id, seen once, and leaves every other count as it was. -/
theorem ingest_new (hfs : extractFeatures input.data = .ok fs)
    (h : c.patterns.has (hashFeatures fs input.type.name) = false)
    (hroom : (c.patterns.size : ℚ) + 1 ≤ c.config.memorySize) :
    (c.ingest now input).2.patterns.size = c.patterns.size + 1 ∧
    (c.ingest now input).2.patterns.get? (hashFeatures fs input.type.name) =
      some (newPattern now input.type (hashFeatures fs input.type.name) (sortStrings fs)) ∧
    ∀ k, k ≠ hashFeatures fs input.type.name →
      ((c.ingest now input).2.patterns.get? k).map (·.seenCount) =
        (c.patterns.get? k).map (·.seenCount) := by
  set id := hashFeatures fs input.type.name
  have hd : (decayPatterns c.config c.patterns).has id = false := JsMap.has_mapValues.trans h
  have hsz : ((decayPatterns c.config c.patterns).set id
      (newPattern now input.type id (sortStrings fs))).size = c.patterns.size + 1 := by
    rw [JsMap.size_set, hd, if_neg Bool.false_ne_true, decayPatterns, JsMap.size_mapValues]
  rw [ingest_patterns, hfs]
  dsimp only
  rw [learnPattern_of_not_has hd]
  dsimp only
  rw [if_neg (by rw [hsz]; push_cast; exact not_lt.mpr hroom)]
  refine ⟨hsz, by simp [JsMap.get?_set], fun k hk => ?_⟩
  rw [JsMap.get?_set, if_neg hk, decayPatterns, JsMap.get?_mapValues, Option.map_map]
  rfl

end Ingest

/-- The loop's own learner keeps every weight in `[0, 1]`. -/
theorem default_rates :
    0 ≤ LearningConfig.default.decayRate ∧ LearningConfig.default.decayRate ≤ 1 ∧
      0 ≤ LearningConfig.default.successBoost ∧ 0 ≤ LearningConfig.default.failurePenalty := by
  norm_num [LearningConfig.default]

/-- Over calls that all return: every stored pattern is well formed with a finite weight in
`[0, 1]`, every call counted one outcome, an ingest whose derived id is new stores one
pattern under it when there is room, and an ingest whose derived id is stored keeps the
size and adds one to that pattern's count only. -/
theorem reachableOk_store (hd0 : 0 ≤ config.decayRate) (hd1 : config.decayRate ≤ 1)
    (hs : 0 ≤ config.successBoost) (hf : 0 ≤ config.failurePenalty)
    {c : LearningCore} (hc : ReachableOk config c) :
    (∀ e ∈ c.patterns.entries, PatternOk e.1 e.2 ∧ ∃ q, e.2.weight = .fin q ∧ 0 ≤ q ∧ q ≤ 1) ∧
    c.ingestCount = c.successCount + c.failureCount ∧
    (∀ (now : ℚ) (input : IngestInput) (fs : List String), extractFeatures input.data = .ok fs →
      c.patterns.has (hashFeatures fs input.type.name) = false →
      (c.patterns.size : ℚ) + 1 ≤ config.memorySize →
      (c.ingest now input).2.patterns.size = c.patterns.size + 1 ∧
      (c.ingest now input).2.patterns.get? (hashFeatures fs input.type.name) =
        some (newPattern now input.type (hashFeatures fs input.type.name) (sortStrings fs)) ∧
      ∀ k, k ≠ hashFeatures fs input.type.name →
        ((c.ingest now input).2.patterns.get? k).map (·.seenCount) =
          (c.patterns.get? k).map (·.seenCount)) ∧
    ∀ (now : ℚ) (input : IngestInput) (fs : List String), extractFeatures input.data = .ok fs →
      c.patterns.has (hashFeatures fs input.type.name) →
      (c.ingest now input).2.patterns.size = c.patterns.size ∧
      ∀ k, ((c.ingest now input).2.patterns.get? k).map (·.seenCount) =
        (c.patterns.get? k).map fun p =>
          if k = hashFeatures fs input.type.name then p.seenCount + 1 else p.seenCount := by
  refine ⟨fun e he => ⟨hc.reachable.storeOk e he, hc.reachable.weightsOk hd0 hd1 hs hf e he⟩, ?_,
    fun _ _ _ hfs h hroom => ingest_new hfs h (hc.reachable.config_eq ▸ hroom),
    fun _ _ _ hfs h => ingest_existing hfs h⟩
  induction hc with
  | create => rfl
  | ingest now input r _ hr ih =>
    obtain ⟨h1, h2⟩ := ingest_counts hr
    omega

/-- The loop's learner after one ingest of an empty record, which returns. -/
theorem default_store :
    let c := ((create LearningConfig.default).ingest 0 ⟨.success, .empty, 1⟩).2
    (0 ≤ LearningConfig.default.decayRate ∧ LearningConfig.default.decayRate ≤ 1 ∧
      0 ≤ LearningConfig.default.successBoost ∧ 0 ≤ LearningConfig.default.failurePenalty) ∧
    ReachableOk LearningConfig.default c ∧
    (∀ e ∈ c.patterns.entries, PatternOk e.1 e.2 ∧ ∃ q, e.2.weight = .fin q ∧ 0 ≤ q ∧ q ≤ 1) ∧
    c.ingestCount = c.successCount + c.failureCount ∧
    (∀ (now : ℚ) (input : IngestInput) (fs : List String), extractFeatures input.data = .ok fs →
      c.patterns.has (hashFeatures fs input.type.name) = false →
      (c.patterns.size : ℚ) + 1 ≤ LearningConfig.default.memorySize →
      (c.ingest now input).2.patterns.size = c.patterns.size + 1 ∧
      (c.ingest now input).2.patterns.get? (hashFeatures fs input.type.name) =
        some (newPattern now input.type (hashFeatures fs input.type.name) (sortStrings fs)) ∧
      ∀ k, k ≠ hashFeatures fs input.type.name →
        ((c.ingest now input).2.patterns.get? k).map (·.seenCount) =
          (c.patterns.get? k).map (·.seenCount)) ∧
    ∀ (now : ℚ) (input : IngestInput) (fs : List String), extractFeatures input.data = .ok fs →
      c.patterns.has (hashFeatures fs input.type.name) →
      (c.ingest now input).2.patterns.size = c.patterns.size ∧
      ∀ k, ((c.ingest now input).2.patterns.get? k).map (·.seenCount) =
        (c.patterns.get? k).map fun p =>
          if k = hashFeatures fs input.type.name then p.seenCount + 1 else p.seenCount :=
  have hc : ReachableOk LearningConfig.default
      ((create LearningConfig.default).ingest 0 ⟨.success, .empty, 1⟩).2 :=
    .ingest 0 _ _ .create rfl
  ⟨default_rates, hc, reachableOk_store default_rates.1 default_rates.2.1 default_rates.2.2.1
    default_rates.2.2.2 hc⟩

/-! ## The memory bound -/

set_option maxRecDepth 10000 in
/-- Below a memory size of `10` nothing is pruned: with memory size `1`, a success and then
a failure on the same empty record store two patterns, and the second call returns and
reports both. -/
theorem ingest_outgrows_memorySize :
    (let config : LearningConfig := { LearningConfig.default with memorySize := 1 }
      let c := ((create config).ingest 0 ⟨.success, .empty, 1⟩).2
      let r := c.ingest 0 ⟨.failure, .empty, 2⟩
      1 ≤ config.memorySize ∧ Reachable config r.2 ∧ r.1.toOption.map (·.patterns) = some 2 ∧
        config.memorySize < r.2.patterns.size) :=
  ⟨by norm_num, .ingest _ _ (.ingest _ _ .create), by with_unfolding_all decide,
    by with_unfolding_all decide⟩

/-! ## Prediction

Every operation of `predict` returns a double. Over weights of `[0, 1]` the total weight
stays in `[0, 2^53]` and the match within `±2^53`: adding at most `1` to `2^53` is a tie that
rounds back to `2^53`, so neither sum overflows, however many patterns there are. The
quotient of the two may overflow when the total is tiny, but the clamp to `[0, 1]` takes
an infinity to a bound, and only `NaN` would get through it. -/

/-- The running sums of `predict`: a finite total in `[0, 2^53]` and a finite match within
`±2^53`. -/
def SumsOk (acc : JsNum × JsNum) : Prop :=
  ∃ tw mw, acc = (.fin tw, .fin mw) ∧ 0 ≤ tw ∧ tw ≤ 2 ^ 53 ∧ |mw| ≤ 2 ^ 53

/-- A sum that stays within `2^53 + 1` rounds to a finite number within `2^53`. -/
theorem toDouble_add_fin {a b : ℚ} (h : |a + b| ≤ 2 ^ 53 + 1) :
    ((JsNum.fin a).add (.fin b)).toDouble = .fin (f64 (a + b)) ∧ |f64 (a + b)| ≤ 2 ^ 53 :=
  ⟨JsNum.toDouble_fin (h.trans (by norm_num)), abs_f64_le_two_pow_53 h⟩

/-- The similarity of a pattern with a feature: a double in `[0, 1]`. -/
theorem similarity_mem_unit (fs : List String) {p : LearnedPattern}
    (hp : 1 ≤ p.features.length) :
    ∃ s, (JsNum.div (.fin ((p.features.filter (· ∈ fs)).length : ℚ))
      (.fin (max (p.features.length : ℚ) fs.length))).toDouble = .fin s ∧ 0 ≤ s ∧ s ≤ 1 := by
  have hm : 0 < max (p.features.length : ℚ) fs.length :=
    lt_max_of_lt_left (Nat.cast_pos.mpr hp)
  have ho : ((p.features.filter (· ∈ fs)).length : ℚ) ≤ max (p.features.length : ℚ) fs.length :=
    le_max_of_le_left (by exact_mod_cast List.length_filter_le _ _)
  have h0 : 0 ≤ ((p.features.filter (· ∈ fs)).length : ℚ) / max (p.features.length : ℚ) fs.length :=
    div_nonneg (Nat.cast_nonneg _) hm.le
  have h1 := (div_le_one hm).mpr ho
  rw [JsNum.div_fin_of_ne hm.ne', JsNum.toDouble_fin_unit h0 h1]
  exact ⟨_, rfl, f64_mem_unit h0 h1⟩

/-- One pattern with a feature and a weight of `[0, 1]` keeps the sums within their bounds. -/
theorem sumsOk_predictStep {acc : JsNum × JsNum} (h : SumsOk acc) (fs : List String)
    {p : LearnedPattern} (hp : 1 ≤ p.features.length)
    (hw : ∃ q, p.weight = .fin q ∧ 0 ≤ q ∧ q ≤ 1) : SumsOk (predictStep fs acc p) := by
  obtain ⟨tw, mw, rfl, ht0, ht1, hmw⟩ := h
  obtain ⟨q, hq, q0, q1⟩ := hw
  obtain ⟨σ, hσ, σ0, σ1⟩ := similarity_mem_unit fs hp
  have hx0 : 0 ≤ q * σ := mul_nonneg q0 σ0
  have hx1 : q * σ ≤ 1 := mul_le_one₀ q1 σ0 σ1
  obtain ⟨y0, y1⟩ := f64_mem_unit hx0 hx1
  obtain ⟨hm0, hm1⟩ := abs_le.mp hmw
  obtain ⟨htw, htb⟩ := toDouble_add_fin (a := tw) (b := q)
    (abs_le.mpr ⟨by linarith only [ht0, q0], by linarith only [ht1, q1]⟩)
  simp only [predictStep, hq, hσ, JsNum.mul, JsNum.toDouble_fin_unit hx0 hx1, htw]
  have htw0 : 0 ≤ f64 (tw + q) := f64_nonneg (add_nonneg ht0 q0)
  split
  · obtain ⟨hm, hmb⟩ := toDouble_add_fin (a := mw) (b := f64 (q * σ))
      (abs_le.mpr ⟨by linarith only [hm0, y0], by linarith only [hm1, y1]⟩)
    rw [hm]
    exact ⟨_, _, rfl, htw0, (abs_le.mp htb).2, hmb⟩
  · have hz0 : 0 ≤ f64 (q * σ) * 0.5 := mul_nonneg y0 (by norm_num)
    have hz1 : f64 (q * σ) * 0.5 ≤ 1 := by linarith only [y1]
    obtain ⟨z0, z1⟩ := f64_mem_unit hz0 hz1
    have hd : |mw - f64 (f64 (q * σ) * 0.5)| ≤ 2 ^ 53 + 1 :=
      abs_le.mpr ⟨by linarith only [hm0, z1], by linarith only [hm1, z0]⟩
    have hsub : ((JsNum.fin mw).sub (.fin (f64 (f64 (q * σ) * 0.5)))).toDouble =
        .fin (f64 (mw - f64 (f64 (q * σ) * 0.5))) := JsNum.toDouble_fin (hd.trans (by norm_num))
    simp only [JsNum.toDouble_fin_unit hz0 hz1, hsub]
    exact ⟨_, _, rfl, htw0, (abs_le.mp htb).2, abs_f64_le_two_pow_53 hd⟩

theorem sumsOk_foldl_predictStep (fs : List String) {l : List (String × LearnedPattern)}
    (hl : ∀ e ∈ l, 1 ≤ e.2.features.length ∧ ∃ q, e.2.weight = .fin q ∧ 0 ≤ q ∧ q ≤ 1) :
    ∀ {acc : JsNum × JsNum}, SumsOk acc →
      SumsOk (l.foldl (fun acc e => predictStep fs acc e.2) acc) := by
  induction l with
  | nil => exact fun h => h
  | cons e l ih =>
    intro acc h
    have he := hl e (List.mem_cons_self _ _)
    exact ih (fun x hx => hl x (List.mem_cons_of_mem _ hx)) (sumsOk_predictStep h fs he.1 he.2)

/-- `Math.max(0, Math.min(1, x))` read back through `toFixed(4)` is a number of `[0, 1]` for
every `x` but `NaN`. -/
theorem clamp_mem_unit {x : JsNum} (hx : x ≠ .nan) :
    ∃ q, (JsNum.mathMax (.fin 0) (JsNum.mathMin (.fin 1) x)).parseFixed 4 = .fin q ∧
      0 ≤ q ∧ q ≤ 1 := by
  cases x with
  | fin r =>
    rw [JsNum.mathMin_fin, JsNum.mathMax_fin]
    exact parseFixed_fin_mem_unit 4 (le_max_left _ _) (max_le zero_le_one (min_le_left _ _))
  | nan => exact absurd rfl hx
  | posInf => exact ⟨_, rfl, parseFixed_mem_unit 4 (by norm_num) (by norm_num)⟩
  | negInf => exact ⟨_, rfl, parseFixed_mem_unit 4 (by norm_num) (by norm_num)⟩

/-- On a store whose patterns all have a feature and a weight of `[0, 1]`, `predict` is a
number in `[0, 1]`. -/
theorem predict_mem_unit {c : LearningCore}
    (h : ∀ e ∈ c.patterns.entries, 1 ≤ e.2.features.length ∧
      ∃ q, e.2.weight = .fin q ∧ 0 ≤ q ∧ q ≤ 1)
    (fs : List String) : ∃ q, c.predict fs = .fin q ∧ 0 ≤ q ∧ q ≤ 1 := by
  unfold predict
  split
  · exact ⟨0.5, rfl, by norm_num, by norm_num⟩
  obtain ⟨tw, mw, hfold, -⟩ :=
    sumsOk_foldl_predictStep fs h ⟨0, 0, rfl, le_rfl, by norm_num, by norm_num⟩
  have hb : (if (JsNum.fin 0).lessThan (JsNum.fin tw) = some true
      then ((JsNum.fin mw).div (JsNum.fin tw)).toDouble else JsNum.fin 0.5) ≠ .nan := by
    by_cases ht : 0 < tw
    · have hlt : (JsNum.fin 0).lessThan (JsNum.fin tw) = some true := by simp [JsNum.lessThan, ht]
      rw [if_pos hlt, JsNum.div_fin_of_ne ht.ne']
      exact JsNum.toDouble_ne_nan (by simp)
    · simp [JsNum.lessThan, ht]
  rw [hfold]
  refine clamp_mem_unit (JsNum.toDouble_ne_nan ?_)
  revert hb
  generalize (if (JsNum.fin 0).lessThan (JsNum.fin tw) = some true
      then ((JsNum.fin mw).div (JsNum.fin tw)).toDouble else JsNum.fin 0.5) = base
  cases base <;> simp [JsNum.add]

/-- With a decay rate in `[0, 1]` and non-negative boosts, `predict` never divides by zero
and never returns `NaN`: on every core a sequence of calls reaches, whatever they
returned, it is a number in `[0, 1]`. -/
theorem reachable_predict_mem_unit (hd0 : 0 ≤ config.decayRate) (hd1 : config.decayRate ≤ 1)
    (hs : 0 ≤ config.successBoost) (hf : 0 ≤ config.failurePenalty) {c : LearningCore}
    (hc : Reachable config c) (fs : List String) : ∃ q, c.predict fs = .fin q ∧ 0 ≤ q ∧ q ≤ 1 :=
  predict_mem_unit (fun e he => ⟨le_trans (by norm_num) (hc.storeOk e he).two_le_features,
    hc.weightsOk hd0 hd1 hs hf e he⟩) fs

/-- The loop's learner, after one ingest, predicts a number in `[0, 1]`. -/
theorem default_predict_mem_unit :
    (0 ≤ LearningConfig.default.decayRate ∧ LearningConfig.default.decayRate ≤ 1 ∧
      0 ≤ LearningConfig.default.successBoost ∧ 0 ≤ LearningConfig.default.failurePenalty) ∧
    ∃ q, ((create LearningConfig.default).ingest 0 ⟨.success, .empty, 1⟩).2.predict ["keys:0"] =
      .fin q ∧ 0 ≤ q ∧ q ≤ 1 :=
  ⟨default_rates, reachable_predict_mem_unit default_rates.1 default_rates.2.1
    default_rates.2.2.1 default_rates.2.2.2 (.ingest _ _ .create) ["keys:0"]⟩

/-! ## The throwing path

`ingest` counts the call before it extracts the features, and extraction throws exactly on
an `errors` array holding a value that is not a string: `e.split` is not a function there. -/

theorem mapM_errorType_eq_error_iff (es : List JsVal) :
    (∃ err, es.mapM errorType = .error err) ↔ ∃ e ∈ es, ∀ s, e ≠ .str s := by
  induction es with
  | nil => exact ⟨(by rintro ⟨_, h⟩; cases h), (by rintro ⟨_, h, _⟩; cases h)⟩
  | cons e es ih =>
    cases e with
    | str s =>
      have hs : (∃ e ∈ JsVal.str s :: es, ∀ t, e ≠ .str t) ↔ ∃ e ∈ es, ∀ t, e ≠ .str t := by
        simp
      rw [hs, ← ih, List.mapM_cons]
      cases es.mapM errorType <;> simp [errorType, bind, Except.bind, pure, Except.pure]
    | _ => exact ⟨fun _ => ⟨_, List.mem_cons_self _ _, fun _ h => nomatch h⟩,
        fun _ => ⟨.typeError, rfl⟩⟩

theorem errorFeatures_eq_error_iff (v : JsVal) :
    (∃ err, errorFeatures v = .error err) ↔ ∃ es, v = .arr es ∧ ∃ e ∈ es, ∀ s, e ≠ .str s := by
  cases v with
  | arr es =>
    simp only [JsVal.arr.injEq, exists_eq_left', ← mapM_errorType_eq_error_iff, errorFeatures]
    split_ifs with h
    · cases es.mapM errorType <;> simp [bind, Except.bind, pure, Except.pure]
    · rw [List.eq_nil_of_length_eq_zero (by omega : es.length = 0)]
      exact ⟨(by rintro ⟨_, h⟩; cases h), (by rintro ⟨_, h⟩; cases h)⟩
  | _ => simp [errorFeatures, pure, Except.pure]

theorem extractFeatures_eq_error_iff (data : JsRecord) :
    (∃ err, extractFeatures data = .error err) ↔
      ∃ es, data.get "errors" = .arr es ∧ ∃ e ∈ es, ∀ s, e ≠ .str s := by
  rw [← errorFeatures_eq_error_iff]
  unfold extractFeatures
  cases errorFeatures (data.get "errors") <;> simp [Except.map]

section Throwing

variable {c : LearningCore} {input : IngestInput}

/-- `ingest` throws exactly when extraction does. -/
theorem ingest_eq_error_iff :
    (∃ err, (c.ingest now input).1 = .error err) ↔
      ∃ es, input.data.get "errors" = .arr es ∧ ∃ e ∈ es, ∀ s, e ≠ .str s := by
  rw [← extractFeatures_eq_error_iff]
  unfold ingest
  cases extractFeatures input.data <;> simp

/-- A call that throws has counted itself and changed nothing else. -/
theorem ingest_of_error {err : JsError} (h : (c.ingest now input).1 = .error err) :
    (c.ingest now input).2 = { c with ingestCount := c.ingestCount + 1 } := by
  unfold ingest at h ⊢
  cases hx : extractFeatures input.data <;> simp only [hx] at h ⊢
  cases h

end Throwing

/-- A record whose `errors` array holds a number: from every core and for either class,
`ingest` throws, and the core keeps the count of the call it made before it threw. -/
theorem ingest_throws_on_number_error (c : LearningCore) (now : ℚ) (type : OutcomeType) (i : ℚ) :
    (let input : IngestInput := ⟨type, ⟨[("errors", .arr [.num (.fin 0)])], by decide⟩, i⟩
    (c.ingest now input).1 = .error .typeError ∧
      (c.ingest now input).2 = { c with ingestCount := c.ingestCount + 1 }) :=
  ⟨rfl, rfl⟩

/-! ## Model versions -/

/-- `${major}.${minor}` after `k` ingests: the major counts hundreds from `1`, the minor the
tens within the hundred. -/
def versionString (k : ℕ) : String := toString (k / 100 + 1) ++ "." ++ toString (k % 100 / 10)

/-- A call that returns writes and reports the version of its own ingest count. -/
theorem ingest_version {c : LearningCore} {input : IngestInput} {r : LearningResult}
    (h : (c.ingest now input).1 = .ok r) :
    r.modelVersion = versionString (c.ingestCount + 1) ∧
      (c.ingest now input).2.modelVersion = r.modelVersion ∧
      (c.ingest now input).2.ingestCount = c.ingestCount + 1 := by
  unfold ingest at h ⊢
  cases hx : extractFeatures input.data <;> simp only [hx, Except.ok.injEq] at h ⊢
  · cases h
  · subst h
    exact ⟨rfl, rfl, rfl⟩

/-- Every call keeps the version `\d+\.\d+`: one that throws leaves it, one that returns
writes `major.minor`. -/
theorem hasDigitDotDigit_ingest {c : LearningCore} (hc : hasDigitDotDigit c.modelVersion.toList)
    (input : IngestInput) : hasDigitDotDigit (c.ingest now input).2.modelVersion.toList := by
  cases h : (c.ingest now input).1 with
  | error err => rwa [ingest_of_error h]
  | ok r => rw [(ingest_version h).2.1, (ingest_version h).1]; exact hasDigitDotDigit_natDotNat _ _

/-- The major and minor numbers never go down: a minor reset comes with a new major. -/
theorem versionNumbers_mono {k k' : ℕ} (h : k ≤ k') :
    toLex (k / 100 + 1, k % 100 / 10) ≤ toLex (k' / 100 + 1, k' % 100 / 10) :=
  (Prod.Lex.le_iff _ _).mpr (by omega)

/-- `ingest` called on each input of `calls` in turn, each with its clock reading: the
results in order and the core reached. -/
def ingestRun (c : LearningCore) : List (ℚ × IngestInput) →
    List (Except JsError LearningResult) × LearningCore
  | [] => ([], c)
  | (now, input) :: calls =>
    let rest := ingestRun (c.ingest now input).2 calls
    ((c.ingest now input).1 :: rest.1, rest.2)

/-- Over calls that all return, the `i`-th reports the version of ingest count
`c.ingestCount + i + 1`, and the core ends with the version of the last. -/
theorem ingestRun_version (c : LearningCore) (calls : List (ℚ × IngestInput))
    (hok : ∀ x ∈ (ingestRun c calls).1, ∃ r, x = .ok r) :
    (∀ i < calls.length, ∃ r, (ingestRun c calls).1.get? i = some (.ok r) ∧
      r.modelVersion = versionString (c.ingestCount + i + 1)) ∧
    (ingestRun c calls).2.ingestCount = c.ingestCount + calls.length ∧
    (calls ≠ [] → (ingestRun c calls).2.modelVersion =
      versionString (c.ingestCount + calls.length)) := by
  induction calls generalizing c with
  | nil => simp [ingestRun]
  | cons call calls ih =>
    obtain ⟨now, input⟩ := call
    simp only [ingestRun, List.mem_cons, forall_eq_or_imp] at hok ⊢
    obtain ⟨⟨r, hr⟩, hrest⟩ := hok
    obtain ⟨hv, hkeep, hcount⟩ := ingest_version hr
    obtain ⟨ih₁, ih₂, ih₃⟩ := ih _ hrest
    rw [hcount] at ih₁ ih₂ ih₃
    refine ⟨fun i hi => ?_, by rw [ih₂]; simp; omega, fun _ => ?_⟩
    · cases i with
      | zero => exact ⟨r, by simp [hr], hv⟩
      | succ i =>
        obtain ⟨r', h', hv'⟩ := ih₁ i (by simpa using hi)
        exact ⟨r', by simpa using h', by rw [hv']; congr 1; omega⟩
    · cases calls with
      | nil => simpa [ingestRun, hkeep] using hv
      | cons => rw [ih₃ (List.cons_ne_nil _ _)]; congr 1; simp; omega

/-- Over `k ≥ 1` calls from a new core that all return, the core ends with version
`⌊k/100⌋+1 . ⌊(k mod 100)/10⌋`; the `i`-th call reports the version of `i + 1`, whose minor
is below `10` and which stage 3 of the gate accepts; and the reported (major, minor) pairs
never decrease in lexicographic order. -/
theorem ingestRun_versions (config : LearningConfig) (calls : List (ℚ × IngestInput))
    (hk : calls ≠ []) (hok : ∀ x ∈ (ingestRun (create config) calls).1, ∃ r, x = .ok r) :
    (ingestRun (create config) calls).2.modelVersion =
        toString (calls.length / 100 + 1) ++ "." ++ toString (calls.length % 100 / 10) ∧
    (∀ i < calls.length, ∃ r, (ingestRun (create config) calls).1.get? i = some (.ok r) ∧
      r.modelVersion = toString ((i + 1) / 100 + 1) ++ "." ++ toString ((i + 1) % 100 / 10) ∧
      (i + 1) % 100 / 10 < 10 ∧ hasDigitDotDigit r.modelVersion.toList = true) ∧
    ∀ i j, i ≤ j → toLex ((i + 1) / 100 + 1, (i + 1) % 100 / 10) ≤
      toLex ((j + 1) / 100 + 1, (j + 1) % 100 / 10) := by
  obtain ⟨hrep, -, hlast⟩ := ingestRun_version (create config) calls hok
  refine ⟨by simpa [create] using hlast hk, fun i hi => ?_, fun i j hij => versionNumbers_mono (by omega)⟩
  obtain ⟨r, hr, hv⟩ := hrep i hi
  simp only [create, Nat.zero_add] at hv
  exact ⟨r, hr, hv, by omega, by rw [hv]; exact hasDigitDotDigit_natDotNat _ _⟩

/-- Calls on records without an `errors` array all return. -/
theorem ingestRun_ok (c : LearningCore) (calls : List (ℚ × IngestInput))
    (h : ∀ call ∈ calls, call.2.data.get "errors" = .undefined) :
    ∀ x ∈ (ingestRun c calls).1, ∃ r, x = .ok r := by
  induction calls generalizing c with
  | nil => simp [ingestRun]
  | cons call calls ih =>
    simp only [ingestRun, List.mem_cons, forall_eq_or_imp]
    refine ⟨?_, ih _ fun x hx => h x (List.mem_cons_of_mem _ hx)⟩
    cases hc : (c.ingest call.1 call.2).1 with
    | ok r => exact ⟨r, rfl⟩
    | error err =>
      obtain ⟨es, hes, -⟩ := ingest_eq_error_iff.mp ⟨err, hc⟩
      rw [h call (List.mem_cons_self _ _)] at hes
      cases hes

/-- A hundred ingests of an empty record from the loop's learner: they all return, and the
last reports version `2.0`, past the minor numbers `1.0` to `1.9`. -/
theorem default_ingestRun_versions :
    let calls := List.replicate 100 ((0 : ℚ), (⟨.success, .empty, 1⟩ : IngestInput))
    calls ≠ [] ∧ (∀ x ∈ (ingestRun (create LearningConfig.default) calls).1, ∃ r, x = .ok r) ∧
    (ingestRun (create LearningConfig.default) calls).2.modelVersion = "2.0" := by
  intro calls
  have hk : calls ≠ [] := by simp [calls]
  have hok := ingestRun_ok (create LearningConfig.default) calls fun call hc => by
    rw [List.eq_of_mem_replicate hc]
    rfl
  refine ⟨hk, hok, ?_⟩
  rw [(ingestRun_versions LearningConfig.default calls hk hok).1, List.length_replicate]
  rfl

end LearningCore

end SovereignLoop
