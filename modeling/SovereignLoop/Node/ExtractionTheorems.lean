import SovereignLoop.Node.SovereignExtraction

/-!
# What the `SovereignExtraction` node guarantees

* **The score.** `computeSovereignScore` rounds at every step and still lands in `[0.5, 1]`
  for every item, except in a mode that names an `Object.prototype` member: there
  `modeMultipliers[mode]` is an inherited function and the score is `NaN`
  (`computeSovereignScore_range`). `NaN` is below no threshold, so such a mode filters
  nothing.
* **Under n8n.** n8n runs `execute` with `this` its execution context, where
  `this.computeSovereignScore` and `this.calculateROI` are `undefined`, so no item is ever
  extracted. With PAX on every item throws at the score; with PAX off an item is filtered
  when `1.0` is below the threshold and throws at the ROI otherwise (`processItem_n8n`). With
  `continueOnFail` the outputs are these records and error records, one per item in order
  (`execute_n8n_continueOnFail`); without it the run fails at the first item unless every
  item is filtered (`execute_n8n_halts`).
-/

namespace SovereignLoop

namespace SovereignExtraction

open PAXRuntime (objectPrototypeKeys)

/-! ## The score -/

theorem half_le_f64 {x : ℚ} (hx : 1 / 2 ≤ x) : 1 / 2 ≤ f64 x := f64_half ▸ f64_mono hx

/-- The score after its density term is at least `0.5`. -/
theorem half_le_density (n : ℕ) : 1 / 2 ≤ f64 (0.5 + min (f64 (n / 20)) (f64 0.2)) := by
  have h₁ : 0 ≤ f64 ((n : ℚ) / 20) := f64_nonneg (by positivity)
  have h₂ : (0 : ℚ) ≤ f64 0.2 := f64_nonneg (by norm_num)
  have h₃ : (0.5 : ℚ) = 1 / 2 := by norm_num
  exact half_le_f64 (by rw [h₃]; linarith [le_min h₁ h₂])

/-- An own key of `modeMultipliers` is no member of `Object.prototype`, and its value is at
least `1`. -/
theorem modeMultipliers_lookup {mode : String} {m : ℚ}
    (h : modeMultipliers.lookup mode = some m) : 1 ≤ m ∧ mode ∉ objectPrototypeKeys := by
  obtain ⟨l₁, l₂, hl, -⟩ := List.lookup_eq_some_iff.mp h
  have hmem : (mode, m) ∈ modeMultipliers := by rw [hl]; simp
  simp only [modeMultipliers, List.mem_cons, Prod.mk.injEq, List.not_mem_nil, or_false] at hmem
  rcases hmem with ⟨rfl, rfl⟩ | ⟨rfl, rfl⟩ | ⟨rfl, rfl⟩ | ⟨rfl, rfl⟩ <;>
    exact ⟨by norm_num, by decide⟩

/-- The multiplier applied to a score of at least `0.5`: `NaN` in a mode naming an
`Object.prototype` member, and otherwise a score of at least `0.5`. -/
theorem multiply_spec {s : ℚ} (hs : 1 / 2 ≤ s) (mode : String) :
    (mode ∈ objectPrototypeKeys → multiply s mode = .nan) ∧
    (mode ∉ objectPrototypeKeys → ∃ q, multiply s mode = .fin q ∧ 1 / 2 ≤ q) := by
  unfold multiply
  split
  · rename_i m hm
    obtain ⟨h1, hmode⟩ := modeMultipliers_lookup hm
    have hm' : 1 ≤ f64 m := f64_one ▸ f64_mono h1
    exact ⟨fun h => absurd h hmode, fun _ =>
      ⟨_, rfl, half_le_f64 (hs.trans (le_mul_of_one_le_right (by linarith) hm'))⟩⟩
  · exact ⟨fun h => if_pos h, fun h => ⟨_, if_neg h, half_le_f64 (by simpa using hs)⟩⟩

/-- Every item's score is `NaN` in a mode that names an `Object.prototype` member, and a
number in `[0.5, 1]` in any other mode, with every operation rounded to a double. -/
theorem computeSovereignScore_range (item : JsRecord) (mode : String) :
    (mode ∈ objectPrototypeKeys → computeSovereignScore item mode = .nan) ∧
    (mode ∉ objectPrototypeKeys →
      ∃ q, computeSovereignScore item mode = .fin q ∧ 1 / 2 ≤ q ∧ q ≤ 1) := by
  obtain ⟨hnan, hfin⟩ := multiply_spec (half_le_density item.keys.length) mode
  refine ⟨fun h => by simp only [computeSovereignScore, hnan h]; rfl, fun h => ?_⟩
  obtain ⟨q, hq, hq'⟩ := hfin h
  have hbonus :
      0 ≤ f64 (((highValueKeys.filter fun k => k ∈ item.keys).length : ℚ) * f64 0.05) :=
    f64_nonneg (mul_nonneg (by positivity) (f64_nonneg (by norm_num)))
  simp only [computeSovereignScore, hq, JsNum.add]
  rcases JsNum.toDouble_of_nonneg (add_nonneg (by linarith : (0 : ℚ) ≤ q) hbonus) with ht | ht <;>
    rw [ht]
  · rw [JsNum.mathMin_fin]
    exact ⟨_, rfl, le_min (half_le_f64 (by linarith)) (by norm_num), min_le_right _ _⟩
  · exact ⟨1, rfl, by norm_num, le_rfl⟩

/-! ## The loop, for any `this` -/

/-- What the `try`/`catch` pushes for one item when the node continues on failure: the
item's output, or its error record. -/
def itemOutput (r : Receiver) (p : Params) (message : JsError → String) (h : ItemHost)
    (item : JsRecord) : JsMap OutVal :=
  match processItem r p h item with
  | .ok out => out
  | .error e => errorRecord (e.message message) item

section Loop

variable (r : Receiver) (p : Params) (message : JsError → String) (host : ℕ → ItemHost)

/-- With `continueOnFail` the loop is a map: the `n`-th output is item `n`'s own. -/
theorem executeFrom_continueOnFail : ∀ (i : ℕ) (items : List JsRecord),
    executeFrom r p true message host i items =
      .ok (items.mapIdx fun n item => itemOutput r p message (host (i + n)) item)
  | _, [] => rfl
  | i, item :: items => by
    have ih := executeFrom_continueOnFail (i + 1) items
    simp only [show ∀ n, i + 1 + n = i + (n + 1) from fun n => by omega] at ih
    rw [List.mapIdx_cons, executeFrom, itemOutput]
    cases hp : processItem r p (host i) item <;> simp [hp, ih, Except.map]

/-- When no item throws, the node returns the same outputs whether it continues on failure
or not. -/
theorem executeFrom_of_isOk : ∀ (i : ℕ) (items : List JsRecord),
    (∀ k item, items[k]? = some item → (processItem r p (host (i + k)) item).isOk) →
      executeFrom r p false message host i items = executeFrom r p true message host i items
  | _, [], _ => rfl
  | i, item :: items, h => by
    unfold executeFrom
    cases hp : processItem r p (host i) item with
    | error e => simpa [hp, Except.isOk, Except.toBool] using h 0 item List.getElem?_cons_zero
    | ok out =>
      rw [executeFrom_of_isOk (i + 1) items fun k it hk => by
        simpa [Nat.add_right_comm] using h (k + 1) it (by simpa using hk)]

end Loop

/-! ## Under n8n -/

/-- Under n8n no item is extracted: with PAX on the item throws at
`this.computeSovereignScore`; with PAX off it is filtered when `1.0` is below the
threshold, and throws at `this.calculateROI` otherwise. -/
theorem processItem_n8n (p : Params) (h : ItemHost) (item : JsRecord) :
    processItem .n8n p h item =
      if p.enablePAX then .error (.notAFunction "computeSovereignScore")
      else if (JsNum.fin 1).lessThan p.confidenceThreshold = some true then
        .ok (filteredRecord p h item (.fin 1))
      else .error (.notAFunction "calculateROI") := by
  by_cases hp : p.enablePAX
  · simp [processItem, itemScore, hp, Receiver.call]
  · by_cases ht : (JsNum.fin 1).lessThan p.confidenceThreshold = some true
    · simp [processItem, itemScore, hp, ht]
    · simp [processItem, itemScore, hp, ht, Receiver.call]

section N8n

variable (p : Params) (message : JsError → String) (host : ℕ → ItemHost)

/-- Under n8n with `continueOnFail`, the node returns one object per item, in order, and
none is extracted: with PAX on each is the item's error record
`this.computeSovereignScore is not a function`; with PAX off it is the item's `_pax`
record when `1.0` is below the threshold, and the error record
`this.calculateROI is not a function` otherwise. -/
theorem execute_n8n_continueOnFail (items : List JsRecord) :
    execute .n8n p true message host items =
      .ok (items.mapIdx fun i item =>
        if p.enablePAX then errorRecord "this.computeSovereignScore is not a function" item
        else if (JsNum.fin 1).lessThan p.confidenceThreshold = some true then
          filteredRecord p (host i) item (.fin 1)
        else errorRecord "this.calculateROI is not a function" item) := by
  rw [execute, executeFrom_continueOnFail]
  congr 2
  funext i item
  rw [itemOutput, processItem_n8n]
  by_cases hp : p.enablePAX <;>
    by_cases ht : (JsNum.fin 1).lessThan p.confidenceThreshold = some true <;>
    simp [hp, ht, ItemError.message]

/-- Under n8n without `continueOnFail`, the node returns every item's `_pax` record when PAX
is off and `1.0` is below the threshold; otherwise it fails at item `0` of any nonempty
input, with the `TypeError` of `this.computeSovereignScore` when PAX is on and of
`this.calculateROI` when it is off. -/
theorem execute_n8n_halts (items : List JsRecord) :
    (p.enablePAX = false → (JsNum.fin 1).lessThan p.confidenceThreshold = some true →
      execute .n8n p false message host items =
        .ok (items.mapIdx fun i item => filteredRecord p (host i) item (.fin 1))) ∧
    (∀ item rest, items = item :: rest →
      (p.enablePAX = true ∨ (JsNum.fin 1).lessThan p.confidenceThreshold ≠ some true) →
      execute .n8n p false message host items = .error (0,
        .notAFunction (if p.enablePAX then "computeSovereignScore" else "calculateROI"))) := by
  refine ⟨fun hp ht => ?_, fun item rest hitems hf => ?_⟩
  · have hok : ∀ k item, items[k]? = some item → (processItem .n8n p (host (0 + k)) item).isOk :=
      fun _ _ _ => by simp [processItem_n8n, hp, ht, Except.isOk, Except.toBool]
    rw [execute, executeFrom_of_isOk .n8n p message host 0 items hok, executeFrom_continueOnFail]
    congr 2
    funext i item
    simp [itemOutput, processItem_n8n, hp, ht]
  · subst hitems
    by_cases hp : p.enablePAX
    · simp [execute, executeFrom, processItem_n8n, hp]
    · have ht : (JsNum.fin 1).lessThan p.confidenceThreshold ≠ some true := by simpa [hp] using hf
      simp [execute, executeFrom, processItem_n8n, hp, ht]

end N8n

end SovereignExtraction

end SovereignLoop
