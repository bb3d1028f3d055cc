import SovereignLoop.Loop.Types

/-!
# `AutoGenerator`

Every template whose confidence and scale minimums the input meets renders one artifact,
in the order of the template table, and every fifth iteration adds a sovereignty summary.
The result's `type` is that of the last artifact, `'none'` without any. The generator
counts its calls and logs each non-empty result, keeping the last 100.
-/

namespace SovereignLoop

/-- `ArtifactTemplate` without its display name, which nothing reads. -/
structure ArtifactTemplate where
  type : String
  minConfidence : ℚ
  minScale : ℚ
  deriving DecidableEq, Repr

/-- `GenerateInput` without `history`, which only the summary's text reads. -/
structure GenerateInput where
  iteration : ℚ
  scale : ℚ
  confidence : ℚ
  deriving DecidableEq, Repr

/-- An entry of `artifactLog`. -/
structure ArtifactLogEntry where
  iteration : ℚ
  artifacts : List Artifact
  type : String
  deriving DecidableEq, Repr

/-- An `AutoGenerator` instance. -/
structure AutoGenerator where
  generationCount : ℕ
  artifactLog : List ArtifactLogEntry
  deriving DecidableEq, Repr

namespace AutoGenerator

/-- `new AutoGenerator()`. -/
def create : AutoGenerator := ⟨0, []⟩

/-- `templates`, ordered by ascending requirement. -/
def templates : List ArtifactTemplate :=
  [⟨"workflow", 0.85, 1⟩, ⟨"api_route", 0.87, 1.25⟩, ⟨"value_scan", 0.88, 1⟩,
    ⟨"agent_task", 0.90, 1.5⟩, ⟨"typescript_module", 0.92, 2⟩, ⟨"quantum_workflow", 0.95, 4⟩]

/-- The artifact a template renders from an input. -/
def render (type : String) (input : GenerateInput) : Artifact :=
  ⟨type, input.iteration, input.scale, input.confidence⟩

/-- The template loop of `generate`: the artifacts so far and the type of the last. -/
def renderTemplates (input : GenerateInput) : List Artifact × String :=
  templates.foldl (fun acc t =>
    if t.minConfidence ≤ input.confidence ∧ t.minScale ≤ input.scale
    then (acc.1 ++ [render t.type input], t.type) else acc) ([], "none")

/-- `generate(input)`. -/
def generate (g : AutoGenerator) (input : GenerateInput) : GenerationResult × AutoGenerator :=
  let (artifacts, highestType) := renderTemplates input
  let (artifacts, highestType) :=
    if 0 < input.iteration ∧ jsRem input.iteration 5 = 0
    then (artifacts ++ [render "sovereignty_summary" input], "sovereignty_summary")
    else (artifacts, highestType)
  let log := g.artifactLog ++ [⟨input.iteration, artifacts, highestType⟩]
  let log := if 0 < artifacts.length then (if 100 < log.length then log.tail else log)
    else g.artifactLog
  (⟨0 < artifacts.length, artifacts, highestType⟩, ⟨g.generationCount + 1, log⟩)

end AutoGenerator

end SovereignLoop
