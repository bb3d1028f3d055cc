import SovereignLoop.Js.Number
import SovereignLoop.Js.Binary64
import SovereignLoop.Js.Value
import SovereignLoop.Loop.Types
import SovereignLoop.Loop.Veri3fy
import SovereignLoop.Loop.Veri3fyTheorems
import SovereignLoop.Loop.ScalingEngine
import SovereignLoop.Loop.ScalingEngineTheorems
import SovereignLoop.Loop.LearningCore
import SovereignLoop.Loop.LearningCoreTheorems
import SovereignLoop.Loop.AutoGenerator
import SovereignLoop.Loop.Runner
import SovereignLoop.Loop.EventLoop
import SovereignLoop.Loop.SequentialRuns
import SovereignLoop.Loop.Verdicts
import SovereignLoop.Loop.GateStats
import SovereignLoop.Loop.Interleavings
import SovereignLoop.Pax.Runtime
import SovereignLoop.Pax.Routing
import SovereignLoop.Pax.Books
import SovereignLoop.Pax.Kernel
import SovereignLoop.Api.ValueScanner
import SovereignLoop.Api.AutomationAPI
import SovereignLoop.Api.Runs
import SovereignLoop.Node.SovereignExtraction
import SovereignLoop.Node.ExtractionTheorems
