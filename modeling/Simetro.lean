import Simetro.Library.Saturating
import Simetro.Library.Table
import Simetro.Library.Text
import Simetro.Library.Splitting
import Simetro.Library.Checks
import Simetro.Library.Reordering
import Simetro.Library.Trace
import Simetro.Library.Fold
import Simetro.Library.Tally
import Simetro.Library.Reservation
import Simetro.Library.RetryJob
import Simetro.Library.Slots
import Simetro.Library.TicketLine
import Simetro.Library.ServiceLine
import Simetro.Library.Latch
import Simetro.Library.Meter
import Simetro.Library.Window
import Simetro.Library.Keyed
import Simetro.Library.Tokens
import Simetro.Library.Registry
import Simetro.Library.DebouncedWatch
import Simetro.Library.Encoding
import Simetro.Library.Json
import Simetro.Library.JsonReading
import Simetro.Library.JsonObject
import Simetro.Library.Overlay
import Simetro.Library.Draws
import Simetro.Library.Champion
import Simetro.Library.Binary64
import Simetro.Library.History
import Simetro.Protocol.Messages
import Simetro.Protocol.DecisionTimeline
import Simetro.Protocol.TimelineRuns
import Simetro.Sl1.Scene
import Simetro.Sl1.RuntimeState
import Simetro.Sl1.Frame
import Simetro.Sl1.Pressure
import Simetro.Sl1.Transforms
import Simetro.Sl1.Demand
import Simetro.Sl1.Objectives
import Simetro.Sl1.Observability
import Simetro.Sl1.Agents
import Simetro.Sl1.Milestones
import Simetro.Sl1.Runtime
import Simetro.Sl1.Views
import Simetro.Sl1.TransformSteps
import Simetro.Sl1.StockChanges
import Simetro.Sl1.RawScene
import Simetro.Sl1.LoadError
import Simetro.Sl1.ValidateStructure
import Simetro.Sl1.ValidateFlow
import Simetro.Sl1.ValidateConditions
import Simetro.Sl1.ValidateObservers
import Simetro.Sl1.Validate
import Simetro.Sl1.ValidScene
import Simetro.Sl1.Lookups
import Simetro.Sl1.Reservations
import Simetro.Sl1.StoreRuns
import Simetro.Sl1.StoreInvariants
import Simetro.Sl1.PendingOutputs
import Simetro.Sl1.TransformJobs
import Simetro.Sl1.SlotAccounting
import Simetro.Sl1.SlotDeadlines
import Simetro.Sl1.Ambient
import Simetro.Sl1.Transcript
import Simetro.Sl1.PressureWindows
import Simetro.Sl1.StockDates
import Simetro.Sl1.DemandInvariants
import Simetro.Sl1.SpawnSchedule
import Simetro.Sl1.DemandThrottles
import Simetro.Sl1.DemandTurns
import Simetro.Sl1.GrowthOverlays
import Simetro.Sl1.DemandService
import Simetro.Sl1.CapacityOverlays
import Simetro.Sl1.SourceInjections
import Simetro.Sl1.SourceRates
import Simetro.Sl1.AgentSchedule
import Simetro.Sl1.TwoRuns
import Simetro.Sl1.FlowRelations
import Simetro.Sl1.EvaluationLayers
import Simetro.Sl1.PlaceView
import Simetro.Sl1.PlacePressures
import Simetro.Sl1.PlaceLocality
import Simetro.Sl1.OutcomeInvariants
import Simetro.Sl1.StateHash
import Simetro.Sl1.StaticRecords
import Simetro.Sl1.ValidIds
import Simetro.Sl1.SectionOrder
import Simetro.Sl1.StaticHash
import Simetro.Sl1.Footprints
import Simetro.Sl1.UnfedSections
import Simetro.Sl1.RuntimeRecords
import Simetro.Sl1.RuntimeHash
import Simetro.Sl1.References
import Simetro.Sl1.ConditionHistory
import Simetro.Sl1.Expectations
import Simetro.Sl1.ObserverHistory
import Simetro.Sl1.MilestoneHistory
import Simetro.Sl1.StaleTags
import Simetro.Agent.Lifecycle
import Simetro.Agent.LifecycleSteps
import Simetro.Agent.LifecycleSession
import Simetro.Agent.Runtime
import Simetro.Agent.RuntimeSync
import Simetro.Agent.RuntimeRuns
import Simetro.Agent.Attempts
import Simetro.Agent.AttemptRuns
import Simetro.Agent.ReplyRings
import Simetro.Agent.GiveUps
import Simetro.Engine.World
import Simetro.Engine.Tick
import Simetro.Engine.Components
import Simetro.Engine.Actions
import Simetro.Engine.Passes
import Simetro.Engine.SceneLoader
import Simetro.Engine.Intact
import Simetro.Engine.TickEnds
import Simetro.Engine.TickKeeps
import Simetro.Engine.IntactPasses
import Simetro.Engine.NetworkRuns
import Simetro.Engine.EventHash
import Simetro.Engine.EventAmbiguity
import Simetro.Engine.WorldHash
import Simetro.Engine.WorldRuns
import Simetro.Engine.WorldAlike
import Simetro.Engine.WorldFutures
import Simetro.Engine.Shapes
import Simetro.Engine.AgentHost
import Simetro.Engine.AgentLog
import Simetro.Engine.AgentLogRuns
import Simetro.Engine.ActionWrites
import Simetro.Engine.ActionEffects
import Simetro.Engine.ProductionStock
import Simetro.Library.Walk
import Simetro.Engine.MoverMoves
import Simetro.Engine.MoverWalks
import Simetro.Engine.Decisions
import Simetro.Engine.DecisionRuns
import Simetro.Desktop.Envelopes
import Simetro.Desktop.SceneBuild
import Simetro.Desktop.TunerIds
import Simetro.Desktop.Geometry
import Simetro.Desktop.Driver
import Simetro.Desktop.FaultSticky
import Simetro.Desktop.LiveReload
import Simetro.Desktop.LiveReloadSteps
import Simetro.Desktop.LiveReloadRuns
import Simetro.Bridge.ToolCalls
import Simetro.Bridge.Dispatch
import Simetro.Bridge.Wire
import Simetro.Bridge.WireRoundTrip
import Simetro.Engine.LogLine
import Simetro.Engine.AgentLogSink
import Simetro.Headless.PolicySearch
import Simetro.Headless.Policy
import Simetro.Headless.PolicyOverlay
import Simetro.Headless.SearchRows
import Simetro.Headless.SearchRuns
import Simetro.Library.Lines
import Simetro.Engine.LogRoundTrip
import Simetro.Engine.LogSessions
import Simetro.Headless.Replay
import Simetro.Headless.ReplayRuns
import Simetro.Engine.Registration
import Simetro.Desktop.FileWatch
import Simetro.Bridge.Rationales
import Simetro.Frontend.AgentLog
import Simetro.Frontend.ReplayAgreement
import Simetro.Library.CharBoundary
import Simetro.Engine.Provenance
import Simetro.Sl1.Roster
import Simetro.Engine.BlockRuns
import Simetro.Engine.Snapshot
import Simetro.Engine.OnPath
import Simetro.Engine.SnapshotRows
import Simetro.Sl1.DashboardAges
import Simetro.Engine.DashboardRows
import Simetro.Desktop.NameMaps
import Simetro.Library.Pattern
import Simetro.Library.ReplaceAll
import Simetro.Library.Covering
import Simetro.Engine.Redactor
import Simetro.Engine.RedactorRuns
import Simetro.Sl1.PredicateTemplates
import Simetro.Agent.LagFrames
import Simetro.Bridge.LinkRuns
import Simetro.Engine.RunHash
import Simetro.Frontend.CatchUp
import Simetro.Frontend.Sl1Synth
