import StoreTrial.Host.Environment
import StoreTrial.Host.Rehearsal
import StoreTrial.Sampler
import StoreTrial.Entropy.Source
import StoreTrial.Trial.Check
import StoreTrial.Trial.Crew
import StoreTrial.Trial.LogSettings
import StoreTrial.Pattern.Atom
import StoreTrial.Pattern.Basic
import StoreTrial.Text.Slice
import StoreTrial.Proofs.SnapshotRoundTrip
import StoreTrial.Proofs.FileTree
import StoreTrial.Proofs.PathInside
import StoreTrial.Proofs.SnapshotReplacement
import StoreTrial.Proofs.SnapshotReading
import StoreTrial.Proofs.SnapshotTruncation
import StoreTrial.Proofs.SnapshotCorruption
import StoreTrial.Proofs.SnapshotRewriting
import StoreTrial.Proofs.EngineCalls
import StoreTrial.Proofs.EngineSession
import StoreTrial.Proofs.SessionRefinement
import StoreTrial.Proofs.FailedSaves
import StoreTrial.Proofs.FailedChanges
import StoreTrial.Proofs.InterruptedSaves
import StoreTrial.Proofs.ClosedHandles
import StoreTrial.Proofs.SharedHandle
import StoreTrial.Proofs.ConfinedRuns
import StoreTrial.Proofs.ConcurrentClosing
import StoreTrial.Proofs.EngineProbing
import StoreTrial.Proofs.NumberedKeys
import StoreTrial.Proofs.MixedCalls
import StoreTrial.Proofs.MixedOverwrites
import StoreTrial.Proofs.FreeKeys
import StoreTrial.Proofs.DistinctPayloads
import StoreTrial.Proofs.MixedStores
import StoreTrial.Proofs.InterleavedScripts
import StoreTrial.Proofs.KeyedEngines
import StoreTrial.Proofs.WorkerUnits
import StoreTrial.Proofs.CrewPanics
import StoreTrial.Proofs.FailureLogs
import StoreTrial.Proofs.CheckFindings
import StoreTrial.Proofs.TrialReports
import StoreTrial.Proofs.ParallelWorkers
import StoreTrial.Proofs.ParallelSchedules
import StoreTrial.Proofs.ParallelStores
import StoreTrial.Proofs.CallsInTurn
import StoreTrial.Proofs.WorkloadCalls
import StoreTrial.Proofs.WorkloadStores
import StoreTrial.Proofs.WorkloadPanics
import StoreTrial.Proofs.MeasuredLoop
import StoreTrial.Proofs.MovedPayload
import StoreTrial.Proofs.PayloadFigures
import StoreTrial.Proofs.AlikeScripts
import StoreTrial.Proofs.LeaseDialogues
import StoreTrial.Proofs.SampleTeardown
import StoreTrial.Proofs.VacantLocations
import StoreTrial.Proofs.MountedEngines
import StoreTrial.Proofs.ServingWorlds
import StoreTrial.Proofs.IsolatedSamples
import StoreTrial.Proofs.LocationNames
import StoreTrial.Proofs.LocationPaths
import StoreTrial.Proofs.FailedOpenings
import StoreTrial.Proofs.LeaseEndings
import StoreTrial.Proofs.LeasedLocations
import StoreTrial.Proofs.SharedSnapshot
import StoreTrial.Proofs.SharedLocation
import StoreTrial.Proofs.TrimmedText
import StoreTrial.Proofs.MessageKinds
import StoreTrial.Proofs.SettingsReading
import StoreTrial.Proofs.OpenedLocations
import StoreTrial.Proofs.NameableLocations
import StoreTrial.Proofs.AscendingKeys
import StoreTrial.Proofs.OperationShares
import StoreTrial.Proofs.FallbackValues
import StoreTrial.Proofs.PayloadFills
import StoreTrial.Proofs.FallbackReports
import StoreTrial.Proofs.RepairedKeys
