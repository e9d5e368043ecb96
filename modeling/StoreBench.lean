import StoreBench.Json.Reader
import StoreBench.Main
import StoreBench.Proofs.Mix.CallRecognition
import StoreBench.Phase.Routine
import StoreBench.Phase.Script
import StoreBench.Phase.StatusLine
import StoreBench.Proofs.Latency.LiveExtremes
import StoreBench.Proofs.Phase.WarmupRouting
import StoreBench.Proofs.Store.Refinement
import StoreBench.Proofs.Sync.LatchWakeups
import StoreBench.Sync.TokenBucket
import StoreBench.Proofs.Phase.MeasurementStart
import StoreBench.Proofs.Sync.Rendezvous
import StoreBench.Proofs.Phase.Progress
import StoreBench.Proofs.Latency.Tallies
import StoreBench.Proofs.Phase.MeasuredShare
import StoreBench.Proofs.Scheduling
import StoreBench.Proofs.Phase.Completion
import StoreBench.Proofs.Latency.Histories
import StoreBench.Proofs.Store.Lifecycle
import StoreBench.Proofs.Store.LeaseHistories
import StoreBench.Proofs.Phase.Openings
import StoreBench.Proofs.Phase.LoadThenRun
import StoreBench.Proofs.Latency.OrderStatistics
import StoreBench.Proofs.Mix.WellFormedCalls
import StoreBench.Proofs.CommandLine.Overrides
import StoreBench.Proofs.Keys.LatestKey
import StoreBench.Proofs.Mix.Acknowledgments
import StoreBench.Proofs.Phase.LeaseCounts
import StoreBench.Proofs.Mix.StoredShapes
import StoreBench.Proofs.Phase.RunAnswers
import StoreBench.Proofs.Sync.RateContract
import StoreBench.Proofs.Store.FieldUpdates
import StoreBench.Proofs.Phase.RoutineTraces
import StoreBench.Proofs.Phase.TimedAccounts
import StoreBench.Proofs.Store.Truncation
import StoreBench.Proofs.Keys.KeyOrder
import StoreBench.Proofs.Phase.StatusLines
import StoreBench.Proofs.Config.RoundTrip
import StoreBench.Proofs.Phase.WorkerJournals
import StoreBench.Proofs.Phase.UndisturbedSteps
import StoreBench.Proofs.Phase.CounterBounds
