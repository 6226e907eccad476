import SensorCluster.Cluster.Node
import SensorCluster.Config.Load
import SensorCluster.MessageId
import SensorCluster.Release
import SensorCluster.Proofs.SyncConvergence
import SensorCluster.Proofs.Core
import SensorCluster.Proofs.Operations
import SensorCluster.Proofs.HealingCalls
import SensorCluster.Proofs.HealingOperations
import SensorCluster.Proofs.Upkeep
import SensorCluster.Proofs.Runs
import SensorCluster.Proofs.RecordOrigin
import SensorCluster.Proofs.PoolPass
import SensorCluster.Proofs.SlotLife
import SensorCluster.Proofs.RunningFloor
import SensorCluster.Proofs.Inheritance
import SensorCluster.Proofs.Membership
import SensorCluster.Proofs.Vectors
import SensorCluster.Proofs.GlobalVector
import SensorCluster.Proofs.Bench
import SensorCluster.Proofs.Tally
import SensorCluster.Proofs.OwnEntries
import SensorCluster.Proofs.SyncLoss
import SensorCluster.Proofs.Aside
import SensorCluster.Proofs.Chronicle
import SensorCluster.Proofs.Docket
import SensorCluster.Proofs.Telling
import SensorCluster.Proofs.Histories
import SensorCluster.Proofs.Flights
import SensorCluster.Proofs.OrphanMarks
import SensorCluster.Proofs.Ward
import SensorCluster.Proofs.SelfHealing
import SensorCluster.Proofs.ArrivalOrder
import SensorCluster.Proofs.Evolution
import SensorCluster.Proofs.Deliveries
import SensorCluster.Proofs.Backing
import SensorCluster.Proofs.CountingChain
import SensorCluster.Proofs.Conservation
import SensorCluster.Proofs.ReplicaLife
import SensorCluster.Proofs.FleetCalls
import SensorCluster.Proofs.SlotsInUse
import SensorCluster.Proofs.PairedSlots
import SensorCluster.Proofs.SlotRegistry
import SensorCluster.Proofs.Shutdown
import SensorCluster.Proofs.WrittenNumbers
import SensorCluster.Proofs.WrittenJson
import SensorCluster.Proofs.JsonForms
import SensorCluster.Proofs.BestPeer
import SensorCluster.Proofs.ConflictCounts
import SensorCluster.Proofs.Newcomers
import SensorCluster.Proofs.PoolRefusals
import SensorCluster.Proofs.ExactFloor
import SensorCluster.Proofs.FairRotation
import SensorCluster.Proofs.OneRoute
import SensorCluster.Proofs.Vacancies
import SensorCluster.Proofs.RecoveryOutcome
import SensorCluster.Proofs.RecoveryScan
import SensorCluster.Proofs.BrokenPasses
import SensorCluster.Proofs.LastWrite
import SensorCluster.Proofs.OwnCounts
import SensorCluster.Proofs.SnapshotSeries
import SensorCluster.Proofs.Bootstrap
import SensorCluster.Proofs.Dominance
import SensorCluster.Proofs.SensorRemoval
import SensorCluster.Proofs.SensorHistory
import SensorCluster.Proofs.WrittenDurations
import SensorCluster.Proofs.FanOut
import SensorCluster.Proofs.Timetable
import SensorCluster.Proofs.ConfiguredNode
import SensorCluster.Proofs.ByteOrder
import SensorCluster.Proofs.SortedListing
import SensorCluster.Proofs.Comparisons
import SensorCluster.Proofs.ReadMetrics
import SensorCluster.Proofs.SpelledJson
import SensorCluster.Proofs.PartialConfig
