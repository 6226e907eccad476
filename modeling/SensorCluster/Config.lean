import SensorCluster.BackupPool
import SensorCluster.Duration
import SensorCluster.Placement

/-!
# Configuration

The settings of a node, with a default for each. `Config.defect?` looks for the first thing in a
configuration that the node could not run with. Reading a configuration fills in the default of
every field and section that is not written.
-/

namespace SensorCluster

/-- A receiver to be started with the node. -/
structure ReceiverConfig where
  id : String
  address : String
  deriving DecidableEq, Repr, Inhabited

/-- The settings of the coordinator. -/
structure CoordinatorConfig where
  strategy : SelectionPolicy
  deriving DecidableEq, Repr, Inhabited

/-- The settings of the replication, in milliseconds. -/
structure ReplicationConfig where
  syncInterval : UInt64
  backupInterval : UInt64
  recoveryInterval : UInt64
  deriving DecidableEq, Repr, Inhabited

/-- The settings of the fault tolerance; times in milliseconds. -/
structure FaultToleranceConfig where
  healthCheckInterval : UInt64
  loadBalanceInterval : UInt64
  /-- How long a receiver is left alone before it is recovered. -/
  recoveryGrace : UInt64
  /-- How many receivers should be running at least. -/
  minHealthyReceivers : UInt64
  /-- The deviation from the mean load, relative to it, that is still balanced. -/
  imbalanceThreshold : Float
  backupPool : List SlotConfig

/-- The settings of a node. -/
structure Config where
  nodeId : String
  logLevel : String
  /-- How long tasks may take to stop, in milliseconds. -/
  shutdownGrace : UInt64
  coordinator : CoordinatorConfig
  replication : ReplicationConfig
  faultTolerance : FaultToleranceConfig
  receivers : List ReceiverConfig

/-! ### Defaults -/

/-! Each field has a default of its own, for a section that does not name it, and each section has
one, for a node that does not name the section. -/

/-- The attempts of a slot that does not say how many it has. -/
def SlotConfig.defaultMaxAttempts : UInt32 := 3

/-- The selection policy of a node that does not say. -/
def SelectionPolicy.default : SelectionPolicy := .roundRobin

/-- The coordinator settings of a node that does not say. -/
def CoordinatorConfig.default : CoordinatorConfig := ⟨.default⟩

namespace ReplicationConfig

def defaultSyncInterval : UInt64 := 5000

def defaultBackupInterval : UInt64 := 30000

def defaultRecoveryInterval : UInt64 := 10000

/-- The replication settings of a node that does not say. -/
def default : ReplicationConfig :=
  ⟨defaultSyncInterval, defaultBackupInterval, defaultRecoveryInterval⟩

end ReplicationConfig

namespace FaultToleranceConfig

def defaultHealthCheckInterval : UInt64 := 5000

def defaultLoadBalanceInterval : UInt64 := 30000

def defaultRecoveryGrace : UInt64 := 2000

def defaultMinHealthyReceivers : UInt64 := 2

def defaultImbalanceThreshold : Float := 0.5

/-- The backup pool of a node that does not say. -/
def defaultBackupPool : List SlotConfig :=
  [⟨"backup-1", "127.0.0.1:9101", SlotConfig.defaultMaxAttempts⟩,
    ⟨"backup-2", "127.0.0.1:9102", SlotConfig.defaultMaxAttempts⟩]

/-- The fault tolerance settings of a node that does not say. -/
def default : FaultToleranceConfig :=
  ⟨defaultHealthCheckInterval, defaultLoadBalanceInterval, defaultRecoveryGrace,
    defaultMinHealthyReceivers, defaultImbalanceThreshold, defaultBackupPool⟩

end FaultToleranceConfig

namespace Config

def defaultNodeId : String := "sensorkv-1"

def defaultLogLevel : String := "info"

def defaultShutdownGrace : UInt64 := 5000

/-- The receivers of a node that does not say. -/
def defaultReceivers : List ReceiverConfig :=
  [⟨"receiver-1", "127.0.0.1:9001"⟩, ⟨"receiver-2", "127.0.0.1:9002"⟩,
    ⟨"receiver-3", "127.0.0.1:9003"⟩]

/-- The settings of a node that says nothing. -/
def default : Config :=
  ⟨defaultNodeId, defaultLogLevel, defaultShutdownGrace, .default, .default, .default,
    defaultReceivers⟩

end Config

instance : Inhabited Config := ⟨.default⟩

/-! ### Defects -/

/-- What a node cannot run with. -/
inductive ConfigDefect
  /-- A task would run without ever waiting. -/
  | zeroInterval (field : String)
  /-- No receiver would have to run. -/
  | zeroFloor
  /-- Every load would be out of balance, or the threshold is no number. -/
  | badThreshold
  /-- A receiver or slot has no id. -/
  | emptyId
  /-- Two receivers or slots have one id. -/
  | duplicateId (id : String)
  /-- A slot could never be tried. -/
  | zeroAttempts (slot : String)
  deriving DecidableEq, Repr

/-- The wording of a defect. -/
def ConfigDefect.message : ConfigDefect → String
  | zeroInterval field => field ++ " must be > 0"
  | zeroFloor => "fault_tolerance.min_healthy_receivers must be >= 1"
  | badThreshold => "fault_tolerance.imbalance_threshold must be positive"
  | emptyId => "receiver id cannot be empty"
  | duplicateId id => "duplicate receiver id: " ++ id
  | zeroAttempts slot => s!"backup slot {slot} needs max_attempts >= 1"

namespace Config

variable (c : Config)

/-- The intervals with their written names, in the order in which they are checked. -/
def intervals : List (String × UInt64) :=
  [("replication.sync_interval_ms", c.replication.syncInterval),
    ("replication.backup_interval_ms", c.replication.backupInterval),
    ("replication.recovery_interval_ms", c.replication.recoveryInterval),
    ("fault_tolerance.health_check_interval_ms", c.faultTolerance.healthCheckInterval),
    ("fault_tolerance.load_balance_interval_ms", c.faultTolerance.loadBalanceInterval)]

/-- The ids of the receivers and then of the slots. -/
def ids : List String := c.receivers.map (·.id) ++ c.faultTolerance.backupPool.map (·.id)

/-- The first id that is empty or that was `seen` before it. -/
def idDefect? (seen : List String) : List String → Option ConfigDefect
  | [] => none
  | id :: rest =>
    if id = "" then some .emptyId
    else if id ∈ seen then some (.duplicateId id)
    else idDefect? (id :: seen) rest

/-- The first defect of a configuration. -/
def defect? : Option ConfigDefect :=
  ((c.intervals.find? fun i ↦ i.2 = 0).map fun i ↦ .zeroInterval i.1) <|>
    (if c.faultTolerance.minHealthyReceivers = 0 then some .zeroFloor else none) <|>
    (if 0.0 < c.faultTolerance.imbalanceThreshold then none else some .badThreshold) <|>
    idDefect? [] c.ids <|>
    ((c.faultTolerance.backupPool.find? fun s ↦ s.maxAttempts = 0).map fun s ↦
      .zeroAttempts s.id)

/-- Refuses a configuration with a defect. -/
def validate : Except ClusterError Unit :=
  match c.defect? with
  | none => .ok ()
  | some defect => .error (.invalidConfig defect.message)

end Config

/-! ### Written forms -/

section Reading

variable {V : Type} (d : Decoding V)

/-- Reads the settings of a receiver. -/
def ReceiverConfig.read? (v : V) : Option ReceiverConfig := do
  let fields ← d.fields? ["id", "address"] v
  let id ← fields.required "id" d.text?
  let address ← fields.required "address" d.text?
  return { id, address }

/-- Reads the settings of a slot. -/
def SlotConfig.read? (v : V) : Option SlotConfig := do
  let fields ← d.fields? ["id", "address", "max_attempts"] v
  let id ← fields.required "id" d.text?
  let address ← fields.required "address" d.text?
  let maxAttempts ← fields.optional "max_attempts" defaultMaxAttempts d.uint32?
  return { id, address, maxAttempts }

/-- Reads the settings of the coordinator. -/
def CoordinatorConfig.read? (v : V) : Option CoordinatorConfig := do
  let fields ← d.fields? ["strategy"] v
  let strategy ← fields.optional "strategy" .default fun v ↦
    d.constant? v >>= SelectionPolicy.ofName?
  return { strategy }

/-- The names of the replication settings, in order. -/
def ReplicationConfig.fieldNames : List String :=
  ["sync_interval_ms", "backup_interval_ms", "recovery_interval_ms"]

/-- Reads the replication settings. -/
def ReplicationConfig.read? (v : V) : Option ReplicationConfig := do
  let fields ← d.fields? fieldNames v
  let syncInterval ← fields.optional "sync_interval_ms" defaultSyncInterval d.uint64?
  let backupInterval ← fields.optional "backup_interval_ms" defaultBackupInterval d.uint64?
  let recoveryInterval ←
    fields.optional "recovery_interval_ms" defaultRecoveryInterval d.uint64?
  return { syncInterval, backupInterval, recoveryInterval }

/-- The names of the fault tolerance settings, in order. -/
def FaultToleranceConfig.fieldNames : List String :=
  ["health_check_interval_ms", "load_balance_interval_ms", "recovery_grace_ms",
    "min_healthy_receivers", "imbalance_threshold", "backup_pool"]

/-- Reads the fault tolerance settings. -/
def FaultToleranceConfig.read? (v : V) : Option FaultToleranceConfig := do
  let fields ← d.fields? fieldNames v
  let healthCheckInterval ←
    fields.optional "health_check_interval_ms" defaultHealthCheckInterval d.uint64?
  let loadBalanceInterval ←
    fields.optional "load_balance_interval_ms" defaultLoadBalanceInterval d.uint64?
  let recoveryGrace ← fields.optional "recovery_grace_ms" defaultRecoveryGrace d.uint64?
  let minHealthyReceivers ←
    fields.optional "min_healthy_receivers" defaultMinHealthyReceivers d.uint64?
  let imbalanceThreshold ←
    fields.optional "imbalance_threshold" defaultImbalanceThreshold d.float?
  let backupPool ←
    fields.optional "backup_pool" defaultBackupPool (d.listOf? (SlotConfig.read? d))
  return { healthCheckInterval, loadBalanceInterval, recoveryGrace, minHealthyReceivers,
           imbalanceThreshold, backupPool }

/-- The names of the settings of a node, in order. -/
def Config.fieldNames : List String :=
  ["node_id", "log_level", "shutdown_grace_ms", "coordinator", "replication", "fault_tolerance",
    "receivers"]

/-- Reads the settings of a node. -/
def Config.read? (v : V) : Option Config := do
  let fields ← d.fields? fieldNames v
  let nodeId ← fields.optional "node_id" defaultNodeId d.text?
  let logLevel ← fields.optional "log_level" defaultLogLevel d.text?
  let shutdownGrace ← fields.optional "shutdown_grace_ms" defaultShutdownGrace d.uint64?
  let coordinator ←
    fields.optional "coordinator" .default (CoordinatorConfig.read? d)
  let replication ←
    fields.optional "replication" .default (ReplicationConfig.read? d)
  let faultTolerance ←
    fields.optional "fault_tolerance" .default (FaultToleranceConfig.read? d)
  let receivers ←
    fields.optional "receivers" defaultReceivers (d.listOf? (ReceiverConfig.read? d))
  return { nodeId, logLevel, shutdownGrace, coordinator, replication, faultTolerance, receivers }

end Reading

/-! ### JSON form -/

namespace ReceiverConfig

/-- The JSON form of a receiver's settings. -/
def toJson (r : ReceiverConfig) : Json := .obj [("id", .str r.id), ("address", .str r.address)]

/-- Reads the settings of a receiver from JSON. -/
def ofJson? : Json → Option ReceiverConfig := read? Json.decoding

end ReceiverConfig

namespace SlotConfig

/-- The JSON form of a slot's settings. -/
def toJson (s : SlotConfig) : Json :=
  .obj [("id", .str s.id), ("address", .str s.address),
    ("max_attempts", .nat s.maxAttempts.toNat)]

/-- Reads the settings of a slot from JSON. -/
def ofJson? : Json → Option SlotConfig := read? Json.decoding

end SlotConfig

namespace CoordinatorConfig

/-- The JSON form of the coordinator's settings. -/
def toJson (c : CoordinatorConfig) : Json := .obj [("strategy", c.strategy.toJson)]

end CoordinatorConfig

namespace ReplicationConfig

/-- The JSON form of the replication settings. -/
def toJson (r : ReplicationConfig) : Json :=
  .obj [("sync_interval_ms", .word r.syncInterval), ("backup_interval_ms", .word r.backupInterval),
    ("recovery_interval_ms", .word r.recoveryInterval)]

/-- Reads the replication settings from JSON. -/
def ofJson? : Json → Option ReplicationConfig := read? Json.decoding

end ReplicationConfig

namespace FaultToleranceConfig

/-- The JSON form of the fault tolerance settings. -/
def toJson (f : FaultToleranceConfig) : Json :=
  .obj [("health_check_interval_ms", .word f.healthCheckInterval),
    ("load_balance_interval_ms", .word f.loadBalanceInterval),
    ("recovery_grace_ms", .word f.recoveryGrace),
    ("min_healthy_receivers", .word f.minHealthyReceivers),
    ("imbalance_threshold", .float f.imbalanceThreshold),
    ("backup_pool", .list (f.backupPool.map SlotConfig.toJson))]

/-- Reads the fault tolerance settings from JSON. -/
def ofJson? : Json → Option FaultToleranceConfig := read? Json.decoding

end FaultToleranceConfig

namespace Config

/-- The JSON form of a configuration. -/
def toJson (c : Config) : Json :=
  .obj [("node_id", .str c.nodeId), ("log_level", .str c.logLevel),
    ("shutdown_grace_ms", .word c.shutdownGrace), ("coordinator", c.coordinator.toJson),
    ("replication", c.replication.toJson), ("fault_tolerance", c.faultTolerance.toJson),
    ("receivers", .list (c.receivers.map ReceiverConfig.toJson))]

/-- Reads a configuration from JSON. -/
def ofJson? : Json → Option Config := read? Json.decoding

end Config

end SensorCluster
