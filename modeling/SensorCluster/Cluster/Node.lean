import SensorCluster.Cluster.Healing

/-!
# A node over time

A node is built from a configuration, its tasks are started, time passes, and in the end it is shut
down. `Cluster.host` says what each duty does; `Cluster.advance` lets time pass.
-/

namespace SensorCluster

namespace Cluster

/-- The task group of the replication. -/
def replicationGroup : String := "replication"

/-- The task group of a node's own duties. -/
def nodeGroup : String := "node"

/-! ### Starting and stopping tasks -/

/-- The form of a number of milliseconds in log lines. -/
def millisText (ms : UInt64) : String := (Duration.ofMillis ms).render

/-- Puts a periodic duty on the agenda. -/
def spawnPeriodic (c : Cluster) (group name : String) (period : UInt64) (duty : Duty) : Cluster :=
  { c with agenda := c.agenda.spawnPeriodic group name period.toNat duty }

/-- Starts the tasks of the replication; a second start does nothing. -/
def startReplication (c : Cluster) : Cluster :=
  if c.replication.started then c
  else
    let config := c.replication.config
    let c := { c with replication := { c.replication with started := true } }
    let syncText := millisText config.syncInterval
    let backupText := millisText config.backupInterval
    let recoveryText := millisText config.recoveryInterval
    let c := c.write
      [.info (s!"Replication manager started (sync {syncText}, backup {backupText}, " ++
        s!"recovery {recoveryText})")]
    let c := c.spawnPeriodic replicationGroup "sync" config.syncInterval .sync
    let c := c.spawnPeriodic replicationGroup "backup" config.backupInterval .backup
    c.spawnPeriodic replicationGroup "recovery" config.recoveryInterval .recoveryScan

/-- Starts the tasks of the fault tolerance; a second start does nothing. -/
def startHealing (c : Cluster) : Cluster :=
  if c.healing.started then c
  else
    let config := c.healing.config
    let c := c.modifyHealing fun h ↦ { h with started := true }
    let checkText := millisText config.healthCheckInterval
    let graceText := millisText config.recoveryGrace
    let c := c.write
      [.info (s!"Fault tolerance started (health check {checkText}, grace {graceText}, " ++
        s!"floor {config.minHealthyReceivers}, {config.backupPool.length} backup slots)")]
    let c := c.spawnPeriodic healingGroup "health-check" config.healthCheckInterval .healthCheck
    c.spawnPeriodic healingGroup "load-balance" config.loadBalanceInterval .loadBalance

/-- Stops the tasks of a group. -/
def stopGroup (c : Cluster) (group : String) (grace : UInt64) : Cluster :=
  let lines := c.agenda.shutdownLines group grace (millisText grace)
  { c with agenda := c.agenda.shutdown group }.write lines

/-- Stops the tasks of the replication. -/
def stopReplication (c : Cluster) (grace : UInt64) : Cluster := c.stopGroup replicationGroup grace

/-- Stops the tasks of the fault tolerance. -/
def stopHealing (c : Cluster) (grace : UInt64) : Cluster := c.stopGroup healingGroup grace

/-! ### Duties -/

/-- Does what a duty says. -/
def perform (duty : Duty) (c : Cluster) : RunOutcome × Duty × Cluster :=
  match duty with
  | .sync => (.done, duty, c.syncCycle.2)
  | .backup => (.done, duty, c.backupCycle.2)
  | .recoveryScan =>
    let (report, c) := c.recoveryScan
    let lines : List LogLine :=
      if report.unhealthy > 0 then [.info ("Recovery scan: " ++ report.logText)] else []
    (.done, duty, c.write lines)
  | .healthCheck =>
    match c.healthCheck with
    | (.ok _, c) => (.done, duty, c)
    | (.error (.refused cause), c) => (.failed cause, duty, c)
    | (.error (.panicked _), c) => (.panicked, duty, c)
  | .loadBalance => (.done, duty, c.loadCheck.2)
  | .recover id =>
    let (outcome, c) := c.runRecovery id
    (outcome, duty, c)
  | .statusReport => (.done, duty, c.write [.info ("\n" ++ c.status.report)])

/-- The world of a node's duties. -/
def host : Host Duty Cluster where
  agenda := agenda
  withAgenda c agenda := { c with agenda }
  perform := perform
  log := write

/-- Lets `ms` milliseconds pass. -/
def advance (c : Cluster) (ms : Nat) : Cluster := host.advance ms c

/-! ### The life of a node -/

/-- Starts the receivers of a configuration and registers them, until one cannot be started. -/
def startConfigured (c : Cluster) : List ReceiverConfig → Except ClusterError Cluster
  | [] => .ok c
  | rc :: rest =>
    let (ref, c) := c.create (.new rc.id rc.address)
    match c.start ref with
    | (.ok (), c) => (c.register ref).2.startConfigured rest
    | (.error cause, _) => .error cause

/-- Builds a node from a configuration: with the event log and with every configured receiver
running and registered. -/
def ofConfig (config : Config) (now : WallTime) : Except ClusterError Cluster :=
  match config.validate with
  | .error cause => .error cause
  | .ok () =>
    let c := new config .discard .inMemory now
    let (_, c) := c.subscribe EventLog.observer
    c.startConfigured config.receivers

/-- Starts all tasks of a node. -/
def startNode (c : Cluster) : Cluster :=
  let c := c.write
    [.info s!"Starting node {c.config.nodeId}",
      .info ("  Strategy: " ++ c.config.coordinator.strategy.logText),
      .info s!"  Receivers: {c.coordinator.registry.length}",
      .info s!"  Backup pool: {c.config.faultTolerance.backupPool.length} slots"]
  c.startReplication.startHealing

/-- Stops all tasks of a node and then every registered receiver. -/
def shutdownNode (c : Cluster) : Cluster :=
  let grace := c.config.shutdownGrace
  let graceText := millisText grace
  let c := c.write [.info s!"Shutting down node {c.config.nodeId} (grace {graceText})"]
  let c := ((c.stopHealing grace).stopReplication grace).stopReceivers
  c.write [.info s!"Node {c.config.nodeId} stopped"]

/-- Runs a node for `ms` milliseconds, with a status report in the log every `statusInterval`
milliseconds, and shuts it down. A report comes before anything else that is due at its moment. -/
def serve (c : Cluster) (statusInterval : UInt64) (ms : Nat) : Except Fault Unit × Cluster :=
  let c := c.startNode
  if statusInterval = 0 then (.error .zeroPeriod, c)
  else
    let reports := c.agenda.periodic nodeGroup "status" statusInterval.toNat .statusReport
    let c := { c with agenda := c.agenda.spawnFirst reports }.advance ms
    let c := { c with agenda := c.agenda.shutdown nodeGroup }
    let c := c.write [.info "Shutdown requested"]
    (.ok (), c.shutdownNode)

end Cluster

end SensorCluster
