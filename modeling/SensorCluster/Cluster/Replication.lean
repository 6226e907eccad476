import SensorCluster.Cluster.Basic

/-!
# Keeping the receivers alike

The replication looks after the receivers of its pool. A **sync** compares each pair of running
receivers, and the one that has seen more messages overwrites the other. A **backup** offers a
snapshot of each running receiver to the sink. A **recovery scan** brings up each receiver that is
neither healthy nor retired, and restores it from the most complete peer.

Which of two receivers overwrites the other is decided by their message counts alone. Their version
vectors only tell whether the overwritten one loses something: when they are concurrent it does, and
that counts as a conflict.
-/

namespace SensorCluster

namespace Cluster

/-- Changes the counters of the replication. -/
def countReplication (c : Cluster) (f : ReplicationCounters → ReplicationCounters) : Cluster :=
  { c with replication := { c.replication with counters := f c.replication.counters } }

/-! ### The pool -/

/-- The running receiver of the pool, other than the excluded id, that has seen the most
messages. -/
def bestPeer? (c : Cluster) (excluded : String) : Option ReplicaRef :=
  c.fleet.mostComplete? c.replication.pool excluded

/-- Restores a receiver from its most complete peer. The answer is the peer whose data it took. -/
def restoreFromBestPeer (c : Cluster) (ref : ReplicaRef) : Option String × Cluster :=
  let r := c.replica ref
  match c.bestPeer? r.id with
  | none =>
    (none, c.write
      [.warn s!"No running peer to restore {r.id} from, keeping its local state"])
  | some peer =>
    let p := c.replica peer
    let (applied, c) := c.restore ref (c.snapshot peer)
    if applied then
      (some p.id, c.countReplication fun n ↦ { n with restores := n.restores.increment })
    else
      (none, c.write
        [.debug s!"{r.id} is already as complete as {p.id} ({r.total} messages)"])

/-- Takes a receiver into the pool; the answer is no when one of its id is there. A running receiver
begins with the data of its most complete peer. -/
def joinPool (c : Cluster) (ref : ReplicaRef) : Bool × Cluster :=
  match c.fleet.enlist c.replication.pool ref with
  | none => (false, c)
  | some pool =>
    let c := { c with replication := { c.replication with pool } }
    if (c.replica ref).isRunning then
      let c := c.countReplication fun n ↦
        { n with bootstrapSyncs := n.bootstrapSyncs.increment }
      (true, (c.restoreFromBestPeer ref).2)
    else (true, c)

/-- Takes the receiver of an id out of the pool; the answer says whether there was one. -/
def leavePool (c : Cluster) (id : String) : Bool × Cluster :=
  (c.fleet.lists c.replication.pool id,
    { c with replication :=
      { c.replication with pool := c.fleet.dismiss c.replication.pool id } })

/-! ### Sync -/

/-- What became of a pair. -/
inductive PairOutcome
  /-- The target took the data of the source. -/
  | copied (source target : String) (concurrent : Bool)
  /-- Both have seen equally many messages. -/
  | skipped (concurrent : Bool)
  deriving DecidableEq, Repr, Inhabited

/-- What a sync cycle did. -/
structure SyncReport where
  pairs : Nat
  copied : Nat
  skipped : Nat
  conflicts : Nat
  deriving DecidableEq, Repr, Inhabited

/-- The report with one pair more. -/
def SyncReport.add (r : SyncReport) : PairOutcome → SyncReport
  | .copied _ _ concurrent =>
    { r with pairs := r.pairs + 1, copied := r.copied + 1
             conflicts := r.conflicts + concurrent.toNat }
  | .skipped concurrent =>
    { r with pairs := r.pairs + 1, skipped := r.skipped + 1
             conflicts := r.conflicts + concurrent.toNat }

/-- Counts a pair that was left alone. -/
def skipPair (c : Cluster) (concurrent : Bool) : PairOutcome × Cluster :=
  (.skipped concurrent,
    c.countReplication fun n ↦ { n with pairsSkipped := n.pairsSkipped.increment })

/-- Counts a pair of which neither has seen all that the other has. -/
def countConcurrent (c : Cluster) (concurrent : Bool) : Cluster :=
  if concurrent then
    c.countReplication fun n ↦ { n with conflictsDetected := n.conflictsDetected.increment }
  else c

/-- Lets one receiver overwrite another. What the other loses by it counts as a conflict of its
own. -/
def copyPair (c : Cluster) (concurrent : Bool) (source target : ReplicaRef) :
    PairOutcome × Cluster :=
  let (applied, c) := c.restore target (c.snapshot source)
  if !applied then c.skipPair concurrent
  else
    let c := if concurrent then c.setReplica target (c.replica target).recordConflict else c
    (.copied (c.replica source).id (c.replica target).id concurrent,
      c.countReplication fun n ↦ { n with pairsCopied := n.pairsCopied.increment })

/-- Compares two receivers and lets the one that has seen more messages overwrite the other. -/
def syncPair (c : Cluster) (a b : ReplicaRef) : PairOutcome × Cluster :=
  let ra := c.replica a
  let rb := c.replica b
  let concurrent := ra.vector.concurrentWith rb.vector
  let c := c.countConcurrent concurrent
  if ra.total = rb.total then c.skipPair concurrent
  else if rb.total < ra.total then c.copyPair concurrent a b
  else c.copyPair concurrent b a

/-- The unordered pairs of a list, in the order of their first and then of their second member. -/
def pairs {α : Type} : List α → List (α × α)
  | [] => []
  | a :: rest => rest.map (fun b ↦ (a, b)) ++ pairs rest

/-- Syncs one pair after the other. -/
def syncPairs (c : Cluster) (report : SyncReport) :
    List (ReplicaRef × ReplicaRef) → SyncReport × Cluster
  | [] => (report, c)
  | (a, b) :: rest =>
    let (outcome, c) := c.syncPair a b
    c.syncPairs (report.add outcome) rest

/-- Syncs every pair of running receivers. -/
def syncCycle (c : Cluster) : SyncReport × Cluster :=
  let (report, c) := c.syncPairs default (pairs (c.fleet.running c.replication.pool))
  let c := c.countReplication fun n ↦ { n with syncCycles := n.syncCycles.increment }
  let lines : List LogLine :=
    if report.copied > 0 ∨ report.conflicts > 0 then
      [.info (s!"Sync cycle: {report.pairs} pairs, {report.copied} copied, " ++
        s!"{report.conflicts} concurrent")]
    else []
  (report, c.write lines)

/-! ### Backup -/

/-- Offers a snapshot of one receiver to the sink; the answer says whether the sink took it. -/
def backup (c : Cluster) (ref : ReplicaRef) : Bool × Cluster :=
  let snapshot := c.snapshot ref
  let taken (c : Cluster) : Bool × Cluster :=
    (true, c.countReplication fun n ↦ { n with backupsTaken := n.backupsTaken.increment })
  match c.replication.sink snapshot with
  | .dropped =>
    taken (c.write
      [.debug (s!"Backup of {snapshot.receiver} taken at {snapshot.takenAt.stamp}: " ++
        s!"{snapshot.index.size} records, {snapshot.total} messages")])
  | .kept =>
    taken { c with replication := { c.replication with kept := c.replication.kept.push snapshot } }
  | .refused cause =>
    let c := c.countReplication fun n ↦ { n with backupFailures := n.backupFailures.increment }
    (false, c.write [.warn (s!"Backup of {snapshot.receiver} failed: " ++ cause.message)])

/-- Offers snapshots of the given receivers; the answer is how many the sink took, over `taken`. -/
def backups (c : Cluster) (taken : Nat) : List ReplicaRef → Nat × Cluster
  | [] => (taken, c)
  | ref :: rest =>
    if (c.replica ref).isRunning then
      let (ok, c) := c.backup ref
      c.backups (taken + ok.toNat) rest
    else c.backups taken rest

/-- Offers a snapshot of each running receiver to the sink; the answer is how many it took. -/
def backupCycle (c : Cluster) : Nat × Cluster := c.backups 0 c.replication.pool

/-! ### Recovery scan -/

/-- What a recovery scan did. -/
structure RecoveryReport where
  unhealthy : Nat
  recovered : Nat
  restored : Nat
  failed : Nat
  deriving DecidableEq, Repr, Inhabited

/-- The form of a report in log lines. -/
def RecoveryReport.logText (r : RecoveryReport) : String :=
  s!"RecoveryReport \x7b unhealthy: {r.unhealthy}, recovered: {r.recovered}, " ++
    s!"restored: {r.restored}, failed: {r.failed} \x7d"

/-- Brings one receiver up and restores it, if it is neither healthy nor retired. -/
def scanReplica (c : Cluster) (report : RecoveryReport) (ref : ReplicaRef) :
    RecoveryReport × Cluster :=
  let r := c.replica ref
  if r.isHealthy ∨ r.state = .retired then (report, c)
  else
    let report := { report with unhealthy := report.unhealthy + 1 }
    match c.recover ref with
    | (.ok (), c) =>
      let c := c.countReplication fun n ↦ { n with recoveries := n.recoveries.increment }
      let (peer, c) := c.restoreFromBestPeer ref
      ({ report with recovered := report.recovered + 1
                     restored := report.restored + peer.isSome.toNat }, c)
    | (.error cause, c) =>
      ({ report with failed := report.failed + 1 },
        c.write [.warn (s!"Recovery of {r.id} failed: " ++ cause.message)])

/-- Scans one receiver after the other. -/
def scanReplicas (c : Cluster) (report : RecoveryReport) :
    List ReplicaRef → RecoveryReport × Cluster
  | [] => (report, c)
  | ref :: rest =>
    let (report, c) := c.scanReplica report ref
    c.scanReplicas report rest

/-- Brings up every receiver of the pool that is neither healthy nor retired. -/
def recoveryScan (c : Cluster) : RecoveryReport × Cluster :=
  c.scanReplicas default c.replication.pool

end Cluster

end SensorCluster
