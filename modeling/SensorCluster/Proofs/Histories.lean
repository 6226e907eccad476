import SensorCluster.Proofs.Membership
import SensorCluster.Proofs.Telling

/-!
# Histories, and what their events tell

A `Happening` is anything that can happen to a cluster from outside: a request, a call that concerns
a single receiver or the replication pool alone, another time on the wall clock, or a moment of the
passing of time. **The tasks run when they like**: a moment may run any task that waits, due or not
and in any order, so whatever is proved of all histories does not depend on a schedule. The other
way round nothing is lost. Letting time pass, building a node and serving until a shutdown are
histories (`exists_history_advance`, `exists_history_ofConfig`, `exists_history_serve`).

Two things do not happen. The recovery that a health check scheduled is run by its task and not by a
call, and nobody but the cluster publishes events.

All that happens is told (`undergo_told`), so a reader of the events knows the registries after any
history (`events_replay`).
-/

namespace SensorCluster

/-- A recovery that was scheduled is run by its task; everything else can be called for. -/
def Request.IsCall : Request → Prop
  | .operation (.runRecovery _) => False
  | _ => True

/-- Something that happens to a cluster. -/
inductive Happening
  | request (q : Request) (h : q.IsCall)
  | moment (m : Host.Moment)
  /-- A receiver fails, as in a drill. -/
  | fail (ref : ReplicaRef)
  | stopReceivers
  /-- A receiver processes a message that nobody routed. -/
  | process (ref : ReplicaRef) (m : Message)
  | removeRecord (ref : ReplicaRef) (sensor : String)
  /-- A receiver is restored from a snapshot, whoever took it. -/
  | restore (ref : ReplicaRef) (s : Snapshot)
  /-- The replication looks after a receiver, registered or not. -/
  | joinPool (ref : ReplicaRef)
  | leavePool (id : String)
  /-- From now on the sink answers otherwise. -/
  | changeSink (sink : SnapshotSink)
  /-- The wall clock shows another time. -/
  | tellTime (now : WallTime)
  | write (lines : List LogLine)
  | openChannel
  | closeChannel (n : Nat)
  | drain (n : Nat)
  /-- From now on there are status reports. -/
  | startReports (interval : UInt64)
  | endReports

namespace Cluster

/-- What becomes of a cluster by a happening. -/
def undergo (c : Cluster) : Happening → Cluster
  | .request q _ => c.handle q
  | .moment m => host.live c m
  | .fail ref => (c.simulateFailure ref).2
  | .stopReceivers => c.stopReceivers
  | .process ref m => (c.process ref m).2
  | .removeRecord ref sensor => (c.removeRecord ref sensor).2
  | .restore ref s => (c.restore ref s).2
  | .joinPool ref => (c.joinPool ref).2
  | .leavePool id => (c.leavePool id).2
  | .changeSink sink => { c with replication := { c.replication with sink } }
  | .tellTime now => { c with now }
  | .write lines => c.write lines
  | .openChannel => { c with bus := c.bus.openChannel.2 }
  | .closeChannel n => { c with bus := c.bus.closeChannel n }
  | .drain n => { c with bus := (c.bus.drain n).2 }
  | .startReports interval =>
    let reports := c.agenda.periodic nodeGroup "status" interval.toNat .statusReport
    { c with agenda := c.agenda.spawnFirst reports }
  | .endReports => { c with agenda := c.agenda.shutdown nodeGroup }

/-- What becomes of a cluster in the course of a history. -/
def undergoAll (c : Cluster) (history : List Happening) : Cluster := history.foldl undergo c

theorem undergoAll_append (c : Cluster) (history more : List Happening) :
    c.undergoAll (history ++ more) = (c.undergoAll history).undergoAll more :=
  List.foldl_append

variable {c c' : Cluster}

/-! ### What is a history -/

/-- Letting time pass is a history of moments. -/
theorem exists_history_advance (c : Cluster) (ms : Nat) :
    ∃ moments : List Host.Moment, c.advance ms = c.undergoAll (moments.map .moment) := by
  obtain ⟨moments, heq⟩ := Host.exists_moments (h := host) ms c
  refine ⟨moments, heq.trans ?_⟩
  rw [undergoAll, List.foldl_map]
  rfl

/-- Serving until a shutdown is a history. -/
theorem exists_history_serve (c : Cluster) (interval : UInt64) (ms : Nat) :
    ∃ history, (c.serve interval ms).2 = c.undergoAll history := by
  rw [serve]
  dsimp only
  split
  · exact ⟨[.request (.operation .startNode) trivial], rfl⟩
  · exact ⟨[.request (.operation .startNode) trivial, .startReports interval,
      .request (.operation (.advance ms)) trivial, .endReports,
      .write [.info "Shutdown requested"], .request (.operation .shutdownNode) trivial], rfl⟩

/-- Receivers that were started and registered one after the other have a history. -/
theorem exists_history_startConfigured {receivers : List ReceiverConfig}
    (h : c.startConfigured receivers = .ok c') : ∃ history, c' = c.undergoAll history := by
  induction receivers generalizing c with
  | nil => exact ⟨[], (Except.ok.inj h).symm⟩
  | cons rc rest ih =>
    rw [startConfigured] at h
    dsimp only at h
    set r := Replica.new rc.id rc.address
    set ref := (c.create r).1
    have hholds : ((c.create r).2.start ref).2.fleet.Holds ref :=
      ((start_aside ref).grows ref (Fleet.holds_add_self r)).1
    have henroll : ∀ c₁ : Cluster, c₁.fleet.Holds ref →
        c₁.handle (.enroll ref) = (c₁.register ref).2 := fun _ h ↦ if_pos h
    -- a receiver that does not start ends the building, so there is nothing to show
    rcases hstart : (c.create r).2.start ref with ⟨cause | _, c₁⟩ <;> rw [hstart] at h hholds
    · cases h
    · obtain ⟨history, rfl⟩ := ih h
      refine ⟨.request (.create r) trivial :: .request (.operation (.start ref)) trivial ::
        .request (.enroll ref) trivial :: history, ?_⟩
      show _ = ((((c.create r).2.start ref).2).handle (.enroll ref)).undergoAll history
      rw [hstart, henroll _ hholds]

/-- A node that was built from a configuration has a history. -/
theorem exists_history_ofConfig {config : Config} {now : WallTime}
    (h : ofConfig config now = .ok c) :
    ∃ history, c = (new config .discard .inMemory now).undergoAll history := by
  rw [ofConfig] at h
  split at h
  · cases h
  · obtain ⟨history, heq⟩ := exists_history_startConfigured h
    exact ⟨.request (.operation (.subscribe EventLog.observer)) trivial :: history, heq⟩

/-! ### What is told -/

/-- A recovery tells of what it does, -/
theorem recoveryRespects_told : RecoveryRespects Told where
  refl := .refl
  trans := .trans
  write c lines := (recoveryRespects_tells.write c lines).2
  restarted c := (recoveryRespects_tells.restarted c).2
  replaced c := (recoveryRespects_tells.replaced c).2
  tellRecovered c id := (recoveryRespects_tells.tellRecovered c id).2
  tellReplaced c old new := (recoveryRespects_tells.tellReplaced c old new).2
  tellFailure c id reason := (recoveryRespects_tells.tellFailure c id reason).2
  recover c ref := (recoveryRespects_tells.recover c ref).2
  restore c ref := (recoveryRespects_tells.restore c ref).2
  takenOff hfind := (recoveryRespects_tells.takenOff hfind).2
  refused h := (recoveryRespects_tells.refused h).2
  delivered lines h := (recoveryRespects_tells.delivered lines h).2

/-- Marks are set and cleared, and tasks come and go, without anything being told. -/
theorem nodeRespects_told : NodeRespects Told where
  __ := recoveryRespects_told
  start _ ref := (start_aside ref).tells.2
  stop _ ref := (stop_aside ref).tells.2
  detach _ ref := (detach_aside ref).tells.2
  retire _ ref := (retire_aside ref).tells.2
  syncCycle _ := syncCycle_aside.tells.2
  backupCycle _ := (backups_aside 0 _).tells.2
  recoveryScan _ := recoveryScan_aside.tells.2
  checked c := .refl c
  marked _ := .refl _
  unmarked c _ := .refl c
  flagged c _ := .refl c
  startedReplication c := .refl c
  startedHealing c := .refl c
  withAgenda c _ := .refl c
  subscribe c _ := .refl c
  unsubscribe c _ := .refl c

/-- **Each operation is told of**, upkeep and the calls of other kinds. -/
theorem step_told (op : Operation) : c.Told (c.step op) := by
  cases op with
  | register r =>
    exact ((create_aside r).tells.trans (register_tells (Fleet.holds_add_self r))).2
  | unregister id => exact (unregister_tells id).2
  | route m host port => exact (tryRoute_tells m host port).2
  | pin id => exact .refl c
  | unregisterSensor sensor => exact (unregisterSensor_tells sensor).2
  | provision => exact provision_tells.2
  | _ => exact nodeRespects_told.step c trivial

/-- **All that happens is told.** -/
theorem undergo_told (e : Happening) : c.Told (c.undergo e) := by
  -- requests first, then what concerns receivers alone; the last ones change nothing that is told
  cases e with
  | request q h =>
    cases q with
    | operation op => exact step_told op
    | create r => exact (create_aside r).tells.2
    | enroll ref =>
      rw [undergo, handle]
      split
      · next hholds => exact (register_tells hholds).2
      · exact .refl c
    | syncPair a b => exact (syncPair_aside a b).tells.2
    | restore ref => exact (restoreFromBestPeer_aside ref).tells.2
  | moment m => exact nodeRespects_told.host.live c m
  | fail ref => exact (stop_aside ref).tells.2
  | stopReceivers => exact stopReceivers_aside.tells.2
  | process ref m => exact (process_aside ref m).tells.2
  | removeRecord ref sensor => exact (removeRecord_aside ref sensor).tells.2
  | restore ref s => exact (restore_aside ref s).tells.2
  | joinPool ref => exact (joinPool_aside ref).tells.2
  | leavePool id => exact (leavePool_aside id).tells.2
  | changeSink | tellTime | write | openChannel | closeChannel | drain | startReports
    | endReports =>
    exact .refl c

/-- So a whole history is. -/
theorem undergoAll_told (history : List Happening) : c.Told (c.undergoAll history) := by
  induction history generalizing c with
  | nil => exact .refl c
  | cons e rest ih => exact (undergo_told e).trans ih

/-! ### Reading the events -/

/-- In a new cluster nothing is registered, and nothing was told. -/
theorem new_faithful (config : Config) (sink : SnapshotSink) (provisioner : Provisioner)
    (now : WallTime) :
    (new config sink provisioner now).Holding ∧
      (new config sink provisioner now).chronicle.Faithful where
  left _ href := absurd href List.not_mem_nil
  right :=
    { receivers := rfl
      distinct := List.nodup_nil
      alternate := fun _ _ _ hnone ↦ by cases hnone
      odd_iff := fun _ ↦ ⟨fun hodd ↦ absurd hodd Nat.zero_ne_one, fun h ↦ absurd h List.not_mem_nil⟩
      sensors := List.nodup_nil
      mem_sensors := fun _ ↦ ⟨fun h ↦ absurd h List.not_mem_nil, fun h ↦ by cases h⟩
      total := rfl
      failed := rfl }

/-- After any history the registered receivers exist and the events are faithful. -/
theorem faithful_of_history (config : Config) (sink : SnapshotSink) (provisioner : Provisioner)
    (now : WallTime) (history : List Happening) :
    ((new config sink provisioner now).undergoAll history).Holding ∧
      ((new config sink provisioner now).undergoAll history).chronicle.Faithful := by
  obtain ⟨hholding, hfaithful⟩ := new_faithful config sink provisioner now
  obtain ⟨hholding', hentries⟩ := undergoAll_told history hholding
  exact ⟨hholding', hfaithful.entries hentries⟩

/-- **The events replay to the registries.** After any history of a new cluster, whatever its
provisioner does and whatever was accepted, refused or broken off by a panic on the way:

* the events of registrations and unregistrations, read in order, come to the ids of the registered
  receivers in the order of their registration;
* those of one id alternate, and the first one is a registration;
* the events of sensors come to the registered sensors;
* as many messages are told of as routed as the counters say, all without those that failed, and as
  many failures as are counted. Counters are words, so the equations are among words; up to a word
  of messages they are equations among numbers. -/
theorem events_replay (config : Config) (sink : SnapshotSink) (provisioner : Provisioner)
    (now : WallTime) (history : List Happening) :
    let c := (new config sink provisioner now).undergoAll history
    let events := c.bus.published.toList
    let routed := events.countP Event.isRouted
    let unrouted := events.countP Event.isUnrouted
    Event.replayReceivers events = c.fleet.ids c.coordinator.registry ∧
    (∀ id, Event.Alternate (events.filterMap (Event.membership? id))) ∧
    (Event.replaySensors events).Perm c.coordinator.sensors.sensors.keys ∧
    UInt64.ofNat routed = c.coordinator.totalMessages - c.coordinator.failedRoutes ∧
    UInt64.ofNat unrouted = c.coordinator.failedRoutes ∧
    (routed + unrouted < UInt64.size →
      routed = c.coordinator.totalMessages.toNat - c.coordinator.failedRoutes.toNat ∧
        unrouted = c.coordinator.failedRoutes.toNat) := by
  intro c events routed unrouted
  obtain ⟨-, h⟩ : c.Holding ∧ c.chronicle.Faithful :=
    faithful_of_history config sink provisioner now history
  have htotal : c.coordinator.totalMessages = UInt64.ofNat (routed + unrouted) := h.total
  have hfailed : c.coordinator.failedRoutes = UInt64.ofNat unrouted := h.failed
  -- the sensors are a map and the replay a list, so they agree up to order
  refine ⟨h.receivers, h.alternate, ?_, ?_, hfailed.symm, fun hfew ↦ ?_⟩
  · refine (List.perm_ext_iff_of_nodup h.sensors (KeyMap.nodup_keys _)).2 fun sensor ↦ ?_
    rw [KeyMap.mem_keys_iff]
    exact h.mem_sensors sensor
  · rw [htotal, hfailed, UInt64.ofNat_add, UInt64.add_sub_cancel]
  · rw [htotal, hfailed, UInt64.toNat_ofNat_of_lt' hfew, UInt64.toNat_ofNat_of_lt' (by omega)]
    exact ⟨(Nat.add_sub_cancel ..).symm, rfl⟩

/-- A configuration with one slot. -/
def oneSlot : Config :=
  { Config.default with
    faultTolerance := { FaultToleranceConfig.default with backupPool := [⟨"b1", "b1:1", 3⟩] } }

/-- The only receiver takes a message and is retired; nobody takes the next message. Then the
receiver is replaced. -/
theorem events_replay_replacement :
    let history : List Happening :=
      [.request (.operation (.register (.new "r1" "r1:1"))) trivial,
        .request (.operation (.start 0)) trivial,
        .request (.operation (.route (.register "m1" "s1" "" 0) "" 0)) trivial,
        .request (.operation (.retire 0)) trivial,
        .request (.operation (.route (.heartbeat "m2" "s1" "" 0) "" 0)) trivial,
        .request (.operation (.recoverReceiver "r1")) trivial]
    let c := (new oneSlot .discard .inMemory default).undergoAll history
    let events := c.bus.published.toList
    Event.replayReceivers events = ["b1"] ∧
      events.countP Event.isRouted = 1 ∧ c.coordinator.failedRoutes.toNat = 1 := by
  intro history c events
  obtain ⟨hreceivers, -, -, -, -, hcounts⟩ :=
    events_replay oneSlot .discard .inMemory default history
  obtain ⟨hrouted, hunrouted⟩ := hcounts (by decide +kernel)
  exact ⟨hreceivers.trans (by decide +kernel), hrouted.trans (by decide +kernel),
    hunrouted.symm.trans (by decide +kernel)⟩

end Cluster

end SensorCluster
