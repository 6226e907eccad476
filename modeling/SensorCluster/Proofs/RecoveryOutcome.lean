import SensorCluster.Proofs.ReplicaLife
import SensorCluster.Proofs.Vacancies

/-!
# What a recovery comes to

A recovery of an id answers one of five things, and which one it is depends on the receiver that is
registered under the id (`recoverReceiver_outcome`). Nobody is: it is refused. The receiver is
healthy: nothing happens. It can be started again: it is, and takes over from its best peer. It is
retired: it is taken off, its own slot is given back, and **the first slot that is available then**
yields the one that takes its place, or there is no such slot.

## The order of a replacement

The slot is given back before a new one is looked for, so a receiver from the pool may be succeeded
by one of its own id. What is told keeps the order: the old one left, its slot was given up if it
had no attempt left, the new one came, the new one took over. With no slot to draw from the old one
has left all the same, and the last thing that is told is the failure.

That the new receiver is let in, and that it is complete, rests on the cluster being settled: nobody
is registered under its id, and the replication pool in which it finds its peers is the registry.
-/

namespace SensorCluster

namespace Cluster

variable {c c' : Cluster} {ref new : ReplicaRef} {slot : BackupSlot}

/-! ### Starting again -/

/-- Who is retired is not brought back, -/
theorem recover_of_retired (h : (c.replica ref).state = .retired) :
    c.recover ref = (.error (.receiverRetired (c.replica ref).id), c) := by
  rw [recover]
  simp only [(Replica.refuses_of_retired h).2.1]

/-- and everybody else is. -/
theorem recover_of_not_retired (h : (c.replica ref).state ≠ .retired) :
    ∃ lines, c.recover ref = (.ok (), (c.setReplica ref
      { c.replica ref with state := .running, inbound := true }).write lines) := by
  have hcan : (c.replica ref).state.canStart = true := by
    cases hstate : (c.replica ref).state with
    | retired => exact absurd hstate h
    | provisioning | running | stopped => rfl
  rw [recover]
  dsimp only
  rw [Replica.recover, Replica.start, if_pos hcan]
  exact ⟨_, rfl⟩

/-- **A receiver that is down and not retired** is started again and restored from its best peer. -/
theorem recoverReceiver_of_down (hfind : c.registered? (c.replica ref).id = some ref)
    (hholds : c.fleet.Holds ref) (hdown : (c.replica ref).isHealthy = false)
    (halive : (c.replica ref).state ≠ .retired) :
    let c' := (c.recoverReceiver (c.replica ref).id).2
    (c.recoverReceiver (c.replica ref).id).1 = .ok .restarted ∧
    c'.coordinator = c.coordinator ∧ (c'.replica ref).id = (c.replica ref).id ∧
    (c'.replica ref).isHealthy = true ∧
    (c'.replica ref).total.toNat = max (c.replica ref).total.toNat
      (c.fleet.peak (c.fleet.peers c.replication.pool (c.replica ref).id)) ∧
    c'.bus.published.toList = c.bus.published.toList ++
      [.receiverRecovered (c.replica ref).id] := by
  obtain ⟨lines, hrecover⟩ := recover_of_not_retired halive
  set up : Replica := { c.replica ref with state := .running, inbound := true }
  obtain ⟨_, heq⟩ := recoverReceiver_of_restart hfind hdown hrecover
  rw [heq]
  set started := ((c.setReplica ref up).write lines).countHealing fun n ↦
    { n with restarts := n.restarts.increment }
  obtain ⟨-, hshell, htotal, -⟩ := restoreFromBestPeer_of_started started hholds rfl rfl
  have haside : started.Aside (started.restoreFromBestPeer ref).2 := restoreFromBestPeer_aside ref
  refine ⟨rfl, haside.coordinator, congrArg Replica.Shell.id hshell,
    Replica.isHealthy_of_shell (r := up) hshell, htotal, ?_⟩
  refine (published_publish _).trans ?_
  exact congrArg (fun bus : EventBus ↦ bus.published.toList ++ _) haside.bus

/-! ### Taking over -/

/-- What is told when the receiver of an id is taken off: that it left, and that its slot was given
up if it was. -/
def leaveEvents (c : Cluster) (id : String) : List Event :=
  .receiverUnregistered id ::
    (BackupPool.release id c.healing.slots).2.map fun a ↦ .recoveryExhausted a.slot a.attempts

theorem published_reportAbandoned (abandoned : List Abandonment) :
    (c.reportAbandoned abandoned).bus.published.toList =
      c.bus.published.toList ++ abandoned.map fun a ↦ .recoveryExhausted a.slot a.attempts := by
  induction abandoned generalizing c with
  | nil => exact (List.append_nil _).symm
  | cons a rest ih =>
    refine ih.trans ?_
    rw [published_publish, List.append_assoc]
    rfl

/-- All that is told when somebody is taken off is its leave, and its slot if that is given up. -/
theorem published_takenOff (hfind : c.registered? (c.replica ref).id = some ref) :
    (c.takenOff ref).bus.published.toList =
      c.bus.published.toList ++ c.leaveEvents (c.replica ref).id := by
  have hleft : (c.unregister (c.replica ref).id).2.bus.published.toList =
      c.bus.published.toList ++ [.receiverUnregistered (c.replica ref).id] := by
    obtain ⟨lines, heq⟩ := unregister_of_some hfind
    rw [heq]
    exact published_publish _
  obtain ⟨-, -, hhealing, -⟩ := unregister_of_found hfind
  rw [takenOff, releaseSlot]
  dsimp only
  refine (published_reportAbandoned _).trans ?_
  show (c.unregister (c.replica ref).id).2.bus.published.toList ++
    (BackupPool.release _ (c.unregister (c.replica ref).id).2.healing.slots).2.map _ = _
  rw [hleft, hhealing, List.append_assoc]
  rfl

/-- A receiver from a slot has taken the place of one that was taken off. The slot is the first one
that was available once the other one's slot was given back. -/
structure Succeeded (c : Cluster) (old : ReplicaRef) (slot : BackupSlot) (new : ReplicaRef)
    (c' : Cluster) : Prop where
  slot_eq : ∃ front back,
    (BackupPool.release (c.replica old).id c.healing.slots).1 = front ++ slot :: back ∧
    ∀ other ∈ front, other.state ≠ .available
  available : slot.state = .available
  registry : c'.coordinator.registry = c.coordinator.registry.erase old ++ [new]
  fresh : ¬c.fleet.Holds new
  id_eq : (c'.replica new).id = slot.config.id
  healthy : (c'.replica new).isHealthy = true
  complete : ∀ ref ∈ c'.coordinator.registry, (c'.replica ref).isRunning = true →
    (c'.replica ref).total ≤ (c'.replica new).total
  told : c'.bus.published.toList = c.bus.published.toList ++ c.leaveEvents (c.replica old).id ++
    [.receiverRegistered slot.config.id slot.config.address,
      .receiverReplaced (c.replica old).id slot.config.id]

/-- Who is drawn and registered in a settled cluster is as complete as everybody who is registered
and running. -/
theorem Settled.complete_of_drawn (h : c.Settled) (hprovision : c.provision = (.ok new, c'))
    (hdrawn : Drawn c slot new c') {other : ReplicaRef}
    (hother : other ∈ (c'.register new).2.coordinator.registry)
    (hrunning : ((c'.register new).2.replica other).isRunning = true) :
    ((c'.register new).2.replica other).total ≤ ((c'.register new).2.replica new).total := by
  have hfilled := hdrawn.filled h.vacant
  have hregistered := recoveryRespects_settles.register hprovision h
  have hfree : ((c'.register new).2.replica new).id ∉ c.fleet.ids c.replication.pool := by
    have hid : ((c'.register new).2.replica new).id = slot.config.id :=
      List.head_eq_of_cons_eq hfilled.names
    rw [hid, h.pool_eq]
    exact h.free slot hdrawn.mem hdrawn.state
  rw [UInt64.le_iff_toNat_le, hfilled.complete new List.mem_cons_self hfree, ← hfilled.peak]
  exact Fleet.le_peak (Fleet.mem_running.2 ⟨hregistered.pool_eq ▸ hother, hrunning⟩)

/-- **A replacement** has a successor from the first available slot, or none. -/
theorem Settled.replace_spec (h : c.Settled) (hfind : c.registered? (c.replica ref).id = some ref) :
    (∃ slot new, (c.replace ref).1 = .ok (.replaced slot.config.id) ∧
      c.Succeeded ref slot new (c.replace ref).2) ∨
    ((∀ slot ∈ (BackupPool.release (c.replica ref).id c.healing.slots).1, slot.state ≠ .available) ∧
      (c.replace ref).1 = .error (.refused .backupPoolEmpty) ∧
      (c.replace ref).2.coordinator.registry = c.coordinator.registry.erase ref ∧
      (c.replace ref).2.bus.published.toList = c.bus.published.toList ++
        c.leaveEvents (c.replica ref).id ++
          [.receiverFailure (some (c.replica ref).id) ClusterError.backupPoolEmpty.message]) := by
  have htaken := h.takenOff hfind
  have htold := published_takenOff hfind
  obtain ⟨hslots, -, -, hregistry, -, hcalled, -⟩ := takenOff_frame hfind
  rcases htaken.vacant.provision_spec with ⟨hempty, hrefused⟩ | ⟨slot, new, c₁, hdelivered, hdrawn⟩
  · rw [replace_of_refused hrefused]
    refine .inr ⟨BackupPool.available_eq_nil_iff.1 (hslots ▸ hempty), rfl, hregistry, ?_⟩
    exact (published_publish _).trans (congrArg (· ++ _) htold)
  · obtain ⟨hlist, -, hevents, -, hshell, -⟩ := hdrawn.register_spec htaken.vacant
    obtain ⟨front, back, hbefore, hfront, -⟩ := hdrawn.slots
    obtain ⟨hid, -⟩ := hdrawn.free htaken.vacant
    have hcomplete : ∀ other ∈ (c₁.register new).2.coordinator.registry,
        ((c₁.register new).2.replica other).isRunning = true →
        ((c₁.register new).2.replica other).total ≤ ((c₁.register new).2.replica new).total :=
      fun _ ↦ htaken.complete_of_drawn hdelivered hdrawn
    obtain ⟨lines, heq⟩ := replace_of_delivered hdelivered
    rw [heq, hid]
    -- what is counted, logged and told afterwards does not depend on how the registration is made
    generalize (c₁.register new).2 = c₂ at *
    refine .inl ⟨slot, new, rfl, ?_⟩
    exact
      { slot_eq :=
          ⟨front, back, hslots.symm.trans hbefore, BackupPool.available_eq_nil_iff.1 hfront⟩
        available := hdrawn.state
        registry := hlist.trans (congrArg (· ++ [new]) hregistry)
        fresh := fun hold ↦ hdrawn.fresh (hcalled.holds_iff.2 hold)
        id_eq := congrArg Replica.Shell.id hshell
        healthy := (Replica.isHealthy_of_shell hshell).trans rfl
        complete := hcomplete
        told := by
          refine (published_publish _).trans ?_
          show c₂.bus.published.toList ++ _ = _
          rw [hevents, htold, List.append_assoc]
          rfl }

/-- What was logged before makes no difference. -/
theorem Succeeded.of_write {lines : List LogLine} (h : (c.write lines).Succeeded ref slot new c') :
    c.Succeeded ref slot new c' :=
  ⟨h.slot_eq, h.available, h.registry, h.fresh, h.id_eq, h.healthy, h.complete, h.told⟩

/-! ### Recoveries -/

/-- Nobody is registered under the id, so nothing happens but the refusal. -/
theorem recoverReceiver_of_unknown {id : String} (h : id ∉ c.registeredIds) :
    c.recoverReceiver id = (.error (.refused (.unknownReceiver id)), c) := by
  cases hfind : c.registered? id with
  | none => exact recoverReceiver_of_none hfind
  | some ref =>
    obtain ⟨href, rfl⟩ : ref ∈ c.coordinator.registry ∧ (c.replica ref).id = id :=
      Fleet.mem_of_find? hfind
    exact absurd (List.mem_map_of_mem href) h

/-- A retired receiver cannot be brought back, so the recovery goes on to replace it. -/
theorem recoverReceiver_of_retired (hfind : c.registered? (c.replica ref).id = some ref)
    (hretired : (c.replica ref).state = .retired) :
    ∃ lines, c.recoverReceiver (c.replica ref).id = (c.write lines).replace ref := by
  have hdown : (c.replica ref).isHealthy = false := by
    rw [Replica.isHealthy, Replica.isRunning, hretired]
    rfl
  exact recoverReceiver_of_refusal hfind hdown (recover_of_retired hretired)

/-- **What a recovery comes to.** Let a node be built from a valid configuration, and let anything
happen to it that leaves its available slots vacant. Then a recovery of an id

* is refused if nobody is registered under the id, and nothing changes;
* finds a healthy receiver running, and nothing changes;
* starts a receiver again that is neither healthy nor retired. It stays registered where it is, and
  is healthy. It has seen as many messages as before, or as the most complete of the other
  registered receivers that are running, whichever is more. Its return is the only thing that is
  told;
* takes a retired receiver off the registry. Either a receiver from the first slot that is available
  then takes its place, at the end of the registry, healthy and as complete as every other
  registered receiver that is running; or no slot is available, and the last thing that is told is
  the failure. -/
theorem recoverReceiver_outcome {config : Config} {now : WallTime} {c₀ : Cluster}
    (h : ofConfig config now = .ok c₀) {history : List Happening}
    (hleaves : c₀.LeavesVacant history)
    (id : String) :
    let c := c₀.undergoAll history
    let answer := (c.recoverReceiver id).1
    let c' := (c.recoverReceiver id).2
    let before := c.bus.published.toList
    let told := c'.bus.published.toList
    (id ∉ c.registeredIds → c.recoverReceiver id = (.error (.refused (.unknownReceiver id)), c)) ∧
    ∀ ref ∈ c.coordinator.registry, (c.replica ref).id = id →
      ((c.replica ref).isHealthy = true → c.recoverReceiver id = (.ok .alreadyRunning, c)) ∧
      ((c.replica ref).isHealthy = false → (c.replica ref).state ≠ .retired →
        answer = .ok .restarted ∧ c'.coordinator.registry = c.coordinator.registry ∧
        (c'.replica ref).id = id ∧ (c'.replica ref).isHealthy = true ∧
        (c'.replica ref).total.toNat = max (c.replica ref).total.toNat
          (c.fleet.peak (c.fleet.peers c.coordinator.registry id)) ∧
        told = before ++ [.receiverRecovered id]) ∧
      ((c.replica ref).state = .retired →
        ref ∉ c'.coordinator.registry ∧
        ((∃ slot new, answer = .ok (.replaced slot.config.id) ∧ c.Succeeded ref slot new c') ∨
          (∀ slot ∈ (BackupPool.release id c.healing.slots).1, slot.state ≠ .available) ∧
          answer = .error (.refused .backupPoolEmpty) ∧
          c'.coordinator.registry = c.coordinator.registry.erase ref ∧
          told = before ++ c.leaveEvents id ++
            [.receiverFailure (some id) ClusterError.backupPoolEmpty.message])) := by
  intro c answer c' before told
  have hsettled : c.Settled := (settled_of_ofConfig h).undergoAll hleaves
  refine ⟨recoverReceiver_of_unknown, ?_⟩
  rintro ref href rfl
  have hfind : c.registered? (c.replica ref).id = some ref :=
    Fleet.find?_of_mem hsettled.sound.ids href
  have hholds : c.fleet.Holds ref := hsettled.sturdy.holding ref href
  refine ⟨fun hhealthy ↦ ?_, fun hdown halive ↦ ?_, fun hretired ↦ ?_⟩
  · rw [recoverReceiver, hfind]
    exact if_pos hhealthy
  · obtain ⟨hanswer, hcoordinator, hid, hhealthy, htotal, htold⟩ :=
      recoverReceiver_of_down hfind hholds hdown halive
    rw [hsettled.pool_eq] at htotal
    exact ⟨hanswer, congrArg Coordinator.registry hcoordinator, hid, hhealthy, htotal, htold⟩
  · obtain ⟨lines, heq⟩ := recoverReceiver_of_retired hfind hretired
    have hnodup : c.coordinator.registry.Nodup := List.Nodup.of_map _ hsettled.sound.ids
    have hlisted : (c.write lines).registered? ((c.write lines).replica ref).id = some ref := hfind
    have hspec := (write_settles lines hsettled).replace_spec hlisted
    rw [← heq] at hspec
    rcases hspec with ⟨slot, new, hanswer, hnew⟩ | ⟨hnone, hanswer, hregistry, htold⟩
    · refine ⟨?_, .inl ⟨slot, new, hanswer, hnew.of_write⟩⟩
      rw [hnew.registry, List.mem_append, List.mem_singleton, not_or]
      exact ⟨hnodup.not_mem_erase, fun hself ↦ hnew.fresh (hself ▸ hholds)⟩
    · exact ⟨hregistry ▸ hnodup.not_mem_erase, .inr ⟨hnone, hanswer, hregistry, htold⟩⟩

/-- A receiver from the slot is retired in its turn. -/
def retiredTwice : List Happening :=
  [.request (.operation (.retire 0)) trivial, .request (.operation (.recoverReceiver "r1")) trivial,
    .process 1 (.data "m" "s" "t" 0.0 1 1), .request (.operation (.retire 3)) trivial]

/-- The slot is given back and drawn from again, so the successor is one of the same id. A peer has
seen a message in the meantime, and the successor has it too. -/
theorem recoverReceiver_outcome_sameSlot :
    ∃ c₀, ofConfig threeReceivers default = .ok c₀ ∧
      let c := c₀.undergoAll retiredTwice
      let c' := (c.recoverReceiver "b1").2
      c.registeredIds = ["r2", "r3", "b1"] ∧ 3 ∉ c'.coordinator.registry ∧
        ∃ new, (c.recoverReceiver "b1").1 = .ok (.replaced "b1") ∧
          c'.coordinator.registry = [1, 2, new] ∧ (c'.replica new).isHealthy = true ∧
          (c'.replica 1).total ≤ (c'.replica new).total := by
  -- the node is a variable here, so that only the facts about it are evaluated
  have hreused : ∀ c₀, ofConfig threeReceivers default = .ok c₀ →
      let c := c₀.undergoAll retiredTwice
      let c' := (c.recoverReceiver "b1").2
      3 ∈ c.coordinator.registry → (c.replica 3).id = "b1" → (c.replica 3).state = .retired →
      (BackupPool.release "b1" c.healing.slots).1 = [⟨⟨"b1", "b1:1", 3⟩, 1, .available⟩] →
      c.coordinator.registry.erase 3 = [1, 2] → (c'.replica 1).isRunning = true →
      3 ∉ c'.coordinator.registry ∧ ∃ new, (c.recoverReceiver "b1").1 = .ok (.replaced "b1") ∧
        c'.coordinator.registry = [1, 2, new] ∧ (c'.replica new).isHealthy = true ∧
        (c'.replica 1).total ≤ (c'.replica new).total := by
    intro c₀ hbuilt c c' hlisted hid hretired hslots hrest hrunning
    have hleaves : c₀.LeavesVacant retiredTwice := ⟨trivial, trivial, trivial, trivial, trivial⟩
    obtain ⟨-, -, houtcome⟩ := (recoverReceiver_outcome hbuilt hleaves "b1").2 3 hlisted hid
    obtain ⟨hoff, ⟨slot, new, hanswer, hnew⟩ | ⟨hnone, -⟩⟩ := houtcome hretired
    · obtain ⟨front, back, hfirst, -⟩ := hnew.slot_eq
      have hmem : slot ∈ front ++ slot :: back := List.mem_append_right _ List.mem_cons_self
      rw [← hfirst, hid, hslots, List.mem_singleton] at hmem
      have hregistry : c'.coordinator.registry = [1, 2, new] := by rw [hnew.registry, hrest]; rfl
      refine ⟨hoff, new, hanswer.trans (by rw [hmem]), hregistry, hnew.healthy,
        hnew.complete 1 ?_ hrunning⟩
      rw [hregistry]
      exact List.mem_cons_self
    · exact absurd rfl (hnone _ (hslots ▸ List.mem_cons_self))
  exact ⟨_, rfl, by decide +kernel, hreused _ rfl (by decide +kernel) (by decide +kernel)
    (by decide +kernel) (by decide +kernel) (by decide +kernel) (by decide +kernel)⟩

end Cluster

end SensorCluster
