import SensorCluster.Proofs.PairedSlots

/-!
# Slots and registry correspond

In a node that was built from a valid configuration a slot is in use if and only if a receiver of
its id is registered, whatever happens to the node, as long as the ids of the slots are left to the
fault tolerance (`slots_match_registry`). By hand anybody else may be registered and unregistered,
and a receiver from a slot may be stopped, detached, retired, routed to and recovered like all
others.

Histories are restricted in two ways. One that `Spares` the ids of the slots keeps slots and
registry paired. One of happenings that are the cluster's `IsOwn` affair also keeps everybody
attended to: whoever is not registered any more is retired.
-/

namespace SensorCluster

namespace Cluster

variable {c c' : Cluster} {ids : List String}

/-! ### Whatever happens -/

theorem nodeRespects_keeps : NodeRespects (Keeps ids) where
  __ := recoveryRespects_keeps
  start _ ref := (start_aside ref).keeps (start_called ref)
  stop _ ref := (stop_aside ref).keeps (stop_called ref)
  detach _ ref := (detach_aside ref).keeps (detach_called ref)
  retire _ ref := (retire_aside ref).keeps (retire_called ref)
  syncCycle _ := syncCycle_aside.keeps syncCycle_called
  backupCycle _ := (backups_aside 0 _).keeps (backups_called 0 _)
  recoveryScan _ := recoveryScan_aside.keeps (scanReplicas_called _ _)
  checked _ := keeps_of_eq rfl rfl rfl
  marked _ := keeps_of_eq rfl rfl rfl
  unmarked _ _ := keeps_of_eq rfl rfl rfl
  flagged _ _ := keeps_of_eq rfl rfl rfl
  startedReplication _ := keeps_of_eq rfl rfl rfl
  startedHealing _ := keeps_of_eq rfl rfl rfl
  withAgenda _ _ := keeps_of_eq rfl rfl rfl
  subscribe _ _ := keeps_of_eq rfl rfl rfl
  unsubscribe _ _ := keeps_of_eq rfl rfl rfl

end Cluster

/-- Is it left to the cluster itself who comes and who goes? -/
def Happening.IsOwn : Happening → Prop
  | .request (.operation (.register _)) _ => False
  | .request (.operation (.unregister _)) _ => False
  | .request (.operation .provision) _ => False
  | .request (.create _) _ => False
  | .request (.enroll _) _ => False
  | _ => True

/-- Are receivers of these ids registered, unregistered and provisioned by the cluster alone? -/
def Happening.Spares (ids : List String) (c : Cluster) : Happening → Prop
  | .request (.operation (.register r)) _ => r.id ∉ ids
  | .request (.operation (.unregister id)) _ => id ∉ ids
  | .request (.operation .provision) _ => False
  | .request (.enroll ref) _ => (c.replica ref).id ∉ ids
  | _ => True

namespace Cluster

variable {c c' : Cluster} {ids : List String}

/-- Do all happenings of a history spare the receivers of these ids? -/
def Spares (ids : List String) (c : Cluster) : List Happening → Prop
  | [] => True
  | e :: rest => e.Spares ids c ∧ (c.undergo e).Spares ids rest

theorem step_keeps {op : Operation} {hcall : Request.IsCall (.operation op)}
    (h : Happening.IsOwn (.request (.operation op) hcall)) : Keeps ids c (c.step op) := by
  cases op with
  | register | unregister | provision => exact h.elim
  | route m host port => exact tryRoute_keeps m host port
  | pin id => exact keeps_of_eq rfl rfl rfl
  | unregisterSensor sensor => exact unregisterSensor_keeps sensor
  | _ => exact nodeRespects_keeps.step c trivial

/-- **Whatever the cluster is left to do itself** keeps slots and registry paired and everybody
attended to. -/
theorem undergo_keeps {e : Happening} (h : e.IsOwn) : Keeps ids c (c.undergo e) := by
  cases e with
  | request q hcall =>
    cases q with
    | operation op => exact step_keeps h
    | create | enroll => exact h.elim
    | syncPair a b => exact (syncPair_aside a b).keeps (syncPair_called a b)
    | restore ref => exact (restoreFromBestPeer_aside ref).keeps (restoreFromBestPeer_called ref)
  | moment m => exact nodeRespects_keeps.host.live c m
  | fail ref =>
    have hstopped : Keeps ids c (c.stop ref).2 := (stop_aside ref).keeps (stop_called ref)
    exact hstopped.trans (keeps_of_eq rfl rfl rfl)
  | stopReceivers => exact stopReceivers_aside.keeps stopReceivers_called
  | process ref m => exact (process_aside ref m).keeps (process_called ref m)
  | removeRecord ref sensor =>
    exact (removeRecord_aside ref sensor).keeps (removeRecord_called ref sensor)
  | restore ref s => exact (restore_aside ref s).keeps (restore_called ref s)
  | joinPool ref => exact (joinPool_aside ref).keeps (joinPool_called ref)
  | leavePool id => exact (leavePool_aside id).keeps .refl
  | changeSink | tellTime | write | openChannel | closeChannel | drain | startReports
    | endReports =>
    exact keeps_of_eq rfl rfl rfl

/-- **Whatever spares the receivers of the slots** keeps slots and registry paired. -/
theorem Paired.undergo (h : c.Paired ids) {e : Happening} (hspares : e.Spares ids c) :
    (c.undergo e).Paired ids := by
  have hcreate : ∀ r : Replica, (c.create r).2.Paired ids :=
    fun r ↦ h.quiet ((create_aside r).quiet h.sturdy.holding)
  by_cases hown : e.IsOwn
  · exact (undergo_keeps hown h).1
  cases e with
  | request q hcall =>
    cases q with
    | operation op =>
      cases op with
      | register r =>
        refine (hcreate r).register (Fleet.holds_add_self r) ?_
        show ((c.fleet.add r).2.get (c.fleet.add r).1).id ∉ ids
        rwa [Fleet.get_add_self]
      | unregister id => exact h.unregister hspares
      | provision => exact hspares.elim
      | _ => exact absurd trivial hown
    | create r => exact hcreate r
    | enroll ref =>
      show (c.handle (.enroll ref)).Paired ids
      rw [handle]
      split
      · next hholds => exact h.register hholds hspares
      · exact h
    | _ => exact absurd trivial hown
  | _ => exact absurd trivial hown

theorem Paired.undergoAll (h : c.Paired ids) {history : List Happening}
    (hspares : c.Spares ids history) : (c.undergoAll history).Paired ids := by
  induction history generalizing c with
  | nil => exact h
  | cons e rest ih => exact ih (h.undergo hspares.1) hspares.2

theorem undergoAll_keeps {history : List Happening} (h : ∀ e ∈ history, e.IsOwn) :
    Keeps ids c (c.undergoAll history) := by
  induction history generalizing c with
  | nil => exact .refl c
  | cons e rest ih =>
    exact (undergo_keeps (h e List.mem_cons_self)).trans
      (ih fun e he ↦ h e (List.mem_cons_of_mem _ he))

/-! ### Nodes from valid configurations -/

/-- Receivers that are started and registered one after the other, with ids of their own, are all
attended to. -/
theorem startConfigured_paired {receivers : List ReceiverConfig}
    (h : c.startConfigured receivers = .ok c') (hpaired : c.Paired ids) (hattended : c.Attended)
    (hdistinct : (c.registeredIds ++ receivers.map (·.id)).Nodup)
    (hother : ∀ rc ∈ receivers, rc.id ∉ ids) : c'.Paired ids ∧ c'.Attended := by
  induction receivers generalizing c with
  | nil =>
    rw [← Except.ok.inj h]
    exact ⟨hpaired, hattended⟩
  | cons rc rest ih =>
    obtain ⟨hhead, hrest⟩ := List.forall_mem_cons.1 hother
    rw [startConfigured] at h
    dsimp only at h
    set r := Replica.new rc.id rc.address
    set ref := (c.create r).1
    have hcreate : c.Quiet (c.create r).2 := (create_aside r).quiet hpaired.sturdy.holding
    have hnew : (c.create r).2.AttendedBut ref := hattended.create rfl rfl
    have hstart : (c.create r).2.Aside ((c.create r).2.start ref).2 := start_aside ref
    have hcalled : (c.create r).2.fleet.Called ((c.create r).2.start ref).2.fleet :=
      start_called ref
    have hquiet : c.Quiet ((c.create r).2.start ref).2 :=
      hcreate.trans (hstart.quiet (hpaired.quiet hcreate).sturdy.holding)
    rcases hanswer : (c.create r).2.start ref with ⟨cause | _, c₁⟩ <;>
      rw [hanswer] at h hstart hcalled hquiet
    · cases h
    · have hid : (c₁.replica ref).id = rc.id := by
        rw [replica, hcalled.id_eq]
        exact congrArg Replica.id (c.fleet.get_add_self r)
      have hholds : c₁.fleet.Holds ref := hcalled.holds_iff.2 (Fleet.holds_add_self r)
      have hfree : (c₁.replica ref).id ∉ c₁.registeredIds := by
        rw [hid, hquiet.registered]
        exact fun hmem ↦ List.disjoint_of_nodup_append hdistinct hmem List.mem_cons_self
      refine ih h ((hpaired.quiet hquiet).register hholds (hid ▸ hhead))
        ((hnew.called (congrArg Coordinator.registry hstart.coordinator) hcalled).register hfree)
        ?_ hrest
      rw [registeredIds_register hfree, hid, hquiet.registered, List.append_assoc]
      exact hdistinct

/-- In a node that was built from a valid configuration slots and registry are paired, and everybody
is attended to. -/
theorem paired_of_ofConfig {config : Config} {now : WallTime} (h : ofConfig config now = .ok c) :
    c.Paired (config.faultTolerance.backupPool.map (·.id)) ∧ c.Attended := by
  obtain ⟨hvalid, -⟩ : config.validate = .ok () ∧
      (new config .discard .inMemory now).Reaches c := ofConfig_spec (fun _ _ ↦ trivial) h
  obtain ⟨hids, hattempts⟩ := Config.slots_of_validate hvalid
  obtain ⟨hreceivers, hslots, hdisjoint⟩ := List.nodup_append.1 hids
  set pool := config.faultTolerance.backupPool
  have hfresh : BackupPool.inUse (pool.map .fresh) = [] := by
    simp [BackupPool.inUse, BackupSlot.fresh]
  have hnew : (new config .discard .inMemory now).Paired (pool.map (·.id)) := by
    refine ⟨new_sturdy hattempts, ?_, hslots, fun id _ ↦ ?_, rfl⟩
    · show (pool.map BackupSlot.fresh).map (·.config.id) = _
      rw [List.map_map]
      rfl
    · show id ∈ BackupPool.inUse (pool.map .fresh) ↔ id ∈ []
      rw [hfresh]
  have hnobody : (new config .discard .inMemory now).Attended :=
    fun _ href ↦ absurd href (Nat.not_lt_zero _)
  have hsubscribed : Keeps (pool.map (·.id)) (new config .discard .inMemory now)
      ((new config .discard .inMemory now).subscribe EventLog.observer).2 := keeps_of_eq rfl rfl rfl
  obtain ⟨hpaired, hattended⟩ := hsubscribed hnew
  rw [ofConfig, hvalid] at h
  refine startConfigured_paired h hpaired (hattended hnobody) hreceivers fun rc hrc hslot ↦ ?_
  exact hdisjoint rc.id (List.mem_map.2 ⟨rc, hrc, rfl⟩) rc.id hslot rfl

/-- **Slots and registry correspond.** Let a node be built from a valid configuration, and let
anything happen to it that leaves the registrations of the slots' ids to the node. Then

* a slot is in use if and only if a receiver of its id is registered, so a slot that is given back
  is available as long as it has attempts left;
* the provisioner delivers whenever it is asked, and the slots it was asked about are, in order,
  those of which a receiver was registered, so no registration of a provisioned receiver was ever
  refused; and an id is registered again only after it was unregistered;
* if the pool yields a receiver, nobody is registered under its id, its slot was available, and its
  registration is accepted;
* the replacement that a recovery names is registered, and the floor adds as many receivers to the
  registry as it says. -/
theorem slots_match_registry {config : Config} {now : WallTime} {c₀ : Cluster}
    (h : ofConfig config now = .ok c₀) {history : List Happening}
    (hspares : c₀.Spares (config.faultTolerance.backupPool.map (·.id)) history) :
    let slotIds := config.faultTolerance.backupPool.map (·.id)
    let c := c₀.undergoAll history
    let events := c.bus.published.toList
    (∀ slot ∈ c.healing.slots, slot.state = .inUse ↔ slot.config.id ∈ c.registeredIds) ∧
    (∀ slot ∈ c.healing.slots, slot.config.id ∉ c.registeredIds →
      slot.attempts < slot.config.maxAttempts → slot.state = .available) ∧
    (∀ asked slot, ∃ r lines,
      c.healing.provisioner asked slot = .delivered r lines ∧ r.id = slot.id) ∧
    (events.filterMap Event.registered?).filter (· ∈ slotIds) = c.healing.asked ∧
    (∀ id, Event.Alternate (events.filterMap (Event.membership? id))) ∧
    (∀ ref c', c.provision = (.ok ref, c') →
      (c'.replica ref).id ∉ c.registeredIds ∧
      (∃ slot ∈ c.healing.slots, slot.state = .available ∧ slot.config.id = (c'.replica ref).id) ∧
      (c'.register ref).1 = true) ∧
    (∀ id replacement, (c.recoverReceiver id).1 = .ok (.replaced replacement) →
      replacement ∈ (c.recoverReceiver id).2.registeredIds) ∧
    ∀ added, c.enforceFloor.1 = .ok added →
      c.enforceFloor.2.coordinator.registry.length = c.coordinator.registry.length + added := by
  intro slotIds c events
  have hpaired : c.Paired slotIds := (paired_of_ofConfig h).1.undergoAll hspares
  have hpool : (c.healing.slots.map (·.config.id)).Nodup := hpaired.slotIds ▸ hpaired.distinct
  have hused : ∀ slot ∈ c.healing.slots, slot.state = .inUse ↔
      slot.config.id ∈ c.registeredIds := by
    intro slot hslot
    rw [BackupPool.state_eq_inUse_iff hpool hslot]
    exact hpaired.used_iff _ (hpaired.slotIds ▸ List.mem_map.2 ⟨slot, hslot, rfl⟩)
  refine ⟨hused, fun slot hslot hfree hleft ↦ ?_, fun asked slot ↦ ?_, hpaired.asked,
    hpaired.sturdy.faithful.alternate, fun ref c' hprovision ↦ ?_,
    fun id ↦ (hpaired.recoverReceiver id).2, fun added hadded ↦ ?_⟩
  · cases hstate : slot.state with
    | available => rfl
    | inUse => exact absurd ((hused slot hslot).1 hstate) hfree
    | abandoned =>
      rw [(hpaired.sturdy.stocked.bounded slot hslot).abandoned hstate] at hleft
      exact absurd hleft (UInt32.lt_irrefl _)
  · rw [show c.healing.provisioner = .inMemory from hpaired.sturdy.stocked.provisioner]
    exact ⟨_, _, rfl, rfl⟩
  · rcases hpaired.provision_spec with ⟨new, c'', hprovision', hnew, -, hfree, havailable⟩ |
      ⟨cause, c'', hprovision', -⟩ <;> rw [hprovision] at hprovision'
    · obtain ⟨heq, rfl⟩ := Prod.mk.inj hprovision'
      obtain rfl := Except.ok.inj heq
      exact ⟨hfree, havailable, hnew.register.1⟩
    · cases (Prod.mk.inj hprovision').1
  · have hcount := (hpaired.fillUp _ _ 0).2 added hadded
    rwa [length_registeredIds, length_registeredIds] at hcount

/-- A receiver is replaced from the slot, and the one that took over is replaced in its turn, from
the same slot. In between somebody else is registered, and somebody is taken off by hand. -/
theorem slots_match_registry_reused :
    ∃ c₀, ofConfig threeReceivers default = .ok c₀ ∧
      let c := c₀.undergoAll [.request (.operation (.retire 0)) trivial,
        .request (.operation (.recoverReceiver "r1")) trivial,
        .request (.operation (.register (.new "r4" "r4:1"))) trivial,
        .request (.operation (.unregister "r2")) trivial, .request (.operation (.retire 3)) trivial,
        .request (.operation (.recoverReceiver "b1")) trivial]
      c.registeredIds = ["r3", "r4", "b1"] ∧ c.healing.asked = ["b1", "b1"] ∧
        ∀ slot ∈ c.healing.slots, slot.state = .inUse ↔ slot.config.id ∈ c.registeredIds := by
  refine ⟨_, rfl, by decide +kernel, by decide +kernel, ?_⟩
  have hbuilt : ofConfig threeReceivers default = .ok _ := rfl
  have hjoins : "r4" ∉ ["b1"] := by decide
  have hleaves : "r2" ∉ ["b1"] := by decide
  refine (slots_match_registry hbuilt ?_).1
  exact ⟨trivial, trivial, hjoins, hleaves, trivial, trivial, trivial⟩

end Cluster

end SensorCluster
