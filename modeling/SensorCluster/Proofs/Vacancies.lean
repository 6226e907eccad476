import SensorCluster.Proofs.ExactFloor
import SensorCluster.Proofs.SlotRegistry

/-!
# Available slots are vacant

Whatever happens to a node, nobody is registered under the id of an available slot, as long as
nobody is brought in from outside under such an id (`Settled.undergoAll`). The two lists of
receivers, the registry and the replication pool, are one as long as the pool is left to the
coordinator. A node in such a state is `Settled`.

This is less than slots and registry being paired. By hand a receiver from a slot may be
unregistered, and a receiver may be drawn from a slot and not be registered: then a slot is in use
and nobody is registered under its id. **No slot becomes available while its id is registered**, for
there is one way to become available: the receiver is taken off the registry first, and then its
slot is given back (`Settled.takenOff`).
-/

namespace SensorCluster

/-- Who is available after a release was so before, or has the id that is given back. -/
theorem BackupPool.of_mem_release {id : String} {slot : BackupSlot} {slots : List BackupSlot}
    (hslot : slot ∈ (release id slots).1) (hstate : slot.state = .available) :
    slot ∈ slots ∨ slot.config.id = id := by
  induction slots with
  | nil => exact .inl hslot
  | cons head rest ih =>
    rw [release] at hslot
    split at hslot
    · next hhead =>
      split at hslot
      -- The slot whose receiver is given back is abandoned if its attempts are spent, and then it
      -- is not available.
      · rcases List.mem_cons.1 hslot with rfl | hslot
        · cases hstate
        · exact .inl (List.mem_cons_of_mem _ hslot)
      · rcases List.mem_cons.1 hslot with rfl | hslot
        · exact .inr hhead.1
        · exact .inl (List.mem_cons_of_mem _ hslot)
    · rcases List.mem_cons.1 hslot with rfl | hslot
      · exact .inl List.mem_cons_self
      · exact (ih hslot).imp_left (List.mem_cons_of_mem _)

namespace Cluster

variable {c c' c'' : Cluster} {ref : ReplicaRef} {slot : BackupSlot}

/-- The registry and the replication pool are one list of receivers with distinct ids, the slots are
within their limits and have distinct ids, and nobody is registered under the id of an available
one. -/
structure Settled (c : Cluster) : Prop where
  sturdy : c.Sturdy
  sound : c.core.Sound fun _ ↦ True
  distinct : (c.healing.slots.map (·.config.id)).Nodup
  free : ∀ slot ∈ c.healing.slots, slot.state = .available → slot.config.id ∉ c.registeredIds

theorem Settled.pool_eq (h : c.Settled) : c.replication.pool = c.coordinator.registry :=
  h.sound.pool_eq

/-- What the theory of passes over a vacant pool asks for holds in a settled cluster. -/
theorem Settled.vacant (h : c.Settled) : c.Vacant where
  provisioner := h.sturdy.stocked.provisioner
  distinct := h.distinct
  free := h.free
  short slot hslot := (h.sturdy.stocked.bounded slot hslot).ne_last
  listed := h.sturdy.holding
  pooled ref href := h.sturdy.holding ref (h.pool_eq ▸ href)

/-- What leaves a cluster settled. -/
def Settles (c c' : Cluster) : Prop := c.Settled → c'.Settled

theorem Settles.refl (c : Cluster) : c.Settles c := id

theorem Settles.trans (h : c.Settles c') (h' : c'.Settles c'') : c.Settles c'' := fun hc ↦ h' (h hc)

/-! ### What concerns neither slots nor registrations -/

/-- Where neither the slots nor the registry change, a settled cluster stays settled. -/
theorem Settled.quiet (h : c.Settled) (hquiet : c.Quiet c') (hsound : c'.core.Sound fun _ ↦ True) :
    c'.Settled where
  sturdy := h.sturdy.told hquiet.told
  sound := hsound
  distinct := by
    rw [hquiet.slots]
    exact h.distinct
  free := by
    rw [hquiet.slots, hquiet.registered]
    exact h.free

/-- So what is quiet settles, -/
theorem Quiet.settles (h : c.Holding → c.Quiet c') (hreaches : c.Reaches c') : Settles c c' :=
  fun hc ↦ hc.quiet (h hc.sturdy.holding) (hc.sound.moves (hreaches hc.sound))

/-- and so does what has nothing to do with the slots and the registry. -/
theorem Aside.settles (h : c.Aside c') (hreaches : c.Reaches c') : Settles c c' :=
  Quiet.settles h.quiet hreaches

/-- A receiver is put in the place of one of the same id. -/
theorem Aside.settles_of_put (h : c.Aside c') {r : Replica} (hcore : c'.core = c.core.put ref r)
    (hid : r.id = (c.replica ref).id) : Settles c c' := by
  intro hc
  refine hc.quiet (h.quiet hc.sturdy.holding) ?_
  rw [hcore]
  exact hc.sound.put hid

/-- What is logged, counted, scheduled or told of without consequence leaves a cluster settled. -/
theorem settles_of_eq (hfleet : c'.fleet = c.fleet)
    (hregistry : c'.coordinator.registry = c.coordinator.registry)
    (hpool : c'.replication.pool = c.replication.pool) (hslots : c'.healing.slots = c.healing.slots)
    (htold : c.Told c') : Settles c c' := by
  intro h
  have hregistered : c'.registeredIds = c.registeredIds := by
    rw [registeredIds, hfleet, hregistry, registeredIds]
  refine ⟨h.sturdy.told htold, ⟨?_, ?_, ?_, fun _ _ _ _ _ ↦ trivial⟩, ?_, ?_⟩
  · exact hpool.trans (h.pool_eq.trans hregistry.symm)
  · exact (h.sturdy.told htold).holding
  · show c'.registeredIds.Nodup
    rw [hregistered]
    exact h.sound.ids
  · rw [hslots]
    exact h.distinct
  · rw [hslots, hregistered]
    exact h.free

theorem publish_settles {e : Event} (h : e.IsRemark) : Settles c (c.publish e) :=
  settles_of_eq rfl rfl rfl rfl (publish_tells h).2

theorem write_settles (lines : List LogLine) : Settles c (c.write lines) :=
  settles_of_eq rfl rfl rfl rfl (.refl c)

/-- A route may only change a receiver and the counters. -/
theorem tryRoute_settles (m : Message) (host : String) (port : UInt16) :
    Settles c (c.tryRoute m host port).2 :=
  Quiet.settles (fun _ ↦ (tryRoute_quiet m host port).2) (tryRoute_leads m host port trivial)

theorem unregisterSensor_settles (sensor : String) : Settles c (c.unregisterSensor sensor).2 :=
  Quiet.settles (fun _ ↦ (unregisterSensor_quiet sensor).2) (unregisterSensor_leads sensor)

/-! ### Registrations -/

/-- Whoever is registered under an id that is no available slot's leaves the cluster settled. -/
theorem Settled.register (h : c.Settled) (hholds : c.fleet.Holds ref)
    (hother : (c.replica ref).id ∉ BackupPool.available c.healing.slots) :
    (c.register ref).2.Settled := by
  have hhealing : (c.register ref).2.healing = c.healing := (register_frame ref).2.1
  have hreaches : c.Reaches (c.register ref).2 := register_leads hholds trivial
  refine ⟨h.sturdy.told (register_tells hholds).2, h.sound.moves (hreaches h.sound), ?_,
    fun slot hslot hstate ↦ ?_⟩
  · rw [hhealing]
    exact h.distinct
  · rw [hhealing] at hslot
    by_cases htaken : (c.replica ref).id ∈ c.registeredIds
    · obtain ⟨lines, heq⟩ := register_of_taken htaken
      rw [heq]
      exact h.free slot hslot hstate
    -- The newcomer takes an id, and it is none of those of the available slots.
    · have hne : slot.config.id ≠ (c.replica ref).id :=
        fun heq ↦ hother (heq ▸ BackupPool.mem_available.2 ⟨slot, hslot, hstate, rfl⟩)
      rw [registeredIds_register htaken, List.mem_append, List.mem_singleton, not_or]
      exact ⟨h.free slot hslot hstate, hne⟩

/-- Whoever leaves makes room and brings nobody in. -/
theorem unregister_settles (id : String) : Settles c (c.unregister id).2 := by
  intro h
  have hreaches : c.Reaches (c.unregister id).2 := unregister_leads id
  cases hfind : c.registered? id with
  | none =>
    rw [unregister_of_none hfind]
    exact h
  | some ref =>
    obtain ⟨-, -, hhealing, -⟩ := unregister_of_found hfind
    refine ⟨h.sturdy.told (unregister_tells id).2, h.sound.moves (hreaches h.sound), ?_,
      fun slot hslot hstate hmem ↦ ?_⟩
    · rw [hhealing]
      exact h.distinct
    · rw [hhealing] at hslot
      rw [registeredIds_unregister hfind] at hmem
      -- The registry only loses an id here, so a free id stays free.
      exact h.free slot hslot hstate (List.mem_of_mem_erase hmem)

/-- **A receiver is taken off** before its slot becomes available. -/
theorem Settled.takenOff (h : c.Settled) (hfind : c.registered? (c.replica ref).id = some ref) :
    (c.takenOff ref).Settled := by
  obtain ⟨hslots, -, -, -, hregistered, -, -⟩ := takenOff_frame hfind
  have htold : c.Told (c.takenOff ref) := (takenOff_tells ref).2
  have hreaches : c.Reaches (c.takenOff ref) := takenOff_leads ref
  refine ⟨h.sturdy.told htold, h.sound.moves (hreaches h.sound), ?_,
    fun slot hslot hstate hmem ↦ ?_⟩
  · rw [hslots, BackupPool.ids_release]
    exact h.distinct
  · rw [hslots] at hslot
    have hnodup : c.registeredIds.Nodup := h.sound.ids
    rw [hregistered, hnodup.mem_erase_iff] at hmem
    exact (BackupPool.of_mem_release hslot hstate).elim
      (fun hold ↦ h.free slot hold hstate hmem.2) hmem.1

/-! ### Taking slots into use -/

/-- Whether the receiver that is drawn is registered or not, the cluster stays settled. -/
theorem provision_settles : Settles c c.provision.2 := by
  intro h
  have hreaches : c.Reaches c.provision.2 := provision_leads
  have hsound := h.sound.moves (hreaches h.sound)
  have hsturdy : c.provision.2.Sturdy := h.sturdy.told provision_tells.2
  rcases h.vacant.provision_spec with ⟨-, heq⟩ | ⟨slot, ref, c', heq, hdrawn⟩ <;>
    rw [heq] at hsound hsturdy ⊢
  · exact h
  · have hpooled : ∀ ref ∈ c'.replication.pool, c'.fleet.Holds ref := by
      intro other hother
      rw [hdrawn.replication] at hother
      exact (hdrawn.same (h.vacant.pooled other hother)).1
    -- A receiver that is drawn is not registered yet, so the ids that are taken are those of
    -- before.
    have hvacant : c'.Vacant := hdrawn.vacant h.vacant hdrawn.provisioner rfl
      (fun id hid ↦ .inl (hdrawn.registeredIds h.sturdy.holding ▸ hid)) hsturdy.holding hpooled
    exact ⟨hsturdy, hsound, hvacant.distinct, hvacant.free⟩

/-- Who is drawn is registered. -/
theorem settles_of_delivered (lines : List LogLine) (hprovision : c.provision = (.ok ref, c')) :
    Settles c ((c'.write lines).register ref).2 := by
  intro h
  have hreaches : c.Reaches ((c'.write lines).register ref).2 :=
    register_provisioned_leads (c'.write lines) hprovision rfl
  have htells : c.Tells ((c'.write lines).register ref).2 :=
    recoveryRespects_tells.delivered lines hprovision
  rcases h.vacant.provision_spec with ⟨-, hrefused⟩ | ⟨slot, new, drawn, hdelivered, hdrawn⟩
  · rw [hprovision] at hrefused
    cases hrefused
  · rw [hprovision] at hdelivered
    cases hdelivered
    have hvacant := ((hdrawn.write lines).filled h.vacant).vacant
    exact ⟨h.sturdy.told htells.2, h.sound.moves (hreaches h.sound), hvacant.distinct, hvacant.free⟩

/-! ### Recoveries and upkeep -/

/-- Every stage of a recovery leaves the cluster settled: who is to be replaced is taken off first,
and only then is its slot given back. -/
theorem recoveryRespects_settles : RecoveryRespects Settles where
  refl := .refl
  trans := .trans
  write _ lines := write_settles lines
  restarted c := settles_of_eq rfl rfl rfl rfl (.refl c)
  replaced c := settles_of_eq rfl rfl rfl rfl (.refl c)
  tellRecovered _ _ := publish_settles trivial
  tellReplaced _ _ _ := publish_settles trivial
  tellFailure _ _ _ := publish_settles trivial
  recover _ ref := (recover_aside ref).settles (recover_leads ref)
  restore _ ref := (restoreFromBestPeer_aside ref).settles (restoreFromBestPeer_leads ref)
  takenOff hfind h := h.takenOff hfind
  refused {c _ _} hprovision := by
    have hsettles : Settles c c.provision.2 := provision_settles
    rwa [hprovision] at hsettles
  delivered := settles_of_delivered

/-- And so does the upkeep of a node, which only recovers, copies and looks around besides. -/
theorem nodeRespects_settles : NodeRespects Settles where
  __ := recoveryRespects_settles
  start _ ref := (start_aside ref).settles (start_leads ref)
  stop _ ref := (stop_aside ref).settles (stop_leads ref)
  detach _ ref := (detach_aside ref).settles (detach_leads ref)
  retire _ ref := (retire_aside ref).settles (retire_leads ref)
  syncCycle _ := syncCycle_aside.settles syncCycle_leads
  backupCycle _ := (backups_aside 0 _).settles (.of_eq (backups_core 0 _))
  recoveryScan _ := recoveryScan_aside.settles recoveryScan_leads
  checked c := settles_of_eq rfl rfl rfl rfl (.refl c)
  marked _ := settles_of_eq rfl rfl rfl rfl (.refl _)
  unmarked c _ := settles_of_eq rfl rfl rfl rfl (.refl c)
  flagged c _ := settles_of_eq rfl rfl rfl rfl (.refl c)
  startedReplication c := settles_of_eq rfl rfl rfl rfl (.refl c)
  startedHealing c := settles_of_eq rfl rfl rfl rfl (.refl c)
  withAgenda c _ := settles_of_eq rfl rfl rfl rfl (.refl c)
  subscribe c _ := settles_of_eq rfl rfl rfl rfl (.refl c)
  unsubscribe c _ := settles_of_eq rfl rfl rfl rfl (.refl c)

end Cluster

/-- Is nobody brought in from outside under the id of an available slot, and is the replication pool
left to the coordinator? -/
def Happening.LeavesVacant (c : Cluster) : Happening → Prop
  | .request (.operation (.register r)) _ => r.id ∉ BackupPool.available c.healing.slots
  | .request (.enroll ref) _ => (c.replica ref).id ∉ BackupPool.available c.healing.slots
  | .joinPool _ => False
  | .leavePool _ => False
  | _ => True

namespace Cluster

variable {c : Cluster}

/-- Do all happenings of a history leave the available slots vacant? -/
def LeavesVacant (c : Cluster) : List Happening → Prop
  | [] => True
  | e :: rest => e.LeavesVacant c ∧ (c.undergo e).LeavesVacant rest

theorem create_settles (r : Replica) : Settles c (c.create r).2 :=
  (create_aside r).settles (.of_move (.create (.inl trivial)))

/-- Of the calls only a registration can bring somebody in under the id of an available slot. -/
theorem step_settles {op : Operation} {hcall : Request.IsCall (.operation op)}
    (hleaves : Happening.LeavesVacant c (.request (.operation op) hcall)) :
    Settles c (c.step op) := by
  cases op with
  | register r =>
    intro h
    refine (create_settles r h).register (Fleet.holds_add_self r) ?_
    show ((c.fleet.add r).2.get (c.fleet.add r).1).id ∉ BackupPool.available c.healing.slots
    rwa [Fleet.get_add_self]
  | unregister id => exact unregister_settles id
  | route m host port => exact tryRoute_settles m host port
  | pin id => exact settles_of_eq rfl rfl rfl rfl (.refl c)
  | unregisterSensor sensor => exact unregisterSensor_settles sensor
  | provision => exact provision_settles
  | _ => exact nodeRespects_settles.step c trivial

/-- **Whatever happens** leaves a cluster settled, if it leaves the available slots vacant. -/
theorem undergo_settles {e : Happening} (hleaves : e.LeavesVacant c) : Settles c (c.undergo e) := by
  cases e with
  | request q hcall =>
    cases q with
    | operation op => exact step_settles hleaves
    | create r => exact create_settles r
    | enroll ref =>
      show Settles c (c.handle (.enroll ref))
      rw [handle]
      split
      · next hholds => exact fun h ↦ h.register hholds hleaves
      · exact .refl c
    -- the source of a sync by hand may be on no roster, so it is no move of the core
    | syncPair a b =>
      exact fun h ↦ h.quiet ((syncPair_aside a b).quiet h.sturdy.holding)
        (syncPair_sound h.sound a b)
    | restore ref => exact (restoreFromBestPeer_aside ref).settles (restoreFromBestPeer_leads ref)
  | moment m => exact nodeRespects_settles.host.live c m
  | fail ref =>
    have hstopped : Settles c (c.stop ref).2 := (stop_aside ref).settles (stop_leads ref)
    exact hstopped.trans (settles_of_eq rfl rfl rfl rfl (.refl _))
  | stopReceivers => exact nodeRespects_settles.stopReceivers c
  | process ref m =>
    show Settles c (c.process ref m).2
    have haside : c.Aside (c.process ref m).2 := process_aside ref m
    rcases hanswer : (c.replica ref).process m with cause | ⟨outcome, r⟩
    · rw [process_of_error hanswer]
      exact .refl c
    · have hcore : (c.process ref m).2.core = c.core.put ref r := by
        rw [process, hanswer]
        rfl
      exact haside.settles_of_put hcore (Replica.process_eq_ok hanswer).2.1
  | removeRecord ref sensor => exact (removeRecord_aside ref sensor).settles_of_put rfl rfl
  | restore ref s => exact (restore_aside ref s).settles_of_put rfl (Replica.restore_id ..)
  | joinPool | leavePool => exact hleaves.elim
  | changeSink | tellTime | write | openChannel | closeChannel | drain | startReports
    | endReports =>
    exact settles_of_eq rfl rfl rfl rfl (.refl c)

/-- A whole history that leaves the available slots vacant leaves the cluster settled, by induction
on it. -/
theorem Settled.undergoAll (h : c.Settled) {history : List Happening}
    (hleaves : c.LeavesVacant history) : (c.undergoAll history).Settled := by
  induction history generalizing c with
  | nil => exact h
  | cons e rest ih => exact ih (undergo_settles hleaves.1 h) hleaves.2

/-- A node that was built from a valid configuration is settled. -/
theorem settled_of_ofConfig {config : Config} {now : WallTime} (h : ofConfig config now = .ok c) :
    c.Settled := by
  obtain ⟨hpaired, -⟩ := paired_of_ofConfig h
  have hreaches : (new config .discard .inMemory now).Reaches c :=
    (ofConfig_spec (fun _ _ ↦ trivial) h).2
  have hnew : (new config .discard .inMemory now).core.Sound fun _ ↦ True :=
    new_sound fun _ _ _ _ _ ↦ trivial
  refine ⟨hpaired.sturdy, hnew.moves (hreaches hnew), ?_, fun slot hslot hstate ↦ ?_⟩
  · rw [hpaired.slotIds]
    exact hpaired.distinct
  · obtain ⟨front, back, hslots⟩ := List.append_of_mem hslot
    exact (hpaired.free_of_available hslots hstate).2

end Cluster

end SensorCluster
