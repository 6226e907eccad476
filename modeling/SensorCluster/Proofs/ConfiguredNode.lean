import SensorCluster.Proofs.Newcomers
import SensorCluster.Proofs.SensorRemoval

/-!
# A node as it is configured

**A node is built from a configuration if and only if that is valid**, and it is then what the
configuration says (`ofConfig_exact`): the receivers are running in the order in which they are
written, with nothing in them, the coordinator and the replication list them in this order, and the
slots are fresh.

## What it rests on

* A receiver that was just created can be started, so no receiver stands in the way of the next one
  (`exists_started`).
* The ids of a valid configuration are distinct, so nobody's registration is refused
  (`Assembled.add`).
* Whoever joins the replication pool is restored from its best peer there. Before any message nobody
  is ahead of it, so it stays as it is (`register_of_silent`).
-/

namespace SensorCluster

/-- The receiver that the settings ask for, once it is started. -/
def ReceiverConfig.started (rc : ReceiverConfig) : Replica :=
  { Replica.new rc.id rc.address with state := .running, inbound := true }

/-- The first receivers of a fleet have the first numbers. -/
theorem Fleet.map_range {f : Fleet} {front back : List Replica} (h : f.replicas = front ++ back) :
    (List.range front.length).map f.get = front := by
  refine List.ext_getElem (by simp) fun n _ hn ↦ ?_
  rw [List.getElem_map, List.getElem_range, Fleet.get, h, List.getD_eq_getElem?_getD,
    List.getElem?_append_left hn, List.getElem?_eq_getElem hn]
  rfl

namespace Cluster

variable {c : Cluster}

/-! ### Before any message -/

/-- Where nobody has seen a message, the best peer has nothing to give. -/
theorem restoreFromBestPeer_of_silent (h : ∀ other, (c.replica other).total = 0)
    (ref : ReplicaRef) :
    (c.restoreFromBestPeer ref).2.fleet = c.fleet := by
  rcases c.restoreFromBestPeer_cases ref with ⟨-, hfleet⟩ | ⟨best, -, -, hfleet⟩
  · exact hfleet
  · have hbehind : (c.snapshot best).total ≤ (c.replica ref).total := by
      rw [h ref]
      exact Nat.le_of_eq (congrArg UInt64.toNat (h best))
    rw [hfleet, Replica.restore_of_le hbehind]
    exact Fleet.set_get _ _

/-- Nor has it for whoever joins the replication pool. -/
theorem joinPool_of_silent (h : ∀ other, (c.replica other).total = 0) (ref : ReplicaRef) :
    (c.joinPool ref).2.fleet = c.fleet := by
  rw [joinPool]
  split
  · rfl
  · dsimp only
    split
    · refine (restoreFromBestPeer_of_silent ?_ ref).trans rfl
      exact h
    · rfl

/-- Where nobody has seen a message, a registration changes no receiver. -/
theorem register_of_silent (h : ∀ other, (c.replica other).total = 0) (ref : ReplicaRef) :
    (c.register ref).2.fleet = c.fleet := by
  obtain ⟨-, lines, heq⟩ | ⟨-, lines, heq⟩ := c.register_cases ref <;> rw [heq]
  · rfl
  · exact joinPool_of_silent (c := c.modifyCoordinator _) h ref

/-! ### One receiver after the other -/

/-- **A receiver that was just created can be started.** -/
theorem exists_started (c : Cluster) (rc : ReceiverConfig) :
    ∃ started : Cluster,
      (c.create (.new rc.id rc.address)).2.start c.fleet.replicas.length = (.ok (), started) ∧
      started.fleet.replicas = c.fleet.replicas ++ [rc.started] ∧
      started.coordinator = c.coordinator ∧ started.replication = c.replication ∧
      started.healing = c.healing := by
  have hnew : (c.create (.new rc.id rc.address)).2.replica c.fleet.replicas.length =
      .new rc.id rc.address :=
    Fleet.get_add_self _ _
  rw [start, hnew]
  refine ⟨_, rfl, ?_, rfl, rfl, rfl⟩
  show (c.fleet.replicas ++ [_]).set c.fleet.replicas.length rc.started = _
  rw [List.set_append_right _ _ (Nat.le_refl _), Nat.sub_self]
  rfl

/-- The receivers were started and registered one after the other, and nothing has happened
since. -/
structure Assembled (c : Cluster) (receivers : List ReceiverConfig) : Prop where
  replicas : c.fleet.replicas = receivers.map ReceiverConfig.started
  registry : c.coordinator.registry = List.range receivers.length
  pool : c.replication.pool = List.range receivers.length

namespace Assembled

variable {done : List ReceiverConfig}

/-- Nobody has seen a message, and there is nobody else. -/
theorem total_eq_zero (h : c.fleet.replicas = done.map ReceiverConfig.started) (ref : ReplicaRef) :
    (c.replica ref).total = 0 := by
  rw [replica, Fleet.get, List.getD_eq_getElem?_getD]
  cases hfound : c.fleet.replicas[ref]? with
  | none => rfl
  | some r =>
    obtain ⟨rc, -, rfl⟩ := List.mem_map.1 (h ▸ List.mem_of_getElem? hfound)
    rfl

/-- **One more receiver** is started and registered, if its id is a new one. -/
theorem add (h : c.Assembled done) {rc : ReceiverConfig} (hnew : rc.id ∉ done.map (·.id)) :
    ∃ c' : Cluster, (∀ rest, c.startConfigured (rc :: rest) = c'.startConfigured rest) ∧
      c'.Assembled (done ++ [rc]) ∧ c'.healing = c.healing := by
  have hlength : c.fleet.replicas.length = done.length := by rw [h.replicas, List.length_map]
  obtain ⟨started, hstart, hreplicas, hcoordinator, hreplication, hhealing⟩ := c.exists_started rc
  rw [hlength] at hstart
  rw [h.replicas] at hreplicas
  have hself : started.replica done.length = rc.started := by
    rw [replica, Fleet.get, hreplicas]
    simp
  -- both lists hold those who are done, and nobody of the new id
  have hids : started.fleet.ids (List.range done.length) = done.map (·.id) := by
    have hmap := congrArg (List.map Replica.id) (Fleet.map_range hreplicas)
    rw [List.length_map, List.map_map, List.map_map] at hmap
    exact hmap
  have hfree : (started.replica done.length).id ∉ started.registeredIds := by
    rw [hself, registeredIds, hcoordinator, h.registry, hids]
    exact hnew
  have hholds : started.fleet.Holds done.length := by
    rw [Fleet.Holds, hreplicas]
    simp
  -- whoever is running could be a peer to restore from, but has nothing to give
  have hsilent : ∀ other, (started.replica other).total = 0 := by
    rw [← List.map_singleton (f := ReceiverConfig.started), ← List.map_append] at hreplicas
    exact total_eq_zero hreplicas
  obtain ⟨-, hregistry, -⟩ := register_of_free hfree
  obtain ⟨-, -, hpool⟩ := register_running hholds (by rw [hself]; rfl) hfree
  refine ⟨(started.register done.length).2, fun rest ↦ ?_, ⟨?_, ?_, ?_⟩, ?_⟩
  · rw [startConfigured, show c.create (.new rc.id rc.address) =
      (done.length, (c.create (.new rc.id rc.address)).2) from congrArg (·, _) hlength]
    dsimp only
    rw [hstart]
  · rw [register_of_silent hsilent, hreplicas, List.map_append]
    rfl
  · rw [hregistry, hcoordinator, h.registry, List.length_append, List.length_singleton,
      List.range_succ]
  · rcases hpool with ⟨htaken, -⟩ | ⟨-, hpool, -⟩
    · rw [hreplication, h.pool, hids, hself] at htaken
      exact absurd htaken hnew
    · rw [hpool, hreplication, h.pool, List.length_append, List.length_singleton, List.range_succ]
  · exact (register_frame _).2.1.trans hhealing

/-- **All receivers** are started and registered, if their ids are distinct. -/
theorem addAll (h : c.Assembled done) {receivers : List ReceiverConfig}
    (hids : ((done ++ receivers).map (·.id)).Nodup) :
    ∃ c', c.startConfigured receivers = .ok c' ∧ c'.Assembled (done ++ receivers) ∧
      c'.healing = c.healing := by
  induction receivers generalizing c done with
  | nil => exact ⟨c, rfl, by rwa [List.append_nil], rfl⟩
  | cons rc rest ih =>
    have hnew : rc.id ∉ done.map (·.id) := by
      rw [List.map_append, List.map_cons] at hids
      exact fun hmem ↦ List.disjoint_of_nodup_append hids hmem List.mem_cons_self
    obtain ⟨c₁, hcons, hassembled, hhealing⟩ := h.add hnew
    rw [List.append_cons] at hids ⊢
    obtain ⟨c', hrest, hassembled', hhealing'⟩ := ih hassembled hids
    exact ⟨c', (hcons rest).trans hrest, hassembled', hhealing'.trans hhealing⟩

end Assembled

/-! ### The node -/

/-- **From a valid configuration a node is built.** -/
theorem exists_ofConfig {config : Config} (hvalid : config.Valid) (now : WallTime) :
    ∃ c, ofConfig config now = .ok c ∧ c.Assembled config.receivers ∧
      c.healing = (new config .discard .inMemory now).healing := by
  have hempty : ((new config .discard .inMemory now).subscribe EventLog.observer).2.Assembled [] :=
    ⟨rfl, rfl, rfl⟩
  obtain ⟨c, hbuilt, hassembled, hhealing⟩ := hempty.addAll (List.nodup_append.1 hvalid.distinct).1
  refine ⟨c, ?_, hassembled, hhealing⟩
  rw [ofConfig, Config.validate_eq_ok_iff.2 hvalid]
  exact hbuilt

/-- **A node is built from the valid configurations**, and it is what its configuration says.
Everything else is refused, among it every threshold that is no number. -/
theorem ofConfig_exact (config : Config) (now : WallTime) :
    ((∃ c, ofConfig config now = .ok c) ↔ config.Valid) ∧
    (¬config.Valid → ∃ defect, ofConfig config now = .error (.invalidConfig defect)) ∧
    (config.faultTolerance.imbalanceThreshold.isNaN = true → ¬config.Valid) ∧
    ∀ c, ofConfig config now = .ok c →
      c.coordinator.registry.map c.replica = config.receivers.map ReceiverConfig.started ∧
      c.replication.pool = c.coordinator.registry ∧
      (∀ ref ∈ c.coordinator.registry, (c.replica ref).isHealthy = true ∧
        (c.replica ref).index = .empty ∧ (c.replica ref).vector = .empty ∧
        (c.replica ref).total = 0 ∧ (c.replica ref).conflicts = 0) ∧
      c.healing.slots.map (·.config) = config.faultTolerance.backupPool ∧
      ∀ slot ∈ c.healing.slots, slot.state = .available ∧ slot.attempts = 0 := by
  have hrefused : ¬config.Valid → ∃ defect, ofConfig config now = .error (.invalidConfig defect) :=
    fun hinvalid ↦ by
      obtain ⟨defect, -, hdefect⟩ := Config.validate_of_not_valid hinvalid
      rw [ofConfig, hdefect]
      exact ⟨_, rfl⟩
  have hvalid : ∀ c, ofConfig config now = .ok c → config.Valid := fun c h ↦ by
    by_contra hinvalid
    obtain ⟨defect, hdefect⟩ := hrefused hinvalid
    rw [hdefect] at h
    cases h
  refine ⟨⟨fun hbuilt ↦ hbuilt.elim hvalid, fun h ↦ ?_⟩, hrefused,
    fun hnan hvalid ↦ not_lt_of_isNaN hnan _ hvalid.threshold, fun c h ↦ ?_⟩
  · obtain ⟨c, hbuilt, -⟩ := exists_ofConfig h now
    exact ⟨c, hbuilt⟩
  obtain ⟨c', hbuilt, hassembled, hhealing⟩ := exists_ofConfig (hvalid c h) now
  obtain rfl : c' = c := Except.ok.inj (hbuilt.symm.trans h)
  have hregistry : c'.coordinator.registry.map c'.replica =
      config.receivers.map ReceiverConfig.started := by
    have hfirst := Fleet.map_range (hassembled.replicas.trans (List.append_nil _).symm)
    rw [hassembled.registry, ← hfirst, List.length_map]
    rfl
  refine ⟨hregistry, hassembled.pool.trans hassembled.registry.symm, fun ref href ↦ ?_, ?_, ?_⟩
  · obtain ⟨rc, -, heq⟩ := List.mem_map.1 (hregistry ▸ List.mem_map_of_mem href)
    rw [← heq]
    exact ⟨rfl, rfl, rfl, rfl, rfl⟩
  · rw [hhealing]
    show (config.faultTolerance.backupPool.map BackupSlot.fresh).map (·.config) = _
    rw [List.map_map]
    exact List.map_id _
  · intro slot hslot
    rw [hhealing] at hslot
    obtain ⟨slotConfig, -, rfl⟩ := List.mem_map.1 hslot
    exact ⟨rfl, rfl⟩

/-- Three receivers and one slot make a node. -/
theorem ofConfig_exact_three :
    threeReceivers.Valid ∧ ∃ c, ofConfig threeReceivers default = .ok c ∧
      c.coordinator.registry.map (fun ref ↦ (c.replica ref).id) = ["r1", "r2", "r3"] ∧
      c.healing.slots.map (·.config) = [⟨"b1", "b1:1", 3⟩] := by
  obtain ⟨⟨hvalid, -⟩, -, -, hnode⟩ := ofConfig_exact threeReceivers default
  obtain ⟨hregistry, -, -, hslots, -⟩ := hnode _ rfl
  refine ⟨hvalid ⟨_, rfl⟩, _, rfl, ?_, hslots⟩
  have hids := congrArg (List.map Replica.id) hregistry
  rw [List.map_map] at hids
  exact hids

end Cluster

end SensorCluster
