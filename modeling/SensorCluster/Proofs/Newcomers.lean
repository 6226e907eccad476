import SensorCluster.Proofs.BestPeer
import SensorCluster.Proofs.PairedSlots

/-!
# Newcomers from the backup pool

The in-memory provisioner never refuses, so what comes of the backup pool can be told in full. A
provisioning draws a receiver from the first available slot (`Drawn`), or there is none and nothing
changes at all (`Vacant.provision_spec`). A receiver that was drawn is registered at the end of the
registry, and nobody else changes (`Drawn.register`).

**All it takes is that the slots are `Vacant`**: their ids are distinct, and nobody is registered
under the id of an available one. Then a registration is never refused. What the newcomer begins
with depends on the replication pool, which is a list of its own: the newcomer is restored from its
best peer there, unless the list has somebody of its id already.
-/

namespace SensorCluster

/-- What the in-memory provisioner makes of a slot. -/
def SlotConfig.receiver (s : SlotConfig) : Replica :=
  { Replica.new s.id s.address with state := .running, inbound := true }

namespace BackupPool

variable {slots front back : List BackupSlot} {slot : BackupSlot} {ids more : List String}

/-! ### Slots that are taken into use -/

/-- The slots, with those of the given ids in use after one attempt more. -/
def use (ids : List String) (slots : List BackupSlot) : List BackupSlot :=
  slots.map fun slot ↦
    if slot.config.id ∈ ids then { slot.counted with state := .inUse } else slot

theorem use_nil (slots : List BackupSlot) : use [] slots = slots := by
  simp [use]

/-- To take slots into use renames none. -/
theorem ids_use (ids : List String) (slots : List BackupSlot) :
    (use ids slots).map (·.config.id) = slots.map (·.config.id) := by
  rw [use, List.map_map]
  refine List.map_congr_left fun slot _ ↦ ?_
  show (if slot.config.id ∈ ids then { slot.counted with state := .inUse } else slot).config.id =
    slot.config.id
  split <;> rfl

/-- Slots are taken into use one after the other, none of them twice. -/
theorem use_append (hdisjoint : ids.Disjoint more) (slots : List BackupSlot) :
    use (ids ++ more) slots = use more (use ids slots) := by
  rw [use, use, use, List.map_map]
  refine List.map_congr_left fun slot _ ↦ ?_
  dsimp only [Function.comp_apply]
  by_cases hids : slot.config.id ∈ ids
  · have hmore : ¬slot.counted.config.id ∈ more := hdisjoint hids
    rw [if_pos (List.mem_append_left _ hids), if_pos hids, if_neg hmore]
  · simp only [List.mem_append, hids, false_or, if_false]

/-- Among distinct slots only the one of the id is taken into use. -/
theorem use_singleton (hdistinct : ((front ++ slot :: back).map (·.config.id)).Nodup) :
    use [slot.config.id] (front ++ slot :: back) =
      front ++ { slot.counted with state := .inUse } :: back := by
  rw [List.map_append, List.map_cons, List.nodup_append] at hdistinct
  obtain ⟨-, hback, hfront⟩ := hdistinct
  -- The id stands nowhere else, so neither in front nor behind is a slot affected.
  have hothers : ∀ l : List BackupSlot, slot.config.id ∉ l.map (·.config.id) →
      use [slot.config.id] l = l := by
    intro l hnone
    refine (List.map_congr_left fun other hother ↦ if_neg fun hid ↦ ?_).trans (List.map_id' l)
    exact hnone (List.mem_singleton.1 hid ▸ List.mem_map_of_mem hother)
  have hsplit : use [slot.config.id] (front ++ slot :: back) =
      use [slot.config.id] front ++ use [slot.config.id] [slot] ++ use [slot.config.id] back := by
    simp [use]
  have hself : use [slot.config.id] [slot] = [{ slot.counted with state := .inUse }] := by
    simp [use]
  rw [hsplit, hself, hothers front fun hmem ↦ hfront _ hmem _ List.mem_cons_self rfl,
    hothers back (List.nodup_cons.1 hback).1, List.append_assoc]
  rfl

/-- The first available slot is the first on the list of their ids, and it is off it when it is
used. -/
theorem available_of_first (hfront : available front = []) (hstate : slot.state = .available) :
    available (front ++ slot :: back) = slot.config.id :: available back ∧
      available (front ++ { slot.counted with state := .inUse } :: back) = available back := by
  rw [available_append, available_append, hfront, available_cons_of_eq hstate,
    available_cons_of_ne SlotState.noConfusion]
  exact ⟨rfl, rfl⟩

/-- **A pass of the in-memory provisioner** ends at the first available slot, without an
overflow. -/
theorem tryEach_inMemory (history : List String) (lastCause : Option ClusterError)
    (hshort : ∀ slot ∈ slots, slot.state = .available →
      slot.attempts ≠ UInt32.ofNat (UInt32.size - 1)) :
    (available slots = [] ∧ tryEach .inMemory history lastCause slots =
      ⟨slots, [], [], [], .failed (lastCause.getD .backupPoolEmpty)⟩) ∨
    ∃ front slot back lines, slots = front ++ slot :: back ∧ available front = [] ∧
      slot.state = .available ∧ tryEach .inMemory history lastCause slots =
        ⟨front ++ { slot.counted with state := .inUse } :: back, [slot.config.id], [], lines,
          .delivered slot.config.receiver⟩ := by
  induction slots with
  | nil => exact .inl ⟨rfl, rfl⟩
  | cons slot rest ih =>
    obtain ⟨hslot, hrest⟩ := List.forall_mem_cons.1 hshort
    rw [tryEach]
    -- The first available slot ends the pass. One that is not available is skipped, and the pass
    -- goes on behind it.
    by_cases hstate : slot.state = .available
    · rw [if_neg (not_not_intro hstate), if_neg (hslot hstate)]
      exact .inr ⟨[], slot, rest, _, rfl, rfl, hstate, rfl⟩
    · rw [if_pos hstate, available_cons_of_ne hstate]
      rcases ih hrest with ⟨hnone, heq⟩ | ⟨front, first, back, lines, rfl, hfront, hfirst, heq⟩ <;>
        rw [heq]
      · exact .inl ⟨hnone, rfl⟩
      · refine .inr ⟨slot :: front, first, back, lines, rfl, ?_, hfirst, rfl⟩
        rw [available_cons_of_ne hstate, hfront]

end BackupPool

namespace Cluster

variable {c c' : Cluster} {ref : ReplicaRef} {slot : BackupSlot}

/-! ### Drawing a receiver -/

/-- What it takes for the slots to be filled: the provisioner is the one in memory, nobody is
registered under the id of an available slot, and one more attempt does not overflow. -/
structure Vacant (c : Cluster) : Prop where
  provisioner : c.healing.provisioner = .inMemory
  distinct : (c.healing.slots.map (·.config.id)).Nodup
  free : ∀ slot ∈ c.healing.slots, slot.state = .available → slot.config.id ∉ c.registeredIds
  short : ∀ slot ∈ c.healing.slots, slot.state = .available →
    slot.attempts ≠ UInt32.ofNat (UInt32.size - 1)
  /-- The registered receivers exist. -/
  listed : c.Holding
  /-- Those that the replication looks after exist. -/
  pooled : ∀ ref ∈ c.replication.pool, c.fleet.Holds ref

/-- A receiver was drawn from a slot, the first available one, and is not registered yet. -/
structure Drawn (c : Cluster) (slot : BackupSlot) (ref : ReplicaRef) (c' : Cluster) : Prop where
  slots : ∃ front back, c.healing.slots = front ++ slot :: back ∧ BackupPool.available front = [] ∧
    c'.healing.slots = front ++ { slot.counted with state := .inUse } :: back
  state : slot.state = .available
  ref_eq : ref = (c.fleet.add slot.config.receiver).1
  fleet : c'.fleet = (c.fleet.add slot.config.receiver).2
  provisioner : c'.healing.provisioner = c.healing.provisioner
  pending : c'.healing.pending = c.healing.pending
  coordinator : c'.coordinator = c.coordinator
  replication : c'.replication = c.replication
  bus : c'.bus = c.bus

/-- **A provisioning** draws a receiver from the first available slot, or changes nothing. -/
theorem Vacant.provision_spec (h : c.Vacant) :
    (BackupPool.available c.healing.slots = [] ∧
      c.provision = (.error (.refused .backupPoolEmpty), c)) ∨
    ∃ slot ref c', c.provision = (.ok ref, c') ∧ Drawn c slot ref c' := by
  rw [provision, h.provisioner]
  dsimp only
  rcases BackupPool.tryEach_inMemory c.healing.asked none h.short with
    ⟨hnone, heq⟩ | ⟨front, slot, back, lines, hslots, hfront, hstate, heq⟩ <;> rw [heq]
  · refine .inl ⟨hnone, ?_⟩
    -- nobody was asked and nothing was logged
    have hasked : c.healing.asked ++ [] = c.healing.asked := List.append_nil _
    have hlog : c.log ++ #[] = c.log := Array.append_empty
    simp only [modifyHealing, write, reportAbandoned, List.foldl_nil, hasked, hlog]
    rfl
  · exact .inr ⟨slot, _, _, rfl, ⟨front, back, hslots, hfront, rfl⟩, hstate, rfl, rfl, rfl, rfl,
      rfl, rfl, rfl⟩

theorem Drawn.write (h : Drawn c slot ref c') (lines : List LogLine) :
    Drawn c slot ref (c'.write lines) :=
  ⟨h.slots, h.state, h.ref_eq, h.fleet, h.provisioner, h.pending, h.coordinator,
    h.replication, h.bus⟩

/-- Who was drawn is the receiver that is made of its slot, -/
theorem Drawn.replica (h : Drawn c slot ref c') : c'.replica ref = slot.config.receiver := by
  rw [Cluster.replica, h.fleet, h.ref_eq]
  exact Fleet.get_add_self ..

/-- and it exists. -/
theorem Drawn.holds (h : Drawn c slot ref c') : c'.fleet.Holds ref := by
  rw [h.fleet, h.ref_eq]
  exact Fleet.holds_add_self _

/-- Who was drawn is new. -/
theorem Drawn.fresh (h : Drawn c slot ref c') : ¬c.fleet.Holds ref := by
  rw [h.ref_eq]
  exact Nat.lt_irrefl _

/-- Everybody else is as before. -/
theorem Drawn.same (h : Drawn c slot ref c') {other : ReplicaRef} (hother : c.fleet.Holds other) :
    c'.fleet.Holds other ∧ c'.replica other = c.replica other := by
  rw [Cluster.replica, h.fleet]
  exact ⟨Fleet.holds_add_of_holds hother _, Fleet.get_add_of_holds hother _⟩

theorem Drawn.mem (h : Drawn c slot ref c') : slot ∈ c.healing.slots := by
  obtain ⟨front, back, hslots, -⟩ := h.slots
  rw [hslots]
  exact List.mem_append_right _ List.mem_cons_self

/-- The slot is the first of the available ones, and the others stay. -/
theorem Drawn.available (h : Drawn c slot ref c') : BackupPool.available c.healing.slots =
    slot.config.id :: BackupPool.available c'.healing.slots := by
  obtain ⟨front, back, hbefore, hfront, hafter⟩ := h.slots
  rw [hbefore, hafter, (BackupPool.available_of_first hfront h.state).1,
    (BackupPool.available_of_first hfront h.state).2]

/-- Taking the slot of the receiver into use is all that happened to the pool. -/
theorem Drawn.use (h : Drawn c slot ref c')
    (hdistinct : (c.healing.slots.map (·.config.id)).Nodup) :
    c'.healing.slots = BackupPool.use [slot.config.id] c.healing.slots := by
  obtain ⟨front, back, hbefore, -, hafter⟩ := h.slots
  rw [hbefore] at hdistinct ⊢
  rw [hafter, BackupPool.use_singleton hdistinct]

/-- Nobody is registered by it. -/
theorem Drawn.registeredIds (h : Drawn c slot ref c') (hlisted : c.Holding) :
    c'.registeredIds = c.registeredIds := by
  rw [Cluster.registeredIds, h.coordinator, h.fleet]
  exact Fleet.ids_add hlisted _

/-! ### Registering it -/

/-- **The registration of a running receiver whose id is free.** It is told of, and nobody else
changes. The receiver joins the replication pool and is restored from its best peer there, unless
its id is taken in the pool. -/
theorem register_running (hholds : c.fleet.Holds ref) (hrunning : (c.replica ref).isRunning = true)
    (hfree : (c.replica ref).id ∉ c.registeredIds) :
    (c.register ref).2.bus.published.toList = c.bus.published.toList ++
      [.receiverRegistered (c.replica ref).id (c.replica ref).address] ∧
    (∀ other ≠ ref, (c.register ref).2.replica other = c.replica other) ∧
    ((c.replica ref).id ∈ c.fleet.ids c.replication.pool ∧
        (c.register ref).2.replication.pool = c.replication.pool ∨
      (c.replica ref).id ∉ c.fleet.ids c.replication.pool ∧
        (c.register ref).2.replication.pool = c.replication.pool ++ [ref] ∧
        ((c.register ref).2.replica ref).total.toNat = max (c.replica ref).total.toNat
          (c.fleet.peak (c.fleet.peers c.replication.pool (c.replica ref).id))) := by
  obtain ⟨htaken, -⟩ | ⟨-, lines, heq⟩ := c.register_cases ref
  · exact absurd htaken hfree
  rw [heq]
  set c₁ := c.modifyCoordinator fun k ↦ { k with registry := c.coordinator.registry ++ [ref] }
  -- Joining the pool may restore the newcomer, which changes neither its id nor its address. So the
  -- event tells of what was registered.
  have hevents : ∀ c₂ : Cluster, c₁.Aside c₂ → (c₂.replica ref).shell = (c₁.replica ref).shell →
      c₂.bus.published.toList ++
          [Event.receiverRegistered (c₂.replica ref).id (c₂.replica ref).address] =
        c.bus.published.toList ++
          [.receiverRegistered (c.replica ref).id (c.replica ref).address] := by
    intro c₂ haside hshell
    rw [haside.bus,
      show (c₂.replica ref).id = (c₁.replica ref).id from congrArg Replica.Shell.id hshell,
      show (c₂.replica ref).address = (c₁.replica ref).address from
        congrArg Replica.Shell.address hshell]
    rfl
  refine ⟨(published_publish _).trans (hevents _ (joinPool_aside ref) (joinPool_shell ref ref)), ?_⟩
  by_cases htaken : (c.replica ref).id ∈ c.fleet.ids c.replication.pool
  · have hsame : c₁.joinPool ref = (false, c₁) := joinPool_of_taken htaken
    rw [hsame]
    exact ⟨fun _ _ ↦ rfl, .inl ⟨htaken, rfl⟩⟩
  · obtain ⟨hpool, hothers, htotal⟩ := joinPool_of_free (c := c₁) hholds hrunning htaken
    exact ⟨hothers, .inr ⟨htaken, hpool, htotal⟩⟩

/-- The id of who was drawn is that of its slot, and it is free. -/
theorem Drawn.free (hdrawn : Drawn c slot ref c') (h : c.Vacant) :
    (c'.replica ref).id = slot.config.id ∧ (c'.replica ref).id ∉ c'.registeredIds := by
  have hid : (c'.replica ref).id = slot.config.id := congrArg Replica.id hdrawn.replica
  refine ⟨hid, ?_⟩
  rw [hid, hdrawn.registeredIds h.listed]
  exact h.free slot hdrawn.mem hdrawn.state

/-- It is running, since it was started where it was made. -/
theorem Drawn.isRunning (hdrawn : Drawn c slot ref c') : (c'.replica ref).isRunning = true := by
  rw [hdrawn.replica]
  rfl

/-- **Who was drawn is registered** behind all others, under the id of its slot, and it is running.
This is told, and nobody else changes. -/
theorem Drawn.register_spec (hdrawn : Drawn c slot ref c') (h : c.Vacant) :
    (c'.register ref).2.coordinator.registry = c.coordinator.registry ++ [ref] ∧
    (c'.register ref).2.registeredIds = c.registeredIds ++ [slot.config.id] ∧
    (c'.register ref).2.bus.published.toList = c.bus.published.toList ++
      [.receiverRegistered slot.config.id slot.config.address] ∧
    (c'.register ref).2.fleet.Holds ref ∧
    ((c'.register ref).2.replica ref).shell = slot.config.receiver.shell ∧
    ∀ other, c.fleet.Holds other → (c'.register ref).2.fleet.Holds other ∧
      (c'.register ref).2.replica other = c.replica other := by
  obtain ⟨hid, hfree⟩ := hdrawn.free h
  obtain ⟨-, hregistry, hcalled, -⟩ := register_of_free hfree
  obtain ⟨hevents, hothers, -⟩ := register_running hdrawn.holds hdrawn.isRunning hfree
  obtain ⟨-, -, hshell⟩ := register_frame (c := c') ref
  refine ⟨?_, ?_, ?_, hcalled.holds_iff.2 hdrawn.holds, ?_, fun other hother ↦ ?_⟩
  · rw [hregistry, hdrawn.coordinator]
  · rw [registeredIds_register hfree, hid, hdrawn.registeredIds h.listed]
  · rw [hevents, hdrawn.bus, hdrawn.replica]
    rfl
  · rw [hshell, hdrawn.replica]
  · obtain ⟨hholds, heq⟩ := hdrawn.same hother
    have hne : other ≠ ref := by
      rintro rfl
      exact hdrawn.fresh hother
    exact ⟨hcalled.holds_iff.2 hholds, (hothers other hne).trans heq⟩

/-- **What a newcomer begins with.** It joins the replication pool and comes to the peak of those
that run there, unless its id is taken in the pool. -/
theorem Drawn.register_pool (hdrawn : Drawn c slot ref c') (h : c.Vacant) :
    (slot.config.id ∈ c.fleet.ids c.replication.pool ∧
      (c'.register ref).2.replication.pool = c.replication.pool) ∨
    (slot.config.id ∉ c.fleet.ids c.replication.pool ∧
      (c'.register ref).2.replication.pool = c.replication.pool ++ [ref] ∧
      ((c'.register ref).2.replica ref).total.toNat =
        c.fleet.peak (c.fleet.running c.replication.pool)) := by
  obtain ⟨hid, hfree⟩ := hdrawn.free h
  obtain ⟨-, -, hpool⟩ := register_running hdrawn.holds hdrawn.isRunning hfree
  have hids : c'.fleet.ids c.replication.pool = c.fleet.ids c.replication.pool := by
    rw [hdrawn.fleet]
    exact Fleet.ids_add h.pooled _
  rw [hdrawn.replication, hid, hids] at hpool
  refine hpool.imp_right fun ⟨hnone, hjoined, htotal⟩ ↦ ⟨hnone, hjoined, ?_⟩
  have hpeak : c'.fleet.peak (c'.fleet.running c.replication.pool) =
      c.fleet.peak (c.fleet.running c.replication.pool) :=
    Fleet.peak_running_congr fun other hother ↦ (hdrawn.same (h.pooled other hother)).2
  rw [htotal, Fleet.peers_of_not_mem (by rwa [hids]), hpeak, hdrawn.replica]
  exact Nat.zero_max _

end Cluster

end SensorCluster
