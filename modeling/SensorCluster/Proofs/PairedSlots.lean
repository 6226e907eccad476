import SensorCluster.Proofs.FleetCalls
import SensorCluster.Proofs.SelfHealing
import SensorCluster.Proofs.SlotsInUse

/-!
# Paired slots

A slot is in use as long as a receiver of its id is registered, and no longer: then slots and
registry are `Paired`. No operation writes both at once. A replacement unregisters the receiver,
gives its slot back, takes a receiver from a slot and registers it, and whether the registration is
accepted nobody asks.

**Two states stand in between.** After `takenOff` the slot is given back, and the pair is whole
again. After a provisioning a receiver is `Taken`: its slot is in use and its id is free, which is
why its registration is not refused (`Taken.register`). It is free because an available slot is not
in use, so nobody is registered under its id (`Paired.provision_spec`).

## What the operations keep

`Keeps` says of two clusters that the second is paired if the first is, and that everybody is
attended to, registered or retired, if everybody was before. There is one lemma for each operation.
For most of them it comes from their being `Quiet`: they concern neither slots nor registrations.
-/

namespace SensorCluster

/-- The receiver that an event tells of as registered. -/
def Event.registered? : Event → Option String
  | .receiverRegistered receiver _ => some receiver
  | _ => none

namespace Cluster

variable {c c' c'' : Cluster} {ref : ReplicaRef} {ids : List String}

/-- The ids of the registered receivers. -/
def registeredIds (c : Cluster) : List String := c.fleet.ids c.coordinator.registry

/-- There is one id for each registered receiver. -/
theorem length_registeredIds (c : Cluster) :
    c.registeredIds.length = c.coordinator.registry.length :=
  List.length_map _

/-- The receivers that were ever registered, oldest registration first. -/
def registrations (c : Cluster) : List String :=
  c.bus.published.toList.filterMap Event.registered?

/-! ### What slots and registry depend on -/

/-- Nothing happens that concerns slots or registrations. -/
structure Quiet (c c' : Cluster) : Prop where
  told : c.Told c'
  registered : c'.registeredIds = c.registeredIds
  registrations : c'.registrations = c.registrations
  slots : c'.healing.slots = c.healing.slots
  asked : c'.healing.asked = c.healing.asked

/-- What is quiet twice is quiet. -/
theorem Quiet.trans (h : c.Quiet c') (h' : c'.Quiet c'') : c.Quiet c'' :=
  ⟨h.told.trans h'.told, h'.registered.trans h.registered, h'.registrations.trans h.registrations,
    h'.slots.trans h.slots, h'.asked.trans h.asked⟩

/-- Slots and registry correspond, and every receiver that came from a slot was registered. -/
structure Paired (ids : List String) (c : Cluster) : Prop where
  sturdy : c.Sturdy
  slotIds : c.healing.slots.map (·.config.id) = ids
  distinct : ids.Nodup
  used_iff : ∀ id ∈ ids, id ∈ BackupPool.inUse c.healing.slots ↔ id ∈ c.registeredIds
  asked : c.registrations.filter (· ∈ ids) = c.healing.asked

/-- **What is quiet leaves slots and registry paired.** -/
theorem Paired.quiet (h : c.Paired ids) (hquiet : c.Quiet c') : c'.Paired ids where
  sturdy := h.sturdy.told hquiet.told
  slotIds := by rw [hquiet.slots, h.slotIds]
  distinct := h.distinct
  used_iff := by
    rw [hquiet.slots, hquiet.registered]
    exact h.used_iff
  asked := by rw [hquiet.registrations, hquiet.asked, h.asked]

/-- Every receiver that is not registered is retired. -/
def Attended (c : Cluster) : Prop :=
  ∀ ref, c.fleet.Holds ref → ref ∈ c.coordinator.registry ∨ (c.replica ref).state = .retired

/-- Calls bring nobody back from retirement. -/
theorem Attended.called (h : c.Attended)
    (hregistry : c'.coordinator.registry = c.coordinator.registry)
    (hcalled : c.fleet.Called c'.fleet) : c'.Attended := by
  intro ref href
  rw [hregistry]
  exact (h ref (hcalled.holds_iff.1 href)).imp_right hcalled.retired

/-- What leaves slots and registry paired, and everybody attended to. -/
def Keeps (ids : List String) (c c' : Cluster) : Prop :=
  c.Paired ids → c'.Paired ids ∧ (c.Attended → c'.Attended)

theorem Keeps.refl (c : Cluster) : Keeps ids c c := fun h ↦ ⟨h, id⟩

/-- What is kept twice is kept. -/
theorem Keeps.trans (h : Keeps ids c c') (h' : Keeps ids c' c'') : Keeps ids c c'' := by
  intro hpaired
  obtain ⟨hpaired', hattended⟩ := h hpaired
  obtain ⟨hpaired'', hattended'⟩ := h' hpaired'
  exact ⟨hpaired'', fun h ↦ hattended' (hattended h)⟩

/-- Calls to receivers rename nobody, so the registry shows the same ids. -/
theorem Quiet.of_called (htold : c.Told c')
    (hregistry : c'.coordinator.registry = c.coordinator.registry)
    (hcalled : c.fleet.Called c'.fleet) (hregistrations : c'.registrations = c.registrations)
    (hslots : c'.healing.slots = c.healing.slots) (hasked : c'.healing.asked = c.healing.asked) :
    c.Quiet c' where
  told := htold
  registered := by
    rw [registeredIds, hregistry]
    exact hcalled.ids_eq _
  registrations := hregistrations
  slots := hslots
  asked := hasked

/-- A quiet operation that only calls receivers keeps both. -/
theorem Quiet.keeps (h : c.Quiet c') (hregistry : c'.coordinator.registry = c.coordinator.registry)
    (hcalled : c.fleet.Called c'.fleet) : Keeps ids c c' :=
  fun hpaired ↦ ⟨hpaired.quiet h, fun hattended ↦ hattended.called hregistry hcalled⟩

/-- What is logged, counted, marked or scheduled concerns neither slots nor receivers. -/
theorem keeps_of_eq (hfleet : c'.fleet = c.fleet)
    (hregistry : c'.coordinator.registry = c.coordinator.registry)
    (hchronicle : c'.chronicle = c.chronicle) : Keeps ids c c' := by
  have htold : c.Told c' := by
    intro hholding
    refine ⟨fun ref href ↦ ?_, by rw [hchronicle]⟩
    rw [hfleet]
    exact hholding ref (hregistry ▸ href)
  have hquiet : c.Quiet c' :=
    ⟨htold, congrArg Chronicle.receivers hchronicle,
      congrArg (fun k ↦ k.events.filterMap Event.registered?) hchronicle,
      congrArg Chronicle.slots hchronicle, congrArg Chronicle.asked hchronicle⟩
  exact hquiet.keeps hregistry (.of_eq hfleet)

/-! ### Quiet operations -/

/-- Nobody is registered by an operation on receivers alone. -/
theorem Aside.registrations (h : c.Aside c') : c'.registrations = c.registrations := by
  rw [Cluster.registrations, h.bus]
  rfl

/-- What concerns receivers alone is quiet, also if it creates one. -/
theorem Aside.quiet (h : c.Aside c') (hholding : c.Holding) : c.Quiet c' where
  told := Aside.tells h |>.2
  registered := congrArg Chronicle.receivers (h.chronicle hholding)
  registrations := h.registrations
  slots := by rw [h.healing]
  asked := by rw [h.healing]

/-- **Operations on receivers alone** keep both. -/
theorem Aside.keeps (h : c.Aside c') (hcalled : c.fleet.Called c'.fleet) : Keeps ids c c' :=
  fun hpaired ↦ (h.quiet hpaired.sturdy.holding).keeps
    (congrArg Coordinator.registry h.coordinator) hcalled hpaired

/-- A registration is known by its event, -/
theorem registrations_publish (e : Event) :
    (c.publish e).registrations = c.registrations ++ e.registered?.toList := by
  rw [registrations, published_publish, List.filterMap_append]
  rfl

/-- and no other event tells of one. -/
theorem registrations_publish_of_none {e : Event} (h : e.registered? = none) :
    (c.publish e).registrations = c.registrations := by
  rw [registrations_publish, h]
  exact List.append_nil _

/-- A remark is no registration. -/
theorem publish_quiet {e : Event} (h : e.IsRemark) : c.Quiet (c.publish e) where
  told := (publish_tells h).2
  registered := rfl
  registrations := by
    cases e with
    | receiverRegistered | receiverUnregistered => exact h.elim
    | _ => exact registrations_publish_of_none rfl
  slots := rfl
  asked := rfl

theorem publish_keeps {e : Event} (h : e.IsRemark) : Keeps ids c (c.publish e) :=
  (publish_quiet h).keeps rfl .refl

/-- A sender that is tracked is a sensor, and no receiver. -/
theorem trackSender_registrations (m : Message) (host : String) (port : UInt16) :
    (c.trackSender m host port).registrations = c.registrations := by
  rcases c.trackSender_cases m host port with ⟨-, heq⟩ | ⟨info, lines, -, heq⟩ <;> rw [heq]
  · rfl
  · exact registrations_publish_of_none rfl

/-- A route tells of nobody's registration. -/
theorem tryRoute_registrations (m : Message) (host : String) (port : UInt16) :
    (c.tryRoute m host port).2.registrations = c.registrations := by
  have htracked : (c.handedOver m host port).registrations = c.registrations :=
    trackSender_registrations m host port
  obtain ⟨c₂, hc₂, hcases⟩ := c.tryRoute_cases m host port
  have hchosen : c₂.registrations = c.registrations := hc₂ ▸ htracked
  obtain ⟨-, heq⟩ | ⟨ref, -, ⟨cause, lines, -, heq⟩ | ⟨outcome, r, lines, hprocess, heq⟩⟩ :=
    hcases <;>
    rw [heq]
  · exact (registrations_publish_of_none rfl).trans hchosen
  · exact (registrations_publish_of_none rfl).trans
      ((registrations_publish_of_none rfl).trans hchosen)
  · refine (registrations_publish_of_none rfl).trans ?_
    exact (processed_aside hprocess lines).registrations.trans hchosen

/-- A route registers nobody, and has nothing to do with slots. -/
theorem tryRoute_quiet (m : Message) (host : String) (port : UInt16) :
    (c.tryRoute m host port).2.coordinator.registry = c.coordinator.registry ∧
      c.Quiet (c.tryRoute m host port).2 := by
  have hcalled := tryRoute_called (c := c) m host port
  obtain ⟨hregistry, hslots, hasked⟩ :
      (c.tryRoute m host port).2.coordinator.registry = c.coordinator.registry ∧
      (c.tryRoute m host port).2.healing.slots = c.healing.slots ∧
      (c.tryRoute m host port).2.healing.asked = c.healing.asked := by
    rcases tryRoute_spec (c := c) m host port with ⟨_, -, _, _, -, -, hcore, -⟩ | ⟨_, -, hcore, -⟩
    · exact ⟨congrArg Core.registry hcore, congrArg Core.slots hcore, congrArg Core.asked hcore⟩
    · exact ⟨congrArg Core.registry hcore, congrArg Core.slots hcore, congrArg Core.asked hcore⟩
  exact ⟨hregistry, .of_called (tryRoute_tells m host port).2 hregistry hcalled
    (tryRoute_registrations m host port) hslots hasked⟩

theorem tryRoute_keeps (m : Message) (host : String) (port : UInt16) :
    Keeps ids c (c.tryRoute m host port).2 := by
  obtain ⟨hregistry, hquiet⟩ := tryRoute_quiet (c := c) m host port
  exact hquiet.keeps hregistry (tryRoute_called m host port)

/-- To forget a sensor registers nobody, and has nothing to do with slots. -/
theorem unregisterSensor_quiet (sensor : String) :
    (c.unregisterSensor sensor).2.coordinator.registry = c.coordinator.registry ∧
      c.Quiet (c.unregisterSensor sensor).2 := by
  have hcalled := unregisterSensor_called (c := c) sensor
  have htold := (unregisterSensor_tells (c := c) sensor).2
  have hremoved := c.withdraw_aside sensor
  have hbus : (c.withdraw sensor).2.registrations = c.registrations := hremoved.registrations
  obtain ⟨hcoordinator, hhealing, hregistrations⟩ :
      (c.unregisterSensor sensor).2.coordinator = (c.withdraw sensor).2.coordinator ∧
      (c.unregisterSensor sensor).2.healing = (c.withdraw sensor).2.healing ∧
      (c.unregisterSensor sensor).2.registrations = c.registrations := by
    -- whether it is told of or not, no receiver is
    rcases c.unregisterSensor_cases sensor with ⟨-, -, heq⟩ | ⟨-, lines, heq⟩ <;> rw [heq]
    · exact ⟨rfl, rfl, hbus⟩
    · exact ⟨rfl, rfl, (registrations_publish_of_none rfl).trans hbus⟩
  rw [hremoved.coordinator] at hcoordinator
  rw [hremoved.healing] at hhealing
  have hregistry : (c.unregisterSensor sensor).2.coordinator.registry = c.coordinator.registry := by
    rw [hcoordinator]
    rfl
  exact ⟨hregistry, .of_called htold hregistry hcalled hregistrations
    (congrArg Healing.slots hhealing) (congrArg Healing.asked hhealing)⟩

theorem unregisterSensor_keeps (sensor : String) : Keeps ids c (c.unregisterSensor sensor).2 := by
  obtain ⟨hregistry, hquiet⟩ := unregisterSensor_quiet (c := c) sensor
  exact hquiet.keeps hregistry (unregisterSensor_called sensor)

/-! ### Registrations -/

/-- A receiver whose id is free is registered. -/
theorem register_of_free (h : (c.replica ref).id ∉ c.registeredIds) :
    (c.register ref).1 = true ∧
    (c.register ref).2.coordinator.registry = c.coordinator.registry ++ [ref] ∧
    c.fleet.Called (c.register ref).2.fleet ∧
    (c.register ref).2.registrations = c.registrations ++ [(c.replica ref).id] := by
  obtain ⟨htaken, -⟩ | ⟨-, lines, heq⟩ := c.register_cases ref
  · exact absurd htaken h
  rw [heq]
  set c₁ := c.modifyCoordinator fun k ↦ { k with registry := c.coordinator.registry ++ [ref] }
  have hjoined : c₁.Aside (c₁.joinPool ref).2 := joinPool_aside ref
  have hcalled : c.fleet.Called (c₁.joinPool ref).2.fleet := joinPool_called (c := c₁) ref
  refine ⟨rfl, congrArg Coordinator.registry hjoined.coordinator, hcalled, ?_⟩
  refine (registrations_publish _).trans ?_
  have hbefore : (c₁.joinPool ref).2.registrations = c.registrations := hjoined.registrations
  have hid : ((c₁.joinPool ref).2.replica ref).id = (c.replica ref).id := hcalled.id_eq ref
  show (c₁.joinPool ref).2.registrations ++ [((c₁.joinPool ref).2.replica ref).id] = _
  rw [hbefore, hid]

/-- A free id is registered last. -/
theorem registeredIds_register (h : (c.replica ref).id ∉ c.registeredIds) :
    (c.register ref).2.registeredIds = c.registeredIds ++ [(c.replica ref).id] := by
  obtain ⟨-, hregistry, hcalled, -⟩ := register_of_free h
  rw [registeredIds, hregistry, hcalled.ids_eq, Fleet.ids_append]
  rfl

/-- To register somebody whose id is no slot's leaves the slots paired. -/
theorem Paired.register (h : c.Paired ids) (hholds : c.fleet.Holds ref)
    (hother : (c.replica ref).id ∉ ids) : (c.register ref).2.Paired ids := by
  have hsturdy : (c.register ref).2.Sturdy := h.sturdy.told (register_tells hholds).2
  have hhealing : (c.register ref).2.healing = c.healing := (register_frame ref).2.1
  -- if the id is taken the registration is refused, and nothing happens
  by_cases htaken : (c.replica ref).id ∈ c.registeredIds
  · obtain ⟨lines, heq⟩ := register_of_taken htaken
    rw [heq] at hsturdy ⊢
    exact ⟨hsturdy, h.slotIds, h.distinct, h.used_iff, h.asked⟩
  · obtain ⟨-, -, -, hregistrations⟩ := register_of_free htaken
    refine ⟨hsturdy, by rw [hhealing, h.slotIds], h.distinct, fun id hid ↦ ?_, ?_⟩
    · have hne : id ≠ (c.replica ref).id := fun heq ↦ hother (heq ▸ hid)
      rw [hhealing, registeredIds_register htaken, List.mem_append, List.mem_singleton,
        or_iff_left hne]
      exact h.used_iff id hid
    · rw [hregistrations, hhealing, List.filter_append,
        List.filter_cons_of_neg (by simpa using hother)]
      rw [List.filter_nil, List.append_nil]
      exact h.asked

/-- Who is unregistered leaves the registry; receivers and slots stay. -/
theorem unregister_of_found {id : String} (h : c.registered? id = some ref) :
    (c.unregister id).2.fleet = c.fleet ∧
    (c.unregister id).2.coordinator.registry = c.coordinator.registry.erase ref ∧
    (c.unregister id).2.healing = c.healing ∧
    (c.unregister id).2.registrations = c.registrations := by
  obtain ⟨lines, heq⟩ := unregister_of_some h
  rw [heq]
  exact ⟨rfl, rfl, rfl, registrations_publish_of_none rfl⟩

/-- His id is no longer registered. -/
theorem registeredIds_unregister {id : String} (h : c.registered? id = some ref) :
    (c.unregister id).2.registeredIds = c.registeredIds.erase id := by
  obtain ⟨hfleet, hregistry, -, -⟩ := unregister_of_found h
  rw [registeredIds, hfleet, hregistry, Fleet.ids_erase h]
  rfl

/-- To unregister an id that is no slot's leaves the slots paired. -/
theorem Paired.unregister (h : c.Paired ids) {id : String} (hother : id ∉ ids) :
    (c.unregister id).2.Paired ids := by
  cases hfind : c.registered? id with
  | none =>
    rw [unregister_of_none hfind]
    exact h
  | some ref =>
    obtain ⟨-, -, hhealing, hregistrations⟩ := unregister_of_found hfind
    refine ⟨h.sturdy.told (unregister_tells id).2, by rw [hhealing, h.slotIds], h.distinct,
      fun other hmem ↦ ?_, by rw [hregistrations, hhealing, h.asked]⟩
    have hne : other ≠ id := fun heq ↦ hother (heq ▸ hmem)
    rw [hhealing, registeredIds_unregister hfind, List.mem_erase_of_ne hne]
    exact h.used_iff other hmem

/-! ### Giving a slot back -/

/-- A slot that is given up is no registration. -/
theorem registrations_reportAbandoned (abandoned : List Abandonment) :
    (c.reportAbandoned abandoned).registrations = c.registrations :=
  List.foldlRecOn (motive := fun c' : Cluster ↦ c'.registrations = c.registrations) _ _ rfl
    fun _ h _ _ ↦ (registrations_publish_of_none rfl).trans h

/-- What a release of a slot changes: the slots. -/
theorem releaseSlot_frame (id : String) :
    (c.releaseSlot id).healing.slots = (BackupPool.release id c.healing.slots).1 ∧
    (c.releaseSlot id).healing.asked = c.healing.asked ∧
    (c.releaseSlot id).fleet = c.fleet ∧
    (c.releaseSlot id).coordinator.registry = c.coordinator.registry ∧
    (c.releaseSlot id).registrations = c.registrations := by
  have hcore := c.releaseSlot_core id
  exact ⟨congrArg Core.slots hcore, congrArg Core.asked hcore, congrArg Core.fleet hcore,
    congrArg Core.registry hcore, registrations_reportAbandoned _⟩

/-- What taking a receiver off changes: it is retired and off the registry, and its slot is given
back. -/
theorem takenOff_frame (hfind : c.registered? (c.replica ref).id = some ref) :
    (c.takenOff ref).healing.slots = (BackupPool.release (c.replica ref).id c.healing.slots).1 ∧
    (c.takenOff ref).healing.asked = c.healing.asked ∧
    (c.takenOff ref).registrations = c.registrations ∧
    (c.takenOff ref).coordinator.registry = c.coordinator.registry.erase ref ∧
    (c.takenOff ref).registeredIds = c.registeredIds.erase (c.replica ref).id ∧
    c.fleet.Called (c.takenOff ref).fleet ∧
    (c.fleet.Holds ref → ((c.takenOff ref).replica ref).state = .retired) := by
  set id := (c.replica ref).id
  obtain ⟨hfleet, hregistry, hhealing, hregistrations⟩ := unregister_of_found hfind
  have hregistered := registeredIds_unregister hfind
  -- step by step: the unregistration, the retirement, the slot
  set c₁ := (c.unregister id).2
  have hretire : c₁.Aside (c₁.retire ref) := retire_aside ref
  have hcalled : c₁.fleet.Called (c₁.retire ref).fleet := retire_called ref
  set c₂ := c₁.retire ref
  obtain ⟨hslots, hasked, hfleet', hregistry', hregistrations'⟩ := c₂.releaseSlot_frame id
  have hbefore : c₂.registrations = c.registrations := hretire.registrations.trans hregistrations
  rw [hretire.healing, hhealing] at hslots hasked
  refine ⟨hslots, hasked, hregistrations'.trans hbefore, hregistry'.trans hregistry, ?_, ?_,
    fun hholds ↦ ?_⟩
  · show (c₂.releaseSlot id).fleet.ids (c₂.releaseSlot id).coordinator.registry = _
    rw [hfleet', hregistry', hcalled.ids_eq]
    exact hregistered
  · show c.fleet.Called (c₂.releaseSlot id).fleet
    rw [hfleet', ← hfleet]
    exact hcalled
  · show ((c₂.releaseSlot id).fleet.get ref).state = _
    rw [hfleet', show c₂.fleet.get ref = (c₁.replica ref).retire from
      (Fleet.get_set (hfleet ▸ hholds) ref _).trans (if_pos rfl)]
    rfl

/-- **A receiver that is taken off gives its slot back**, so slots and registry are paired again. -/
theorem takenOff_keeps (hfind : c.registered? (c.replica ref).id = some ref) :
    Keeps ids c (c.takenOff ref) := by
  intro h
  obtain ⟨hslots, hasked, hregistrations, hregistry, hregistered, hcalled, hretired⟩ :=
    takenOff_frame hfind
  have htold : c.Told (c.takenOff ref) := (takenOff_tells ref).2
  have hpool : (c.healing.slots.map (·.config.id)).Nodup := h.slotIds ▸ h.distinct
  have hnodup : c.registeredIds.Nodup := h.sturdy.faithful.distinct
  refine ⟨⟨h.sturdy.told htold, ?_, h.distinct, fun id hid ↦ ?_, ?_⟩,
    fun hattended other hother ↦ ?_⟩
  · rw [hslots, BackupPool.ids_release, h.slotIds]
  · rw [hslots, hregistered, BackupPool.mem_inUse_release hpool, h.used_iff id hid,
      hnodup.mem_erase_iff, and_comm]
  · rw [hregistrations, hasked, h.asked]
  · have hbefore := hcalled.holds_iff.1 hother
    rw [hregistry]
    -- the receiver that was taken off is the one that left the registry, and it is retired
    by_cases heq : other = ref
    · subst heq
      exact .inr (hretired hbefore)
    · exact (hattended other hbefore).imp (List.mem_erase_of_ne heq).2 hcalled.retired

/-! ### Taking a slot into use -/

/-- A receiver was taken from its slot and is still to be registered. -/
structure Taken (ids : List String) (ref : ReplicaRef) (c : Cluster) : Prop where
  sturdy : c.Sturdy
  slotIds : c.healing.slots.map (·.config.id) = ids
  distinct : ids.Nodup
  holds : c.fleet.Holds ref
  free : (c.replica ref).id ∉ c.registeredIds
  mem : (c.replica ref).id ∈ ids
  used_iff : ∀ id ∈ ids, id ∈ BackupPool.inUse c.healing.slots ↔
    id ∈ c.registeredIds ∨ id = (c.replica ref).id
  asked : c.registrations.filter (· ∈ ids) ++ [(c.replica ref).id] = c.healing.asked

/-- The registration of a receiver from a slot is not refused, and slots and registry are paired
again. -/
theorem Taken.register (h : c.Taken ids ref) :
    (c.register ref).1 = true ∧ (c.register ref).2.Paired ids := by
  obtain ⟨hanswer, -, -, hregistrations⟩ := register_of_free h.free
  have hhealing : (c.register ref).2.healing = c.healing := (register_frame ref).2.1
  refine ⟨hanswer, h.sturdy.told (register_tells h.holds).2, by rw [hhealing, h.slotIds],
    h.distinct, fun id hid ↦ ?_, ?_⟩
  · rw [hhealing, registeredIds_register h.free, List.mem_append, List.mem_singleton]
    exact h.used_iff id hid
  · rw [hregistrations, hhealing, ← h.asked, List.filter_append,
      List.filter_cons_of_pos (by simpa using h.mem)]
    rfl

/-- What is logged in between does not matter. -/
theorem Taken.write (h : c.Taken ids ref) (lines : List LogLine) : (c.write lines).Taken ids ref :=
  ⟨⟨h.sturdy.holding, h.sturdy.faithful, h.sturdy.stocked⟩, h.slotIds, h.distinct, h.holds, h.free,
    h.mem, h.used_iff, h.asked⟩

/-- Everybody is attended to but a newcomer. -/
def AttendedBut (ref : ReplicaRef) (c : Cluster) : Prop :=
  ∀ other, c.fleet.Holds other →
    other = ref ∨ other ∈ c.coordinator.registry ∨ (c.replica other).state = .retired

/-- Calls leave everybody but the newcomer attended to. -/
theorem AttendedBut.called (h : c.AttendedBut ref)
    (hregistry : c'.coordinator.registry = c.coordinator.registry)
    (hcalled : c.fleet.Called c'.fleet) : c'.AttendedBut ref := by
  intro other hother
  rw [hregistry]
  exact (h other (hcalled.holds_iff.1 hother)).imp_right (Or.imp_right hcalled.retired)

/-- Who is created is the newcomer. -/
theorem Attended.create (h : c.Attended) {r : Replica}
    (hcoordinator : c'.coordinator = c.coordinator) (hfleet : c'.fleet = (c.fleet.add r).2) :
    c'.AttendedBut (c.fleet.add r).1 := by
  intro other hother
  rw [hfleet] at hother
  rw [hcoordinator, replica, hfleet]
  by_cases hold : c.fleet.Holds other
  · rw [Fleet.get_add_of_holds hold]
    exact .inr (h other hold)
  · have hlt : other < (c.fleet.replicas ++ [r]).length := hother
    rw [List.length_append] at hlt
    exact .inl (Nat.le_antisymm (Nat.le_of_lt_succ hlt) (Nat.le_of_not_lt hold))

/-- **Once the newcomer is registered** everybody is attended to. -/
theorem AttendedBut.register (h : c.AttendedBut ref)
    (hfree : (c.replica ref).id ∉ c.registeredIds) :
    (c.register ref).2.Attended := by
  obtain ⟨-, hregistry, hcalled, -⟩ := register_of_free hfree
  intro other hother
  rw [hregistry]
  rcases h other (hcalled.holds_iff.1 hother) with rfl | hlisted | hretired
  · exact .inl (List.mem_append_right _ List.mem_cons_self)
  · exact .inl (List.mem_append_left _ hlisted)
  · exact .inr (hcalled.retired hretired)

/-- A provisioning registers nobody. -/
theorem provision_registrations : c.provision.2.registrations = c.registrations := by
  rcases c.provision_cases with ⟨r, lines, -, heq⟩ | ⟨cause, lines, -, heq⟩ |
    ⟨text, lines, -, heq⟩ <;>
    rw [heq]
  · exact registrations_reportAbandoned _
  · exact registrations_reportAbandoned _
  · rfl

/-- An available slot is not in use, so nobody is registered under its id. -/
theorem Paired.free_of_available (h : c.Paired ids) {front back : List BackupSlot}
    {slot : BackupSlot} (hslots : c.healing.slots = front ++ slot :: back)
    (havailable : slot.state = .available) :
    slot.config.id ∈ ids ∧ slot.config.id ∉ c.registeredIds := by
  have hmem : slot.config.id ∈ ids := by
    rw [← h.slotIds, hslots]
    exact List.mem_map_of_mem (List.mem_append_right _ List.mem_cons_self)
  have hpool : ((front ++ slot :: back).map (·.config.id)).Nodup := by
    rw [← hslots, h.slotIds]
    exact h.distinct
  refine ⟨hmem, ?_⟩
  rw [← h.used_iff _ hmem, hslots]
  exact BackupPool.not_mem_inUse_of_available hpool havailable

/-- **What a provisioning does to paired slots**: it takes a receiver from an available slot, whose
id nobody has registered, or it finds no slot available and leaves everything as it is. -/
theorem Paired.provision_spec (h : c.Paired ids) :
    (∃ ref c', c.provision = (.ok ref, c') ∧ c'.Taken ids ref ∧ (c.Attended → c'.AttendedBut ref) ∧
      (c'.replica ref).id ∉ c.registeredIds ∧
      ∃ slot ∈ c.healing.slots, slot.state = .available ∧ slot.config.id = (c'.replica ref).id) ∨
    ∃ cause c', c.provision = (.error (.refused cause), c') ∧ Keeps ids c c' := by
  obtain ⟨hcalm, hpass⟩ : (∀ text, c.core.nextPass.outcome ≠ .panicked text) ∧
      BackupPool.Pass c.healing.provisioner c.healing.asked c.healing.slots c.core.nextPass.slots
        c.core.nextPass.asked c.core.nextPass.abandoned (BackupPool.yield? c.core.nextPass) :=
    h.sturdy.stocked.pass
  have hsturdy : c.provision.2.Sturdy := h.sturdy.told provision_tells.2
  obtain ⟨hslots, hasked⟩ := provision_slots c
  have hregistrations := provision_registrations (c := c)
  have hcoordinator := provision_coordinator (c := c)
  have hyield := hpass.inMemory h.sturdy.stocked.provisioner
  rcases Cluster.provision_spec c with ⟨r, houtcome, hanswer, hcore⟩ |
    ⟨cause, houtcome, hanswer, hcore⟩ | ⟨text, hpanic, -⟩
  -- a pass in memory delivers the first slot that is available, or nobody
  · rcases hyield with ⟨hnone, -⟩ | ⟨front, slot, back, hbefore, havailable, hafter, hslot, hsome⟩
    · rw [BackupPool.yield?, houtcome] at hnone
      cases hnone
    · rw [BackupPool.yield?, houtcome] at hsome
      have hid : r.id = slot.config.id := congrArg Replica.id (Option.some.inj hsome)
      have hfleet : c.provision.2.fleet = (c.fleet.add r).2 := congrArg Core.fleet hcore
      have hget : c.provision.2.replica (c.fleet.add r).1 = r := by
        rw [replica, hfleet]
        exact Fleet.get_add_self ..
      have hregistered : c.provision.2.registeredIds = c.registeredIds := by
        rw [registeredIds, hfleet, hcoordinator]
        exact Fleet.ids_add h.sturdy.holding r
      have hmem : slot ∈ c.healing.slots := by
        rw [hbefore]
        exact List.mem_append_right _ List.mem_cons_self
      obtain ⟨hslotId, hfree⟩ := h.free_of_available hbefore havailable
      refine .inl ⟨_, c.provision.2, by rw [← hanswer],
        ⟨hsturdy, ?_, h.distinct, ?_, ?_, ?_, ?_, ?_⟩, ?_, ?_, slot, hmem, havailable, ?_⟩
      · rw [hslots, ← h.slotIds, hafter, hbefore]
        simp [BackupSlot.counted]
      · rw [hfleet]
        exact Fleet.holds_add_self r
      · rwa [hget, hid, hregistered]
      · rwa [hget, hid]
      · intro id hmem
        rw [hget, hid, hslots, hafter, hregistered, BackupPool.mem_inUse_counted havailable,
          ← hbefore, h.used_iff id hmem]
      · rw [hregistrations, hasked, hget, hid, hslot, h.asked]
      · exact fun hattended ↦ hattended.create hcoordinator hfleet
      · rwa [hget, hid]
      · rw [hget, hid]
  · rcases hyield with ⟨-, hsame, hnobody⟩ | ⟨_, _, _, _, _, _, _, hsome⟩
    · refine .inr ⟨cause, c.provision.2, by rw [← hanswer], ?_⟩
      rw [hsame] at hslots
      -- nobody was asked, so nothing has changed
      rw [hnobody, List.append_nil] at hasked
      have hfleet : c.provision.2.fleet = c.fleet := congrArg Core.fleet hcore
      have hregistry := congrArg Coordinator.registry hcoordinator
      exact (Quiet.of_called provision_tells.2 hregistry (.of_eq hfleet) hregistrations hslots
        hasked).keeps hregistry (.of_eq hfleet)
    · rw [BackupPool.yield?, houtcome] at hsome
      cases hsome
  · exact absurd hpanic (hcalm text)

/-! ### Recovery and the floor -/

/-- The registration of a receiver that was taken from its slot. -/
theorem Taken.register_keeps (h : c'.Taken ids ref) (hattended : c.Attended → c'.AttendedBut ref) :
    Keeps ids c (c'.register ref).2 :=
  fun _ ↦ ⟨h.register.2, fun hall ↦ (hattended hall).register h.free⟩

/-- Who was registered is registered. -/
theorem Taken.mem_register (h : c.Taken ids ref) :
    (c.replica ref).id ∈ (c.register ref).2.registeredIds := by
  rw [registeredIds_register h.free]
  exact List.mem_append_right _ List.mem_cons_self

/-- What paired slots deliver was taken from one of them. -/
theorem Paired.taken_of_delivered (h : c.Paired ids) (hprovision : c.provision = (.ok ref, c')) :
    c'.Taken ids ref ∧ (c.Attended → c'.AttendedBut ref) := by
  rcases h.provision_spec with ⟨_, _, hdelivered, htaken, hattended, -⟩ | ⟨_, _, hrefused, -⟩
  · rw [hprovision] at hdelivered
    cases hdelivered
    exact ⟨htaken, hattended⟩
  · rw [hprovision] at hrefused
    cases hrefused

/-- A provisioning that fails changes no slot. -/
theorem keeps_of_refused {fault : Fault} (hprovision : c.provision = (.error fault, c')) :
    Keeps ids c c' := by
  intro h
  rcases h.provision_spec with ⟨_, _, hdelivered, -⟩ | ⟨_, _, hrefused, hkeeps⟩
  · rw [hprovision] at hdelivered
    cases hdelivered
  · rw [hprovision] at hrefused
    cases hrefused
    exact hkeeps h

/-- **Recoveries and the floor** leave slots and registry paired. -/
theorem recoveryRespects_keeps : RecoveryRespects (Keeps ids) where
  refl := .refl
  trans := .trans
  write _ _ := keeps_of_eq rfl rfl rfl
  restarted _ := keeps_of_eq rfl rfl rfl
  replaced _ := keeps_of_eq rfl rfl rfl
  tellRecovered _ _ := publish_keeps trivial
  tellReplaced _ _ _ := publish_keeps trivial
  tellFailure _ _ _ := publish_keeps trivial
  recover _ ref := (recover_aside ref).keeps (recover_called ref)
  restore _ ref := (restoreFromBestPeer_aside ref).keeps (restoreFromBestPeer_called ref)
  takenOff := takenOff_keeps
  refused := keeps_of_refused
  delivered lines hprovision h :=
    have hdelivered := h.taken_of_delivered hprovision
    (hdelivered.1.write lines).register_keeps hdelivered.2 h

/-- The receiver that takes over is registered. -/
theorem Paired.mem_of_replaced (h : c.Paired ids)
    (hfind : c.registered? (c.replica ref).id = some ref) {id : String}
    (hanswer : (c.replace ref).1 = .ok (.replaced id)) :
    id ∈ (c.replace ref).2.registeredIds := by
  have htaken : (c.takenOff ref).Paired ids := (takenOff_keeps hfind h).1
  rcases htaken.provision_spec with ⟨new, c', hprovision, hnew, -⟩ | ⟨cause, c', hprovision, -⟩
  · obtain ⟨lines, heq⟩ := replace_of_delivered hprovision
    rw [heq] at hanswer ⊢
    cases hanswer
    exact hnew.mem_register
  · rw [replace_of_refused hprovision] at hanswer
    cases hanswer

/-- **A recovery** starts the receiver again or replaces it. -/
theorem Paired.recoverReceiver (h : c.Paired ids) (id : String) :
    Keeps ids c (c.recoverReceiver id).2 ∧
      ∀ other, (c.recoverReceiver id).1 = .ok (.replaced other) →
        other ∈ (c.recoverReceiver id).2.registeredIds := by
  refine ⟨recoveryRespects_keeps.recoverReceiver c id, fun other hanswer ↦ ?_⟩
  rcases c.recoverReceiver_cases id with heq | heq |
    ⟨ref, hfind, -, ⟨_, lines, -, heq⟩ | ⟨lines, heq⟩⟩ <;>
    rw [heq] at hanswer ⊢
  · cases hanswer
  · cases hanswer
  · cases hanswer
  · obtain ⟨-, rfl⟩ : ref ∈ c.coordinator.registry ∧ (c.replica ref).id = id :=
      Fleet.mem_of_find? hfind
    have hwritten : (c.write lines).Paired ids := (recoveryRespects_keeps.write c lines h).1
    exact hwritten.mem_of_replaced hfind hanswer

/-- **Filling up** registers every receiver that it counts. -/
theorem Paired.fillUp (h : c.Paired ids) (floor rounds added : Nat) :
    Keeps ids c (fillUp floor rounds added c).2 ∧
      ∀ n, (fillUp floor rounds added c).1 = .ok n →
        (fillUp floor rounds added c).2.registeredIds.length + added =
          c.registeredIds.length + n := by
  refine ⟨recoveryRespects_keeps.fillUp c floor rounds added, fun n hn ↦ ?_⟩
  induction rounds generalizing c added with
  | zero => rw [← Except.ok.inj hn]; rfl
  | succ rounds ih =>
    -- each round registers exactly the one receiver that it counts
    by_cases hreached : floor ≤ c.runningCount + c.healing.pending.length
    · rw [fillUp_of_reached _ hreached] at hn ⊢
      rw [← Except.ok.inj hn]
    · have hcoordinator := provision_coordinator (c := c)
      rcases h.provision_spec with ⟨ref, c', hprovision, hnew, -⟩ | ⟨cause, c', hprovision, -⟩ <;>
        rw [hprovision] at hcoordinator
      · obtain ⟨lines, heq⟩ := fillUp_of_delivered hreached hprovision
        rw [heq] at hn ⊢
        have hwritten : (c'.write lines).Taken ids ref := hnew.write lines
        have hlength : ((c'.write lines).register ref).2.registeredIds.length =
            c.registeredIds.length + 1 := by
          rw [registeredIds_register hwritten.free, List.length_append, length_registeredIds,
            length_registeredIds,
            show (c'.write lines).coordinator = c.coordinator from hcoordinator]
          rfl
        have hsum := ih hwritten.register.2 (added + 1) hn
        omega
      · obtain ⟨lines, heq⟩ := fillUp_of_refused hreached hprovision
        rw [heq] at hn ⊢
        rw [← Except.ok.inj hn]
        show c'.registeredIds.length + added = _
        rw [length_registeredIds, length_registeredIds, hcoordinator]

end Cluster

end SensorCluster
