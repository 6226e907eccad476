import SensorCluster.Proofs.Aside
import SensorCluster.Proofs.Chronicle
import SensorCluster.Proofs.Docket
import SensorCluster.Proofs.HealingOperations

/-!
# Operations as entries

Each operation of a cluster makes entries in its chronicle: `Told` says so, and there is one lemma
for each operation. **No operation changes a registry or counts a message without telling of it, and
none tells of what it did not do.** The branches that look dangerous are the quiet ones: a receiver
whose id is taken, an unregistration that finds nobody, a sensor that was forgotten already, a
replacement that ends half way.

Most operations also leave the `Docket` alone, the tasks that wait with the marks of the recoveries
under way; they are said to `Tells`. The others, which schedule and finish tasks, only rely on being
told.

The lemmas go along the calls. All they need to know of a cluster is that its registered receivers
exist (`Holding`); whether the replication looks after them does not matter.
-/

namespace SensorCluster

/-- Is nothing kept of the event but the event? -/
def Event.IsRemark : Event → Prop
  | .receiverFailure _ _ | .receiverRecovered _ | .receiverReplaced _ _ | .recoveryExhausted _ _ =>
    True
  | _ => False

/-- A remark is entered as it is. -/
theorem Chronicle.Entry.remark (k : Chronicle) {e : Event} (h : e.IsRemark) :
    Entry k (k.tell e) := by
  have henter : k.enter e = k.tell e ∧ k.Admits e := by
    cases e with
    | receiverFailure | receiverRecovered | receiverReplaced | recoveryExhausted =>
      exact ⟨rfl, trivial⟩
    | _ => exact absurd h id
  rw [← henter.1]
  exact .enter henter.2

/-- Who knows the same sensors is no other chronicle. -/
theorem Chronicle.eq_of_knows (k : Chronicle) {knows : String → Bool}
    (h : ∀ sensor, knows sensor = k.knows sensor) : { k with knows } = k :=
  congrArg (fun knows ↦ { k with knows }) (funext h)

open Chronicle (Entry Entries)

namespace Cluster

variable {c c' c'' : Cluster}

/-! ### What is told and what is to be done -/

/-- The chronicle of a cluster. -/
def chronicle (c : Cluster) : Chronicle where
  receivers := c.fleet.ids c.coordinator.registry
  knows sensor := (c.coordinator.sensors.get? sensor).isSome
  totalMessages := c.coordinator.totalMessages
  failedRoutes := c.coordinator.failedRoutes
  events := c.bus.published.toList
  provisioner := c.healing.provisioner
  slots := c.healing.slots
  asked := c.healing.asked

/-- The registered receivers exist. -/
def Holding (c : Cluster) : Prop := ∀ ref ∈ c.coordinator.registry, c.fleet.Holds ref

/-- The chronicle of the second cluster comes from that of the first by entries. -/
def Told (c c' : Cluster) : Prop := c.Holding → c'.Holding ∧ Entries c.chronicle c'.chronicle

/-- The docket of a cluster. -/
def docket (c : Cluster) : Docket :=
  ⟨c.agenda, c.healing.pending, c.healing.counters.recoveriesScheduled⟩

/-- What happens is told, and nothing is scheduled or finished. -/
def Tells (c c' : Cluster) : Prop := c'.docket = c.docket ∧ c.Told c'

theorem Told.refl (c : Cluster) : c.Told c := fun h ↦ ⟨h, .refl⟩

/-- What is told first stays told. -/
theorem Told.trans (h : c.Told c') (h' : c'.Told c'') : c.Told c'' := by
  intro hholding
  obtain ⟨hholding', hentries⟩ := h hholding
  obtain ⟨hholding'', hentries'⟩ := h' hholding'
  exact ⟨hholding'', hentries.trans hentries'⟩

theorem Tells.refl (c : Cluster) : c.Tells c := ⟨rfl, .refl c⟩

/-- Operations that tell, one after the other, tell. -/
theorem Tells.trans (h : c.Tells c') (h' : c'.Tells c'') : c.Tells c'' :=
  ⟨h'.1.trans h.1, h.2.trans h'.2⟩

theorem Tells.agenda (h : c.Tells c') : c'.agenda = c.agenda := congrArg Docket.agenda h.1

theorem Tells.pending (h : c.Tells c') : c'.healing.pending = c.healing.pending :=
  congrArg Docket.pending h.1

/-! ### Operations on receivers -/

/-- Operations on receivers lose none of the registered ones. -/
theorem Aside.holding (h : c.Aside c') (hholding : c.Holding) : c'.Holding := by
  intro ref href
  rw [h.coordinator] at href
  exact (h.grows ref (hholding ref href)).1

/-- Nobody is renamed, so nothing is to be told. -/
theorem Aside.chronicle (h : c.Aside c') (hholding : c.Holding) : c'.chronicle = c.chronicle := by
  have hids : c'.fleet.ids c.coordinator.registry = c.fleet.ids c.coordinator.registry :=
    List.map_congr_left fun ref href ↦ (h.grows ref (hholding ref href)).2
  rw [Cluster.chronicle, h.coordinator, hids, h.healing, h.bus]
  rfl

/-- Nothing is scheduled by an operation on receivers alone, -/
theorem Aside.docket (h : c.Aside c') : c'.docket = c.docket := by
  rw [Cluster.docket, h.agenda, h.healing]
  rfl

/-- and there is nothing to tell of. -/
theorem Aside.tells (h : c.Aside c') : c.Tells c' :=
  ⟨h.docket, fun hholding ↦ ⟨h.holding hholding, by rw [h.chronicle hholding]⟩⟩

/-! ### Events -/

/-- A published event is the last one in the chronicle. -/
theorem chronicle_publish (e : Event) : (c.publish e).chronicle = c.chronicle.tell e := by
  show { c.chronicle with events := (c.publish e).bus.published.toList } = _
  rw [published_publish]
  rfl

/-- An event is published when what it tells of was done. -/
theorem Told.publish {e : Event} (hholding : c.Holding → c'.Holding)
    (hadmits : c.chronicle.Admits e) (h : c.Holding → c'.chronicle.tell e = c.chronicle.enter e) :
    c.Told (c'.publish e) := by
  intro hholds
  refine ⟨hholding hholds, .single ?_⟩
  rw [chronicle_publish, h hholds]
  exact .enter hadmits

/-- A remark may be published at any time. -/
theorem publish_tells {e : Event} (h : e.IsRemark) : c.Tells (c.publish e) := by
  refine ⟨rfl, fun hholding ↦ ⟨hholding, .single ?_⟩⟩
  rw [chronicle_publish]
  exact .remark _ h

/-! ### Membership -/

/-- **A registration is told of** once the receiver is listed; one that is refused is not. -/
theorem register_tells {ref : ReplicaRef} (hholds : c.fleet.Holds ref) :
    c.Tells (c.register ref).2 := by
  obtain ⟨-, lines, heq⟩ | ⟨hnew, lines, heq⟩ := c.register_cases ref <;> rw [heq]
  · -- one of its id is registered
    exact .refl c
  · set c₁ := c.modifyCoordinator fun k ↦ { k with registry := c.coordinator.registry ++ [ref] }
    have hjoin : c₁.Aside (c₁.joinPool ref).2 := joinPool_aside ref
    set c₂ := (c₁.joinPool ref).2
    -- who joins the pool may be restored before he is told of, and keeps his id
    have hid : (c₂.replica ref).id = (c.replica ref).id := (hjoin.grows ref hholds).2
    have hholding : c.Holding → c₁.Holding := by
      intro hholding other hother
      rcases List.mem_append.1 hother with hother | hother
      · exact hholding other hother
      · rwa [List.mem_singleton.1 hother]
    have hlisted : c₁.chronicle =
        { c.chronicle with receivers := c.chronicle.receivers ++ [(c.replica ref).id] } :=
      congrArg (fun receivers ↦ { c.chronicle with receivers }) (Fleet.ids_append _)
    refine ⟨hjoin.docket, Told.publish (fun h ↦ hjoin.holding (hholding h)) ?_ fun h ↦ ?_⟩
    · show (c₂.replica ref).id ∉ c.fleet.ids c.coordinator.registry
      rwa [hid]
    · show c₂.chronicle.tell _ = _
      rw [hjoin.chronicle (hholding h), hlisted, hid]
      rfl

/-- An unregistration is told of, and one that finds nobody is not. -/
theorem unregister_tells (id : String) : c.Tells (c.unregister id).2 := by
  obtain heq | ⟨ref, lines, hfind, heq⟩ := c.unregister_cases id <;> rw [heq]
  · -- nobody of the id is registered
    exact .refl c
  · obtain ⟨href, hid⟩ := Fleet.mem_of_find? hfind
    refine ⟨rfl, Told.publish (fun hholding other hother ↦ ?_) ?_ fun _ ↦ ?_⟩
    · exact hholding other (List.mem_of_mem_erase hother)
    · exact List.mem_map.2 ⟨ref, href, hid⟩
    · exact congrArg (fun receivers ↦ ({ c.chronicle with receivers } : Chronicle).tell _)
        (Fleet.ids_erase hfind)

/-! ### Routing -/

/-- A sender that is tracked is told of when it was not registered. -/
theorem trackSender_chronicle (m : Message) (host : String) (port : UInt16) :
    (c.trackSender m host port).chronicle = c.chronicle ∨
      ∃ info, c.chronicle.knows info.sensor = false ∧
        (c.trackSender m host port).chronicle = c.chronicle.enter (.sensorRegistered info) := by
  have hknown := c.isSome_get?_tracked m host port
  rcases c.trackSender_cases m host port with ⟨hnone, heq⟩ | ⟨info, lines, hnew, heq⟩ <;> rw [heq]
  · refine .inl (c.chronicle.eq_of_knows fun sensor ↦ (hknown sensor).trans ?_)
    rw [hnone, Option.isSome_none, Bool.and_false, Bool.false_or]
    rfl
  · obtain ⟨-, hunknown, rfl⟩ := eq_of_announcement? hnew
    refine .inr ⟨⟨m.sensor, m.sensorType, host, port, c.now.millis, c.now.millis⟩,
      congrArg Option.isSome hunknown, ?_⟩
    rw [chronicle_publish]
    refine congrArg (fun knows ↦ ({ c.chronicle with knows } : Chronicle).tell _)
      (funext fun sensor ↦ (hknown sensor).trans ?_)
    rw [hnew, Option.isSome_some, Bool.and_true]
    rfl

/-- Tracking a sender changes neither receivers nor rosters nor the docket. -/
theorem trackSender_frame (m : Message) (host : String) (port : UInt16) :
    (c.trackSender m host port).fleet = c.fleet ∧
      (c.trackSender m host port).coordinator.registry = c.coordinator.registry ∧
      (c.trackSender m host port).docket = c.docket := by
  rcases c.trackSender_cases m host port with ⟨-, heq⟩ | ⟨info, lines, -, heq⟩ <;> rw [heq] <;>
    exact ⟨rfl, rfl, rfl⟩

/-- A route that failed is counted as one. -/
theorem failRoute_chronicle {k : Chronicle} (hk : c.chronicle = k.count)
    (failed : Option ReplicaRef) : (c.failRoute failed).chronicle = k.countFailed :=
  congrArg (fun k ↦ { k with failedRoutes := k.failedRoutes.increment }) hk

/-- A message that nobody accepted is told of when its failure was counted. -/
theorem routingFailure_entry {k : Chronicle} (hk : c.chronicle = k.countFailed) (m : Message)
    (cause : ClusterError) : Entry k (c.publishRoutingFailure m cause).chronicle := by
  have hentered : (c.publishRoutingFailure m cause).chronicle =
      k.enter (.routingFailed m.id m.sensor cause.message) := by
    rw [publishRoutingFailure, chronicle_publish, hk]
    rfl
  rw [hentered]
  exact .enter trivial

/-- **A route makes one entry at its end**, for the message; before it the sensor may be told of,
and a receiver that refused the message. -/
theorem tryRoute_tells (m : Message) (host : String) (port : UInt16) :
    c.Tells (c.tryRoute m host port).2 := by
  set c₁ := c.handedOver m host port
  obtain ⟨hfleet, hregistry, hdocket⟩ : c₁.fleet = c.fleet ∧
      c₁.coordinator.registry = c.coordinator.registry ∧ c₁.docket = c.docket :=
    trackSender_frame m host port
  have hholding : c.Holding → c₁.Holding := by
    intro hholding ref href
    rw [hfleet]
    exact hholding ref (hregistry ▸ href)
  -- the count is ahead of the events until the message is told of
  obtain ⟨k, hentries, hk⟩ : ∃ k, Entries c.chronicle k ∧ c₁.chronicle = k.count := by
    set counted := c.modifyCoordinator fun k ↦ { k with totalMessages := k.totalMessages.increment }
    rcases counted.trackSender_chronicle m host port with hsame | ⟨info, hnew, htold⟩
    · exact ⟨c.chronicle, .refl, hsame⟩
    · exact ⟨c.chronicle.enter (.sensorRegistered info), .single (.enter hnew), htold⟩
  obtain ⟨c₂, hc₂, hcases⟩ := c.tryRoute_cases m host port
  have hk₂ : c₂.chronicle = k.count := hc₂ ▸ hk
  have hdocket₂ : c₂.docket = c.docket := hc₂ ▸ hdocket
  have hholding₂ : c.Holding → c₂.Holding := hc₂ ▸ hholding
  obtain ⟨-, heq⟩ | ⟨ref, -, ⟨cause, lines, -, heq⟩ | ⟨outcome, r, lines, hprocess, heq⟩⟩ :=
    hcases <;>
    rw [heq]
  · -- nobody is there to take the message
    have hfailed := failRoute_chronicle hk₂ none
    exact ⟨hdocket₂, fun h ↦ ⟨hholding₂ h, hentries.tail (routingFailure_entry hfailed m _)⟩⟩
  · -- the receiver that refused is told of before the message
    refine ⟨hdocket₂, fun h ↦ ⟨hholding₂ h, ?_⟩⟩
    have hremark : Entry k (k.tell (.receiverFailure (some (c₂.replica ref).id) cause.message)) :=
      .remark k trivial
    refine (hentries.tail hremark).tail (routingFailure_entry ?_ m cause)
    rw [chronicle_publish]
    exact congrArg (Chronicle.tell · _) (failRoute_chronicle hk₂ (some ref))
  · have hput := processed_aside hprocess lines
    refine ⟨hput.docket.trans hdocket₂, fun h ↦ ⟨hput.holding (hholding₂ h), hentries.tail ?_⟩⟩
    have hentry : Entry k (k.enter (.messageRouted m.id m.sensor (c₂.replica ref).id)) :=
      .enter trivial
    have hcounted := (hput.chronicle (hholding₂ h)).trans hk₂
    rw [chronicle_publish]
    exact (congrArg (fun k' ↦ Entry k (Chronicle.tell k' _)) hcounted).mpr hentry

/-! ### Sensors -/

/-- A sensor is told to be gone when it was known, or when a record of it was deleted. -/
theorem unregisterSensor_tells (sensor : String) : c.Tells (c.unregisterSensor sensor).2 := by
  have hremoved := c.withdraw_aside sensor
  set c₁ := c.modifyCoordinator fun k ↦ { k with sensors := k.sensors.remove sensor }
  have hforgotten : c₁.chronicle =
      { c.chronicle with knows := fun s ↦ s ≠ sensor && c.chronicle.knows s } :=
    congrArg (fun knows ↦ { c.chronicle with knows })
      (funext fun s ↦ SensorRegistry.isSome_get?_remove ..)
  rcases c.unregisterSensor_cases sensor with ⟨hunknown, -, heq⟩ | ⟨-, lines, heq⟩ <;> rw [heq]
  · -- nothing was known of the sensor, so nothing is forgotten
    refine ⟨hremoved.docket, fun hholding ↦ ⟨hremoved.holding hholding, ?_⟩⟩
    have hsame : (c.withdraw sensor).2.chronicle = c.chronicle := by
      rw [hremoved.chronicle hholding, hforgotten]
      refine c.chronicle.eq_of_knows fun s ↦ ?_
      by_cases heq : s = sensor
      · simp [heq, show c.chronicle.knows sensor = false from congrArg Option.isSome hunknown]
      · simp [heq]
    rw [hsame]
  · refine ⟨hremoved.docket, Told.publish (fun h ↦ hremoved.holding h) trivial fun h ↦ ?_⟩
    show (c.withdraw sensor).2.chronicle.tell _ = _
    rw [hremoved.chronicle h, hforgotten]
    rfl

/-! ### The backup pool -/

/-- Slots that were given up are remarked upon, one by one. -/
theorem reportAbandoned_tells (abandoned : List Abandonment) :
    c.Tells (c.reportAbandoned abandoned) := by
  induction abandoned generalizing c with
  | nil => exact .refl c
  | cons a rest ih =>
    rw [reportAbandoned, List.foldl_cons]
    refine Tells.trans ?_ ih
    have htold : (c.countHealing fun n ↦
        { n with exhaustedSlots := n.exhaustedSlots.increment }).Tells _ :=
      publish_tells (e := .recoveryExhausted a.slot a.attempts) trivial
    exact htold

/-- Whatever becomes of a pass, only slots that were given up are told of. -/
theorem provision_tells : c.Tells c.provision.2 := by
  have hpass : c.Tells c.afterPass :=
    ⟨rfl, fun hholding ↦ ⟨hholding, .single (.tryPool c.chronicle)⟩⟩
  rcases c.provision_cases with ⟨r, lines, -, heq⟩ | ⟨cause, lines, -, heq⟩ |
    ⟨text, lines, -, heq⟩ <;>
    rw [heq]
  · have hcounted : c.Tells ((c.afterPass.write lines).countHealing fun n ↦
        { n with provisioned := n.provisioned.increment }) := hpass
    exact (hcounted.trans (create_aside r).tells).trans (reportAbandoned_tells _)
  · have hwritten : c.Tells (c.afterPass.write lines) := hpass
    exact hwritten.trans (reportAbandoned_tells _)
  · exact hpass

/-- A slot that is given back may be given up. -/
theorem releaseSlot_tells (id : String) : c.Tells (c.releaseSlot id) := by
  have hreleased : c.Tells (c.modifyHealing fun h ↦
      { h with slots := (BackupPool.release id c.healing.slots).1 }) :=
    ⟨rfl, fun hholding ↦ ⟨hholding, .single (.release c.chronicle id)⟩⟩
  exact hreleased.trans (reportAbandoned_tells _)

/-- What was provisioned exists. -/
theorem holds_of_provision {ref : ReplicaRef} (h : c.provision = (.ok ref, c')) :
    c'.fleet.Holds ref := by
  rcases provision_spec c with ⟨r, -, hanswer, hcore⟩ | ⟨cause, -, hanswer, -⟩ |
    ⟨text, -, hanswer, -⟩ <;> rw [h] at hanswer
  · obtain rfl := Except.ok.inj hanswer
    rw [h] at hcore
    rw [show c'.fleet = (c.fleet.add r).2 from congrArg Core.fleet hcore]
    exact Fleet.holds_add_self r
  · cases hanswer
  · cases hanswer

/-! ### Recovery -/

/-- To take a receiver off is told of as an unregistration. -/
theorem takenOff_tells (ref : ReplicaRef) : c.Tells (c.takenOff ref) :=
  ((unregister_tells _).trans (retire_aside ref).tells).trans (releaseSlot_tells _)

/-- **All that a recovery does is told of**, however far it gets. -/
theorem recoveryRespects_tells : RecoveryRespects Tells where
  refl := .refl
  trans := .trans
  write c _ := .refl c
  restarted c := .refl c
  replaced c := .refl c
  tellRecovered _ _ := publish_tells trivial
  tellReplaced _ _ _ := publish_tells trivial
  tellFailure _ _ _ := publish_tells trivial
  recover _ ref := (recover_aside ref).tells
  restore _ ref := (restoreFromBestPeer_aside ref).tells
  takenOff {_ ref} _ := takenOff_tells ref
  refused {c _ _} h := by
    have hprovision : c.Tells c.provision.2 := provision_tells
    rwa [h] at hprovision
  -- who was delivered exists, so he can be registered
  delivered {c c' ref} lines h := by
    have hholds : c'.fleet.Holds ref := holds_of_provision h
    have hprovision : c.Tells c.provision.2 := provision_tells
    rw [h] at hprovision
    exact hprovision.trans (register_tells (c := c'.write lines) hholds)

theorem recoverReceiver_tells (id : String) : c.Tells (c.recoverReceiver id).2 :=
  recoveryRespects_tells.recoverReceiver c id

theorem enforceFloor_tells : c.Tells c.enforceFloor.2 := recoveryRespects_tells.enforceFloor c

/-- A load check tells of an imbalance, if of anything. -/
theorem loadCheck_tells : c.Tells c.loadCheck.2 := by
  rcases c.loadCheck_cases with heq | ⟨lines, flags, heq⟩ <;> rw [heq] <;> exact .refl c

end Cluster

end SensorCluster
