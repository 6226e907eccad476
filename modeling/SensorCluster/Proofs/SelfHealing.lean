import SensorCluster.Proofs.FillingUp
import SensorCluster.Proofs.Flights
import SensorCluster.Proofs.Ward

/-!
# Self-healing

Whatever became of its registered receivers, a node brings itself back: after one health check and
the recoveries that are then in flight, run in any order, **every registered receiver is healthy**
and no recovery is pending (`self_healing`).

## The two halves

* **Nobody's health suffers.** Each operation of the fault tolerance mends the ward, whatever it
  meets, so the order in which they come does not matter.
* **Everybody is covered.** After the health check whoever is not healthy is marked, and each mark
  is that of a recovery in flight (`docket_of_history`). A recovery leaves nobody under its id who
  is not healthy (`Sturdy.recoverReceiver_spec`), so its mark is no longer needed when it is
  cleared.

A recovery that finds nobody under its id, or somebody who is healthy by now, does nothing. One that
cannot replace its receiver takes it off the roster all the same, so it leaves nobody behind either.
-/

namespace SensorCluster

namespace Chronicle

/-- The provisioner is the one in memory, and the slots are within their limits. -/
structure Stocked (k : Chronicle) : Prop where
  provisioner : k.provisioner = .inMemory
  bounded : ∀ slot ∈ k.slots, slot.Bounded

variable {k k' : Chronicle}

/-- The in-memory provisioner does not panic, so going through the pool is a pass. -/
theorem Stocked.pass (h : k.Stocked) :
    (∀ text, (BackupPool.tryEach k.provisioner k.asked none k.slots).outcome ≠ .panicked text) ∧
      BackupPool.Pass k.provisioner k.asked k.slots
        (BackupPool.tryEach k.provisioner k.asked none k.slots).slots
        (BackupPool.tryEach k.provisioner k.asked none k.slots).asked
        (BackupPool.tryEach k.provisioner k.asked none k.slots).abandoned
        (BackupPool.yield? (BackupPool.tryEach k.provisioner k.asked none k.slots)) := by
  refine BackupPool.pass_of_tryEach (fun history slot text ↦ ?_) h.bounded
  rw [h.provisioner]
  exact fun heq ↦ by cases heq

/-- Whatever a step does to the pool, the slots stay within their limits. -/
theorem Stocked.entry (h : k.Stocked) (hentry : Entry k k') : k'.Stocked := by
  cases hentry with
  | @enter e _ => cases e <;> exact ⟨h.provisioner, h.bounded⟩
  | tryPool => exact ⟨h.provisioner, h.pass.2.bounded h.bounded⟩
  | release id => exact ⟨h.provisioner, BackupPool.bounded_release id h.bounded⟩

theorem Stocked.entries (h : k.Stocked) (hentries : Entries k k') : k'.Stocked := by
  induction hentries with
  | refl => exact h
  | tail _ hentry ih => exact ih.entry hentry

end Chronicle

namespace Cluster

variable {c c' : Cluster} {ref : ReplicaRef}

/-- What mending relies on: the registered receivers exist and have distinct ids, and the pool is
stocked. -/
structure Sturdy (c : Cluster) : Prop where
  holding : c.Holding
  faithful : c.chronicle.Faithful
  stocked : c.chronicle.Stocked

/-- Whatever a cluster tells of, what mending relies on stays. -/
theorem Sturdy.told (h : c.Sturdy) (htold : c.Told c') : c'.Sturdy := by
  obtain ⟨hholding, hentries⟩ := htold h.holding
  exact ⟨hholding, h.faithful.entries hentries, h.stocked.entries hentries⟩

/-- The ward of a cluster. -/
def ward (c : Cluster) : Ward := c.core.ward

open Ward (Mends)

/-! ### Receivers and rosters -/

/-- What leaves the slots and the registry alone mends, if nobody who is healthy is touched. -/
theorem Aside.mends (h : c.Aside c')
    (hshell : ∀ ref, (c.replica ref).isHealthy = true →
      (c'.replica ref).shell = (c.replica ref).shell) : c.ward.Mends c'.ward := by
  have hward : c'.ward = { c.ward with fleet := c'.fleet } := by
    show (⟨c'.fleet, c'.coordinator.registry, c'.healing.slots⟩ : Ward) = _
    rw [h.coordinator, h.healing]
    rfl
  rw [hward]
  exact .of_fleet h.grows hshell

/-- A receiver that is down is brought back up, if it can be. -/
theorem recover_mends (hdown : (c.replica ref).isHealthy = false) :
    c.ward.Mends (c.recover ref).2.ward := by
  rw [recover]
  split
  · next r hrecover =>
    refine Mends.set (w := c.ward) hdown ?_
    rw [Replica.recover, Replica.start] at hrecover
    split at hrecover
    · rw [← Except.ok.inj hrecover]
      rfl
    · cases hrecover
  · exact .refl _

/-- Who was brought back up is healthy. -/
theorem isHealthy_of_recover (hholds : c.fleet.Holds ref) (h : c.recover ref = (.ok (), c')) :
    (c'.replica ref).isHealthy = true ∧ c'.coordinator = c.coordinator := by
  rw [recover] at h
  split at h
  · next r hrecover =>
    obtain ⟨-, rfl⟩ := Prod.mk.inj h
    refine ⟨?_, rfl⟩
    rw [Replica.recover, Replica.start] at hrecover
    split at hrecover
    · have hget : (c.fleet.set ref r).get ref = r := by rw [Fleet.get_set hholds, if_pos rfl]
      show ((c.fleet.set ref r).get ref).isHealthy = true
      rw [hget, ← Except.ok.inj hrecover]
      rfl
    · cases hrecover
  · cases (Prod.mk.inj h).1

/-- Whoever is taken off while it is down is nobody whose health could suffer. -/
theorem unregister_mends {id : String} (hfind : c.registered? id = some ref)
    (hdown : (c.replica ref).isHealthy = false) :
    c.ward.Mends (c.unregister id).2.ward ∧
      (c.unregister id).2.fleet = c.fleet ∧
      (c.unregister id).2.fleet.ids (c.unregister id).2.coordinator.registry =
        (c.fleet.ids c.coordinator.registry).erase id := by
  obtain ⟨lines, heq⟩ := unregister_of_some hfind
  rw [heq]
  exact ⟨Mends.erase (w := c.ward) hdown, rfl, Fleet.ids_erase hfind⟩

/-- A receiver that is new, healthy and from the pool is registered, or its id is taken. -/
theorem register_mends {w : Ward} (h : w.Mends c.ward) (hnew : ¬w.fleet.Holds ref)
    (hhealthy : (c.replica ref).isHealthy = true) (hprovisioned : c.ward.Provisioned ref) :
    w.Mends (c.register ref).2.ward := by
  obtain ⟨-, lines, heq⟩ | ⟨-, lines, heq⟩ := c.register_cases ref <;> rw [heq]
  · exact h
  · set c₁ := c.modifyCoordinator fun k ↦ { k with registry := c.coordinator.registry ++ [ref] }
    have hlisted : w.Mends c₁.ward := h.enlist hnew hhealthy hprovisioned
    have hjoined : c₁.ward.Mends (c₁.joinPool ref).2.ward :=
      (joinPool_aside ref).mends fun other _ ↦ joinPool_shell ref other
    exact hlisted.trans hjoined

/-! ### The backup pool -/

/-- A slot may be given back once nobody is registered under its id. -/
theorem releaseSlot_mends {id : String} (h : id ∉ c.fleet.ids c.coordinator.registry) :
    c.ward.Mends (c.releaseSlot id).ward := by
  have hward : (c.releaseSlot id).ward =
      { c.ward with slots := (BackupPool.release id c.healing.slots).1 } :=
    congrArg Core.ward (releaseSlot_core id)
  rw [hward]
  refine .of_slots fun slot hslot _ hid ↦ BackupPool.mem_release ?_ hslot
  rintro rfl
  exact h hid

/-- **What a provisioning does.** It delivers a receiver that is new and healthy and that a slot is
in use by, or it is refused; either way nobody's health suffers. -/
theorem Sturdy.provision_spec (h : c.Sturdy) :
    (∃ ref c', c.provision = (.ok ref, c') ∧ c.ward.Mends c'.ward ∧ ¬c.fleet.Holds ref ∧
      (c'.replica ref).isHealthy = true ∧ c'.ward.Provisioned ref) ∨
    ∃ cause c', c.provision = (.error (.refused cause), c') ∧ c.ward.Mends c'.ward := by
  obtain ⟨hcalm, hpass⟩ : (∀ text, c.core.nextPass.outcome ≠ .panicked text) ∧
      BackupPool.Pass c.healing.provisioner c.healing.asked c.healing.slots c.core.nextPass.slots
        c.core.nextPass.asked c.core.nextPass.abandoned (BackupPool.yield? c.core.nextPass) :=
    h.stocked.pass
  -- The pass does not touch a slot in use, so whoever came from one still has it.
  have htried : c.ward.Mends { c.ward with slots := c.core.nextPass.slots } :=
    .of_slots fun slot hslot huse _ ↦
      hpass.mem_of_ne hslot (by rw [huse]; exact SlotState.noConfusion)
  rcases Cluster.provision_spec c with ⟨r, houtcome, hanswer, hcore⟩ |
    ⟨cause, -, hanswer, hcore⟩ | ⟨text, hpanic, -⟩
  · have hward : c.provision.2.ward =
        ⟨(c.fleet.add r).2, c.coordinator.registry, c.core.nextPass.slots⟩ :=
      congrArg Core.ward hcore
    have hget : c.provision.2.ward.fleet.get (c.fleet.add r).1 = r := by
      rw [hward]
      exact Fleet.get_add_self ..
    have hyield : BackupPool.yield? c.core.nextPass = some r := by
      rw [BackupPool.yield?, houtcome]
    rw [hyield] at hpass
    obtain ⟨before, slot, -, -, ⟨lines, hdelivered⟩, huse⟩ := hpass.delivered_last
    rw [show c.healing.provisioner = .inMemory from h.stocked.provisioner] at hdelivered
    obtain rfl := delivered_inMemory hdelivered
    refine .inl ⟨_, c.provision.2, by rw [← hanswer], ?_, ?_, ?_, ?_⟩
    · rw [hward]
      exact htried.trans (.create _ _)
    · exact Nat.lt_irrefl _
    · exact congrArg Replica.isHealthy hget
    · refine ⟨_, by rw [hward]; exact huse, rfl, ?_, ?_⟩ <;> rw [hget] <;> rfl
  · have hward : c.provision.2.ward = { c.ward with slots := c.core.nextPass.slots } :=
      congrArg Core.ward hcore
    refine .inr ⟨cause, c.provision.2, by rw [← hanswer], ?_⟩
    rw [hward]
    exact htried
  · exact absurd hpanic (hcalm text)

/-! ### Recovery -/

/-- When a receiver that is down is taken off, nobody is registered under its id any more. -/
theorem Sturdy.takenOff_spec (h : c.Sturdy) {id : String} (hfind : c.registered? id = some ref)
    (hdown : (c.replica ref).isHealthy = false) :
    (c.takenOff ref).Sturdy ∧ c.ward.Mends (c.takenOff ref).ward ∧
      id ∉ (c.takenOff ref).chronicle.receivers := by
  obtain ⟨-, rfl⟩ : ref ∈ c.coordinator.registry ∧ (c.replica ref).id = id :=
    Fleet.mem_of_find? hfind
  rw [takenOff]
  set id := (c.replica ref).id
  obtain ⟨hleft, hfleet, hids⟩ := unregister_mends hfind hdown
  have hunregister : c.Tells (c.unregister id).2 := unregister_tells id
  set c₁ := (c.unregister id).2
  have hsturdy : c₁.Sturdy := h.told hunregister.2
  have hretire : c₁.Aside (c₁.retire ref) := retire_aside ref
  have hretired : c₁.ward.Mends (c₁.retire ref).ward := by
    refine Mends.set (w := c₁.ward) ?_ rfl
    show (c₁.fleet.get ref).isHealthy = false
    rwa [hfleet]
  set c₂ := c₁.retire ref
  -- Ids are distinct, so with one registration the id itself is gone.
  have hnone : id ∉ c₂.chronicle.receivers := by
    rw [hretire.chronicle hsturdy.holding]
    show id ∉ c₁.fleet.ids c₁.coordinator.registry
    rw [hids]
    exact h.faithful.distinct.not_mem_erase
  refine ⟨hsturdy.told (hretire.tells.trans (releaseSlot_tells id)).2,
    (hleft.trans hretired).trans (releaseSlot_mends hnone), ?_⟩
  have hreceivers : (c₂.releaseSlot id).chronicle.receivers = c₂.chronicle.receivers :=
    congrArg (fun k : Core ↦ k.fleet.ids k.registry) (releaseSlot_core id)
  rwa [hreceivers]

/-- **A replacement** takes the receiver off the roster, so whoever is registered under its id
afterwards is another one, and healthy. -/
theorem Sturdy.replace_spec (h : c.Sturdy) {id : String} (hfind : c.registered? id = some ref)
    (hdown : (c.replica ref).isHealthy = false) :
    c.ward.Mends (c.replace ref).2.ward ∧ (c.replace ref).2.ward.Well id := by
  obtain ⟨hsturdy, hbefore, hfree⟩ := h.takenOff_spec hfind hdown
  have hrest : (c.takenOff ref).ward.Mends (c.replace ref).2.ward := by
    obtain ⟨new, c', hprovision, hmends, hnew, hhealthy, hprovisioned⟩ |
        ⟨cause, c', hprovision, hmends⟩ := hsturdy.provision_spec
    · obtain ⟨lines, heq⟩ := replace_of_delivered hprovision
      rw [heq]
      have hregister : (c.takenOff ref).ward.Mends (c'.register new).2.ward :=
        register_mends hmends hnew hhealthy hprovisioned
      exact hregister
    · rw [replace_of_refused hprovision]
      exact hmends
  exact ⟨hbefore.trans hrest, hrest.well hsturdy.holding hfree⟩

/-- **A recovery mends**, and it leaves nobody under its id who is not healthy. -/
theorem Sturdy.recoverReceiver_spec (h : c.Sturdy) (id : String) :
    c.ward.Mends (c.recoverReceiver id).2.ward ∧ (c.recoverReceiver id).2.ward.Well id := by
  cases hfind : c.registered? id with
  | none =>
    rw [recoverReceiver_of_none hfind]
    refine ⟨.refl _, fun ref href hid ↦ ?_⟩
    have hother : ¬(c.fleet.get ref).id = id := by simpa using List.find?_eq_none.1 hfind ref href
    exact absurd hid hother
  | some ref =>
    obtain ⟨href, hid⟩ : ref ∈ c.coordinator.registry ∧ (c.replica ref).id = id :=
      Fleet.mem_of_find? hfind
    -- the ids are distinct, so nobody else is registered under this one
    have honly : ∀ other ∈ c.coordinator.registry, (c.replica other).id = id → other = ref :=
      fun other hother heq ↦
        Fleet.eq_of_id_eq h.faithful.distinct hother href (heq.trans hid.symm)
    cases hdown : (c.replica ref).isHealthy with
    | true =>
      rw [recoverReceiver_of_healthy hfind hdown]
      refine ⟨.refl _, fun other hother heq ↦ ?_⟩
      obtain rfl := honly other hother heq
      exact hdown
    | false =>
      rcases hstart : c.recover ref with ⟨cause | _, c₁⟩
      · obtain ⟨lines, heq⟩ := recoverReceiver_of_refusal hfind hdown hstart
        rw [heq]
        -- the line about it changes nothing that a replacement depends on
        exact Sturdy.replace_spec (c := c.write _) ⟨h.holding, h.faithful, h.stocked⟩ hfind hdown
      · obtain ⟨lines, heq⟩ := recoverReceiver_of_restart hfind hdown hstart
        rw [heq]
        have hmends : c.ward.Mends (c.recover ref).2.ward := recover_mends hdown
        obtain ⟨hup, hcoordinator⟩ := isHealthy_of_recover (h.holding ref href) hstart
        rw [hstart] at hmends
        set c₂ := c₁.countHealing fun n ↦ { n with restarts := n.restarts.increment }
        have hrestored : c₂.Aside (c₂.restoreFromBestPeer ref).2 := restoreFromBestPeer_aside ref
        have hshell := restoreFromBestPeer_shell (c := c₂) ref
        have hwhole : c.ward.Mends (c₂.restoreFromBestPeer ref).2.ward :=
          hmends.trans (hrestored.mends fun other _ ↦ hshell other)
        refine ⟨hwhole, fun other hother hother_id ↦ ?_⟩
        have hlisted : other ∈ c.coordinator.registry := by
          have hsame := hrestored.coordinator.trans hcoordinator
          exact hsame ▸ hother
        have hname := (hwhole.grows other (h.holding other hlisted)).2
        obtain rfl := honly other hlisted (hname.symm.trans hother_id)
        exact (Replica.isHealthy_of_shell (hshell other)).trans hup

/-! ### The health check -/

/-- Filling up comes to an end, and it adds nobody but healthy receivers from the pool. -/
theorem Sturdy.fillUp_spec (h : c.Sturdy) (floor rounds added : Nat) :
    (∃ n, (fillUp floor rounds added c).1 = .ok n) ∧
      c.ward.Mends (fillUp floor rounds added c).2.ward := by
  induction rounds generalizing c added with
  | zero => exact ⟨⟨added, rfl⟩, .refl _⟩
  | succ rounds ih =>
    by_cases hreached : floor ≤ c.runningCount + c.healing.pending.length
    · rw [fillUp_of_reached _ hreached]
      exact ⟨⟨added, rfl⟩, .refl _⟩
    -- A round delivers a healthy receiver and registers it, or ends the filling up.
    · rcases h.provision_spec with ⟨ref, c₁, hprovision, hmends, hnew, hhealthy, hprovisioned⟩ |
        ⟨cause, c₁, hprovision, hmends⟩
      · obtain ⟨lines, heq⟩ := fillUp_of_delivered hreached hprovision
        have htold : c.Tells c.provision.2 := provision_tells
        rw [hprovision] at htold
        have hholds : c₁.fleet.Holds ref := holds_of_provision hprovision
        have hsturdy : ((c₁.write lines).register ref).2.Sturdy :=
          h.told (htold.trans (register_tells (c := c₁.write lines) hholds)).2
        have hregistered : c.ward.Mends ((c₁.write lines).register ref).2.ward :=
          register_mends (c := c₁.write lines) hmends hnew hhealthy hprovisioned
        obtain ⟨hanswer, hrest⟩ := ih hsturdy (added + 1)
        rw [heq]
        exact ⟨hanswer, hregistered.trans hrest⟩
      · obtain ⟨lines, heq⟩ := fillUp_of_refused hreached hprovision
        rw [heq]
        exact ⟨⟨added, rfl⟩, hmends⟩

theorem scheduleRecovery_ward (id : String) : (c.scheduleRecovery id).2.ward = c.ward := by
  rcases c.scheduleRecovery_cases id with ⟨-, lines, heq⟩ | ⟨-, lines, heq⟩ <;> rw [heq] <;> rfl

theorem scheduleRecoveries_ward (scheduled : Nat) (ids : List String) :
    (c.scheduleRecoveries scheduled ids).2.ward = c.ward :=
  scheduleRecoveries_respects (R := fun c c' ↦ c'.ward = c.ward) (fun _ ↦ rfl)
    (fun h h' ↦ h'.trans h) (fun _ id ↦ scheduleRecovery_ward id) c scheduled ids

/-- Marks and tasks are nothing that mending relies on. -/
theorem Sturdy.afterScheduling (h : c.Sturdy) : c.afterScheduling.Sturdy :=
  h.told (nodeRespects_told.afterScheduling c)

/-- **A health check** comes to an end and mends, and afterwards everybody is covered by the
marks. -/
theorem Sturdy.healthCheck_spec (h : c.Sturdy) :
    (∃ report, c.healthCheck.1 = .ok report) ∧ c.ward.Mends c.healthCheck.2.ward ∧
      c.healthCheck.2.ward.Covered c.healthCheck.2.healing.pending := by
  have hsturdy : c.afterScheduling.Sturdy := h.afterScheduling
  obtain ⟨⟨n, hanswer⟩, hmends⟩ := hsturdy.fillUp_spec
    c.afterScheduling.healing.config.minHealthyReceivers.toNat
    (c.afterScheduling.healing.slots.length + 1) 0
  obtain ⟨hcheck, hreport⟩ := Cluster.healthCheck_spec c
  have hward : c.afterScheduling.ward = c.ward := scheduleRecoveries_ward 0 _
  have hcovered : c.afterScheduling.ward.Covered c.afterScheduling.healing.pending := by
    intro ref href
    rw [hward] at href ⊢
    cases hhealthy : (c.replica ref).isHealthy with
    | true => exact .inl hhealthy
    | false =>
      -- Whoever is not healthy got a mark just now, or had one.
      refine .inr (((afterScheduling_frame c).2.2 _).2 (.inr ?_))
      exact mem_unhealthyIds.2 ⟨ref, href, hhealthy, rfl⟩
  rw [hcheck]
  refine ⟨hreport n hanswer, hward ▸ hmends, ?_⟩
  rw [enforceFloor_tells.pending]
  exact hcovered.mends hsturdy.holding hmends

/-! ### The recoveries -/

/-- The task of a recovery mends, and whoever is registered under its id afterwards is healthy. -/
theorem Sturdy.runTask_spec (h : c.Sturdy) (htidy : c.docket.Tidy) {n : Nat} {id : String}
    (hmem : (n, id) ∈ c.docket.recoveries) :
    c.ward.Mends (host.runTask c n).ward ∧ (host.runTask c n).ward.Well id := by
  obtain ⟨t, ht, hid⟩ := mem_recoveriesAmong.1 hmem
  have htask : (host.agenda c).task? n = some t := Agenda.task?_eq_some ht htidy.numbers
  set c₁ : Cluster := { c with agenda := c.agenda.update n Agenda.afterRun }
  have hsturdy : c₁.Sturdy := ⟨h.holding, h.faithful, h.stocked⟩
  have hrun : (c₁.runRecovery id).2.ward = (c₁.recoverReceiver id).2.ward := by
    obtain ⟨lines, heq⟩ := c₁.runRecovery_eq id
    rw [heq]
    rfl
  have hward : (host.runTask c n).ward = (c₁.recoverReceiver id).2.ward := by
    rw [Host.runTask, htask]
    dsimp only
    rw [Duty.recovers?_eq_some hid]
    exact hrun
  rw [hward]
  exact hsturdy.recoverReceiver_spec id

/-- **All recoveries in flight, in any order.** When everybody is covered and each mark is that of a
recovery in flight, then in the end everybody is healthy and nothing is pending. -/
theorem Sturdy.runAll_spec (h : c.Sturdy) (htidy : c.docket.Tidy) (hmatched : c.docket.Matched [])
    (hcovered : c.ward.Covered c.healing.pending) {order : List Nat}
    (horder : order.Perm (c.docket.recoveries.map (·.1))) :
    let c' := order.foldl host.runTask c
    c.ward.Mends c'.ward ∧ c'.healing.pending = [] ∧ c'.docket.recoveries = [] ∧
      ∀ ref ∈ c'.coordinator.registry, (c'.replica ref).isHealthy = true := by
  induction order generalizing c with
  | nil =>
    have hnone : c.docket.recoveries = [] := List.map_eq_nil_iff.1 horder.symm.eq_nil
    have hpending : c.healing.pending = [] := by
      have hmarks := hmatched.marks
      rw [Docket.inFlight, hnone] at hmarks
      exact hmarks.eq_nil
    refine ⟨.refl _, hpending, hnone, fun ref href ↦ (hcovered ref href).resolve_right ?_⟩
    rw [hpending]
    exact List.not_mem_nil
  | cons n rest ih =>
    obtain ⟨id, hmem⟩ : ∃ id, (n, id) ∈ c.docket.recoveries := by
      obtain ⟨⟨m, id⟩, hmem, rfl⟩ := List.mem_map.1 (horder.mem_iff.1 List.mem_cons_self)
      exact ⟨id, hmem⟩
    obtain ⟨hmends, hhealthy⟩ := h.runTask_spec htidy hmem
    obtain ⟨hstep, hpending, hrecoveries⟩ := runTask_recover htidy hmem
    have hsturdy : (host.runTask c n).Sturdy := h.told (nodeRespects_told.host.runTask c n)
    set c₁ := host.runTask c n
    have hmatched₁ : c₁.docket.Matched [] := hmatched.step htidy hstep
    -- This recovery clears its own mark, and whoever has its id is healthy now. All others keep
    -- theirs.
    have hcovered₁ : c₁.ward.Covered c₁.healing.pending := by
      intro ref href
      rcases hcovered.mends h.holding hmends ref href with hup | hmarked
      · exact .inl hup
      · by_cases hid : (c₁.ward.fleet.get ref).id = id
        · exact .inl (hhealthy ref href hid)
        · rw [hpending]
          exact .inr (List.mem_filter.2 ⟨hmarked, by simpa using hid⟩)
    -- The numbers are distinct, so what is left in flight are the other ones.
    have hrest : rest.Perm (c₁.docket.recoveries.map (·.1)) := by
      obtain ⟨hfirst, -⟩ := List.nodup_cons.1 (horder.nodup_iff.2 htidy.numbers_recoveries)
      have hothers : (n :: rest).filter (· ≠ n) = rest := by
        rw [List.filter_cons_of_neg (by simp)]
        refine List.filter_eq_self.2 fun m hm ↦ ?_
        simpa using fun heq : m = n ↦ hfirst (heq ▸ hm)
      have hleft := horder.filter (· ≠ n)
      rw [hothers, List.filter_map] at hleft
      rw [hrecoveries]
      exact hleft
    obtain ⟨hmends', hdone⟩ := ih hsturdy (htidy.step hstep) hmatched₁ hcovered₁ hrest
    exact ⟨hmends.trans hmends', hdone⟩

/-! ### Nodes from valid configurations -/

/-- A new cluster with a valid pool and the in-memory provisioner is sturdy. -/
theorem new_sturdy {config : Config} {sink : SnapshotSink} {now : WallTime}
    (hattempts : ∀ slot ∈ config.faultTolerance.backupPool, 1 ≤ slot.maxAttempts) :
    (new config sink .inMemory now).Sturdy := by
  obtain ⟨hholding, hfaithful⟩ := new_faithful config sink .inMemory now
  refine ⟨hholding, hfaithful, rfl, fun slot hslot ↦ ?_⟩
  obtain ⟨slotConfig, hmem, rfl⟩ := List.mem_map.1 hslot
  exact BackupSlot.bounded_fresh (hattempts slotConfig hmem)

/-- Whatever happens to a node that was built from a valid configuration, it is sturdy. -/
theorem sturdy_of_ofConfig {config : Config} {now : WallTime} {c₀ : Cluster}
    (h : ofConfig config now = .ok c₀) (history : List Happening) :
    (c₀.undergoAll history).Sturdy := by
  obtain ⟨hvalid, -⟩ : config.validate = .ok () ∧
      (new config .discard .inMemory now).Reaches c₀ := ofConfig_spec (fun _ _ ↦ trivial) h
  obtain ⟨-, hattempts⟩ := Config.slots_of_validate hvalid
  obtain ⟨before, rfl⟩ := exists_history_ofConfig h
  rw [← undergoAll_append]
  exact (new_sturdy hattempts).told (undergoAll_told _)

/-- **Self-healing.** Let a node be built from a valid configuration, and let anything happen to it
but a shutdown of the fault tolerance. Then a health check comes to its end, and when all recoveries
that are in flight afterwards have run, in any order,

* every registered receiver is healthy, and neither a mark nor a recovery is left;
* whoever was healthy before is in the same state, attached as before, and as registered as before;
* whoever is registered was registered before, or is new and was taken from a slot of the pool. -/
theorem self_healing {config : Config} {now : WallTime} {c₀ : Cluster}
    (h : ofConfig config now = .ok c₀) (history : List Happening)
    (hopen : (c₀.undergoAll history).agenda.isShutDown healingGroup = false) {order : List Nat}
    (horder : order.Perm
      ((c₀.undergoAll history).healthCheck.2.docket.recoveries.map (·.1))) :
    let c := c₀.undergoAll history
    let c' := order.foldl host.runTask c.healthCheck.2
    (∃ report, c.healthCheck.1 = .ok report) ∧
    (∀ ref ∈ c'.coordinator.registry, (c'.replica ref).isHealthy = true) ∧
    c'.healing.pending = [] ∧ c'.docket.recoveries = [] ∧
    (∀ ref, (c.replica ref).isHealthy = true →
      (c'.replica ref).state = (c.replica ref).state ∧
      (c'.replica ref).inbound = (c.replica ref).inbound ∧
      (ref ∈ c.coordinator.registry → ref ∈ c'.coordinator.registry)) ∧
    ∀ ref ∈ c'.coordinator.registry, ref ∈ c.coordinator.registry ∨
      ¬c.fleet.Holds ref ∧ ∃ slot ∈ c'.healing.slots, slot.state = .inUse ∧
        slot.config.id = (c'.replica ref).id ∧ slot.config.address = (c'.replica ref).address := by
  intro c c'
  have hsturdy : c.Sturdy := sturdy_of_ofConfig h history
  obtain ⟨hreport, hmends, hcovered⟩ := hsturdy.healthCheck_spec
  obtain ⟨htidy, hmatched⟩ : c.healthCheck.2.docket.Tidy ∧ c.healthCheck.2.docket.Matched [] := by
    obtain ⟨before, rfl⟩ := exists_history_ofConfig h
    obtain ⟨htidy, hmatched⟩ := docket_of_history config .discard .inMemory now (before ++ history)
    have hdropped : (new config .discard .inMemory now).dropped (before ++ history) = [] := by
      refine dropped_eq_nil (new_docket ..).1 ?_
      rw [undergoAll_append]
      exact hopen
    rw [hdropped] at hmatched
    rw [undergoAll_append] at htidy hmatched
    have hchecked : Docket.Run c.docket [] c.healthCheck.2.docket := by
      rw [healthCheck_docket]
      exact Docket.scheduleAll_run ..
    exact ⟨htidy.run hchecked, hmatched.run htidy hchecked⟩
  have hchecked : c.healthCheck.2.Sturdy := hsturdy.told (nodeRespects_told.healthCheck c)
  obtain ⟨hrest, hpending, hrecoveries, hhealthy⟩ :=
    hchecked.runAll_spec htidy hmatched hcovered horder
  have hwhole : c.ward.Mends c'.ward := hmends.trans hrest
  refine ⟨hreport, hhealthy, hpending, hrecoveries, fun ref href ↦ ?_, fun ref href ↦ ?_⟩
  · have hshell := hwhole.shell ref href
    exact ⟨congrArg Replica.Shell.state hshell, congrArg Replica.Shell.inbound hshell,
      fun hlisted ↦ hwhole.stays ref hlisted href⟩
  · exact (hwhole.added ref href).imp_right fun ⟨hnew, _, hprovisioned⟩ ↦ ⟨hnew, hprovisioned⟩

/-- A configuration with three receivers and one slot. -/
def threeReceivers : Config :=
  { Config.default with
    receivers := [⟨"r1", "r1:1"⟩, ⟨"r2", "r2:1"⟩, ⟨"r3", "r3:1"⟩]
    faultTolerance := { FaultToleranceConfig.default with backupPool := [⟨"b1", "b1:1", 3⟩] } }

/-- One receiver is stopped and has its recovery scheduled; then another one is retired, the third
is detached, and a fourth one is registered that was never started. The retired one is replaced from
the slot, and the others come back. -/
theorem self_healing_mixed :
    ∃ c₀, ofConfig threeReceivers default = .ok c₀ ∧
      let c := c₀.undergoAll [.request (.operation (.stop 0)) trivial,
        .request (.operation .healthCheck) trivial, .request (.operation (.retire 1)) trivial,
        .request (.operation (.detach 2)) trivial,
        .request (.operation (.register (.new "r4" "r4:1"))) trivial]
      let c' := [3, 1, 0, 2].foldl host.runTask c.healthCheck.2
      c.health.unhealthyIds = ["r1", "r2", "r3", "r4"] ∧
        (∀ ref ∈ c'.coordinator.registry, (c'.replica ref).isHealthy = true) ∧
        c'.fleet.ids c'.coordinator.registry = ["r1", "r3", "r4", "b1"] := by
  refine ⟨_, rfl, by decide +kernel, ?_, by decide +kernel⟩
  have hbuilt : ofConfig threeReceivers default = .ok _ := rfl
  exact (self_healing hbuilt _ (by decide +kernel) (by decide +kernel)).2.1

end Cluster

end SensorCluster
