import SensorCluster.Proofs.HealingCalls
import SensorCluster.Proofs.Operations

/-!
# Recoveries, replacements and the floor as moves

The operations of the fault tolerance, each as a sequence of moves. All of them take receivers from
the backup pool in one way: `provision` goes through the pool once, and what it delivers is
registered. `provision_spec` says what became of the pass, and `register_provisioned_leads` what the
registration of its receiver does to the core; the rest follows the calls.
-/

namespace SensorCluster

/-- What a pass delivers was delivered by the provisioner. -/
theorem BackupPool.delivered_of_tryEach {provisioner : Provisioner} {history : List String}
    {lastCause : Option ClusterError} {slots : List BackupSlot} {r : Replica}
    (h : (tryEach provisioner history lastCause slots).outcome = .delivered r) :
    ∃ history slot lines, provisioner history slot = .delivered r lines := by
  induction slots generalizing history lastCause with
  | nil => cases h
  | cons slot rest ih =>
    rw [tryEach] at h
    dsimp only at h
    -- the pass goes on behind a slot that is in use or refused; it ends where one delivers or
    -- panics
    split at h
    · exact ih h
    · split at h
      · cases h
      · split at h
        · next receiver lines hanswer =>
          cases h
          exact ⟨_, _, _, hanswer⟩
        · cases h
        · split at h <;> exact ih h

namespace Cluster

variable {joins : Replica → Prop} {arrives : Message → Prop} {c c' : Cluster}
  {ref : ReplicaRef}

/-! ### The backup pool -/

/-- **A provisioning in one line**: the pool was gone through once, and the answer is what became of
that pass. -/
theorem provision_spec (c : Cluster) :
    (∃ r, c.core.nextPass.outcome = .delivered r ∧ c.provision.1 = .ok (c.fleet.add r).1 ∧
      c.provision.2.core = c.core.tryPool.create r) ∨
    (∃ cause, c.core.nextPass.outcome = .failed cause ∧
      c.provision.1 = .error (.refused cause) ∧ c.provision.2.core = c.core.tryPool) ∨
    ∃ text, c.core.nextPass.outcome = .panicked text ∧
      c.provision.1 = .error (.panicked text) ∧ c.provision.2.core = c.core.tryPool := by
  rcases c.provision_cases with ⟨r, lines, houtcome, heq⟩ | ⟨cause, lines, houtcome, heq⟩ |
    ⟨text, lines, houtcome, heq⟩ <;> rw [heq]
  · refine .inl ⟨r, houtcome, rfl, ?_⟩
    refine (core_reportAbandoned _).trans ?_
    rw [Core.tryPool, PoolPass.told, show c.core.nextPass.outcome = .delivered r from houtcome]
    rfl
  · refine .inr (.inl ⟨cause, houtcome, rfl, ?_⟩)
    refine (core_reportAbandoned _).trans ?_
    rw [Core.tryPool, PoolPass.told, show c.core.nextPass.outcome = .failed cause from houtcome]
    rfl
  · -- a panic ends the call before it tells of anything
    refine .inr (.inr ⟨text, houtcome, rfl, ?_⟩)
    rw [Core.tryPool, PoolPass.told, show c.core.nextPass.outcome = .panicked text from houtcome]
    simp [Core.report, core, afterPass, poolPass, Core.nextPass, modifyHealing, write]

/-- The pool is gone through, and who was delivered is created. -/
theorem provision_leads : Leads joins arrives c c.provision.2 := by
  have htry : Core.Moves joins arrives c.core c.core.tryPool := .single (.tryPool _)
  intro hsound
  rcases provision_spec c with ⟨r, houtcome, -, hcore⟩ | ⟨-, -, -, hcore⟩ | ⟨-, -, -, hcore⟩ <;>
    rw [hcore]
  · obtain ⟨history, slot, lines, hdelivered⟩ := BackupPool.delivered_of_tryEach houtcome
    exact htry.tail (.create (.inl (hsound.delivers _ _ _ _ hdelivered)))
  · exact htry
  · exact htry

/-- What was provisioned exists, and may join. -/
theorem provisioned_joins (hsound : c.core.Sound joins) {c₁ : Cluster}
    (h : c.provision = (.ok ref, c₁)) : c₁.fleet.Holds ref ∧ joins (c₁.replica ref) := by
  rcases provision_spec c with ⟨r, houtcome, hanswer, hcore⟩ | ⟨cause, _, hanswer, _⟩ |
    ⟨text, _, hanswer, _⟩ <;> rw [h] at hanswer
  · obtain rfl := Except.ok.inj hanswer
    rw [h] at hcore
    have hfleet : c₁.fleet = (c.fleet.add r).2 := congrArg Core.fleet hcore
    obtain ⟨history, slot, lines, hdelivered⟩ := BackupPool.delivered_of_tryEach houtcome
    rw [replica, hfleet, Fleet.get_add_self]
    exact ⟨Fleet.holds_add_self r, hsound.delivers _ _ _ _ hdelivered⟩
  · cases hanswer
  · cases hanswer

/-- The receiver of a provisioning is registered. -/
theorem register_provisioned_leads {c₁ : Cluster} (c₂ : Cluster) (h : c.provision = (.ok ref, c₁))
    (hcore : c₂.core = c₁.core) : Leads joins arrives c (c₂.register ref).2 := by
  intro hsound
  have hprovision : Leads joins arrives c c₁ := by
    have hleads : Leads joins arrives c c.provision.2 := provision_leads
    rwa [h] at hleads
  obtain ⟨hholds, hjoins⟩ := provisioned_joins hsound h
  have hfleet : c₂.fleet = c₁.fleet := congrArg Core.fleet hcore
  refine (hprovision.trans (Leads.congr_left (register_leads ?_ ?_) hcore)) hsound
  · rwa [hfleet]
  · rwa [replica, hfleet]

/-- A slot is given back by one move. -/
theorem releaseSlot_core (id : String) : (c.releaseSlot id).core = c.core.release id :=
  core_reportAbandoned _

theorem releaseSlot_leads (id : String) : Leads joins arrives c (c.releaseSlot id) :=
  .of_move_eq (.release c.core id) (releaseSlot_core id)

/-- To take a receiver off: it leaves, it is retired, its slot is given back. -/
theorem takenOff_leads (ref : ReplicaRef) : Leads joins arrives c (c.takenOff ref) :=
  ((unregister_leads _).trans (retire_leads ref)).trans (releaseSlot_leads _)

/-! ### Recovery and the floor -/

/-- **Recoveries are made of moves.** -/
theorem recoveryRespects_leads : RecoveryRespects (Leads joins arrives) where
  refl := .refl
  trans := .trans
  write _ _ := .of_eq rfl
  restarted _ := .of_eq rfl
  replaced _ := .of_eq rfl
  tellRecovered _ _ := .of_eq (core_publish_of_none rfl)
  tellReplaced _ _ _ := .of_eq (core_publish_of_none rfl)
  tellFailure _ _ _ := .of_eq (core_publish_of_none rfl)
  recover _ ref := recover_leads ref
  restore _ ref := restoreFromBestPeer_leads ref
  takenOff {_ ref} _ := takenOff_leads ref
  refused {c c' _} h := by
    have hprovision : Leads joins arrives c c.provision.2 := provision_leads
    rwa [h] at hprovision
  delivered {_ c' _} lines h := register_provisioned_leads (c'.write lines) h rfl

end Cluster

end SensorCluster
