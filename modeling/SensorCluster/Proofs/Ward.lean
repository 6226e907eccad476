import SensorCluster.Proofs.FleetSteps

/-!
# The ward

The `Ward` of a cluster is who is looked after and by what means: the receivers, the roster of the
registered ones, and the slots of the backup pool. What the fault tolerance does there **mends**:
whoever is healthy is left alone, whoever is added is healthy and was taken from the pool, and
nothing is said about the others. So they may be restarted, replaced, taken off the roster or left
as they are, and all of that can follow each other in any order (`Mends.trans`).

That a receiver was taken from the pool is seen from its slot: it is in use, with the id and the
address of the receiver. Nobody else gives this slot back, since it is given back under the id of a
registered receiver that is not healthy.
-/

namespace SensorCluster

/-- Who has the same shell is as healthy. -/
theorem Replica.isHealthy_of_shell {r r' : Replica} (h : r'.shell = r.shell) :
    r'.isHealthy = r.isHealthy := by
  have hstate : r'.state = r.state := congrArg Replica.Shell.state h
  have hinbound : r'.inbound = r.inbound := congrArg Replica.Shell.inbound h
  rw [isHealthy, isHealthy, isRunning, isRunning, hstate, hinbound]

/-- The receivers, the registered ones among them, and the backup pool. -/
structure Ward where
  fleet : Fleet
  registry : Roster
  slots : List BackupSlot

/-- The ward of a core. -/
def Core.ward (k : Core) : Ward := ⟨k.fleet, k.registry, k.slots⟩

namespace Ward

/-- A slot is in use by the receiver. -/
def Provisioned (w : Ward) (ref : ReplicaRef) : Prop :=
  ∃ slot ∈ w.slots, slot.state = .inUse ∧ slot.config.id = (w.fleet.get ref).id ∧
    slot.config.address = (w.fleet.get ref).address

/-- The first ward becomes the second, and nobody's health suffers. -/
structure Mends (w w' : Ward) : Prop where
  grows : w.fleet.Grows w'.fleet
  shell : ∀ ref, (w.fleet.get ref).isHealthy = true →
    (w'.fleet.get ref).shell = (w.fleet.get ref).shell
  stays : ∀ ref ∈ w.registry, (w.fleet.get ref).isHealthy = true → ref ∈ w'.registry
  kept : ∀ ref ∈ w.registry, (w.fleet.get ref).isHealthy = true → w.Provisioned ref →
    w'.Provisioned ref
  /-- Who is registered was registered before, or it is new, healthy and from the pool. -/
  added : ∀ ref ∈ w'.registry, ref ∈ w.registry ∨
    ¬w.fleet.Holds ref ∧ (w'.fleet.get ref).isHealthy = true ∧ w'.Provisioned ref

variable {w w' w'' : Ward} {ref : ReplicaRef}

theorem holds_of_isHealthy (h : (w.fleet.get ref).isHealthy = true) : w.fleet.Holds ref := by
  rw [Replica.isHealthy, Bool.and_eq_true] at h
  exact Fleet.holds_of_isRunning h.1

/-- A slot of the same ids and addresses is in use as before. -/
theorem Provisioned.of_shell (h : w.Provisioned ref)
    (hshell : (w'.fleet.get ref).shell = (w.fleet.get ref).shell) (hslots : w'.slots = w.slots) :
    w'.Provisioned ref := by
  obtain ⟨slot, hslot, huse, hid, haddress⟩ := h
  exact ⟨slot, hslots ▸ hslot, huse, hid.trans (congrArg Replica.Shell.id hshell).symm,
    haddress.trans (congrArg Replica.Shell.address hshell).symm⟩

namespace Mends

theorem refl (w : Ward) : w.Mends w :=
  ⟨.refl _, fun _ _ ↦ rfl, fun _ href _ ↦ href, fun _ _ _ h ↦ h, fun _ href ↦ .inl href⟩

theorem isHealthy (h : w.Mends w') (href : (w.fleet.get ref).isHealthy = true) :
    (w'.fleet.get ref).isHealthy = true :=
  (Replica.isHealthy_of_shell (h.shell ref href)).trans href

/-- **Mending can go on.** -/
theorem trans (h : w.Mends w') (h' : w'.Mends w'') : w.Mends w'' where
  grows := h.grows.trans h'.grows
  shell ref href := (h'.shell ref (h.isHealthy href)).trans (h.shell ref href)
  stays ref hmem href := h'.stays ref (h.stays ref hmem href) (h.isHealthy href)
  kept ref hmem href hprovisioned :=
    h'.kept ref (h.stays ref hmem href) (h.isHealthy href) (h.kept ref hmem href hprovisioned)
  added ref hmem := by
    rcases h'.added ref hmem with hbefore | ⟨hnew, hhealthy, hprovisioned⟩
    · rcases h.added ref hbefore with hlisted | ⟨hnew, hhealthy, hprovisioned⟩
      · exact .inl hlisted
      · exact .inr ⟨hnew, h'.isHealthy hhealthy, h'.kept ref hbefore hhealthy hprovisioned⟩
    · exact .inr ⟨fun hholds ↦ hnew (h.grows ref hholds).1, hhealthy, hprovisioned⟩

/-! ### Single changes -/

/-- Receivers change, but nobody who is healthy. -/
theorem of_fleet {fleet : Fleet} (hgrows : w.fleet.Grows fleet)
    (hshell : ∀ ref, (w.fleet.get ref).isHealthy = true →
      (fleet.get ref).shell = (w.fleet.get ref).shell) : w.Mends { w with fleet } :=
  ⟨hgrows, hshell, fun _ hmem _ ↦ hmem, fun ref _ href h ↦ h.of_shell (hshell ref href) rfl,
    fun _ hmem ↦ .inl hmem⟩

/-- A receiver that is not healthy becomes another one of its id. -/
theorem set (hdown : (w.fleet.get ref).isHealthy = false) {r : Replica}
    (hid : r.id = (w.fleet.get ref).id) : w.Mends { w with fleet := w.fleet.set ref r } := by
  refine of_fleet (Fleet.grows_set hid) fun other hother ↦ ?_
  rcases w.fleet.get_set_cases ref other r with hsame | ⟨rfl, -⟩
  · rw [hsame]
  · rw [hdown] at hother
    cases hother

/-- A receiver is created. -/
theorem create (w : Ward) (r : Replica) : w.Mends { w with fleet := (w.fleet.add r).2 } :=
  of_fleet (Fleet.grows_add r) fun ref href ↦ by
    rw [Fleet.get_add_of_holds (holds_of_isHealthy href)]

/-- A receiver that is not healthy is taken off the roster. -/
theorem erase (hdown : (w.fleet.get ref).isHealthy = false) :
    w.Mends { w with registry := w.registry.erase ref } := by
  refine ⟨.refl _, fun _ _ ↦ rfl, fun other hmem hother ↦ ?_, fun _ _ _ h ↦ h,
    fun other hmem ↦ .inl (List.mem_of_mem_erase hmem)⟩
  refine (List.mem_erase_of_ne ?_).2 hmem
  rintro rfl
  rw [hdown] at hother
  cases hother

/-- The slots change, but none in use under the id of a registered receiver. -/
theorem of_slots {slots : List BackupSlot}
    (h : ∀ slot ∈ w.slots, slot.state = .inUse → slot.config.id ∈ w.fleet.ids w.registry →
      slot ∈ slots) : w.Mends { w with slots } := by
  refine ⟨.refl _, fun _ _ ↦ rfl, fun _ hmem _ ↦ hmem, fun ref hmem _ hprovisioned ↦ ?_,
    fun _ hmem ↦ .inl hmem⟩
  obtain ⟨slot, hslot, huse, hid, haddress⟩ := hprovisioned
  refine ⟨slot, h slot hslot huse ?_, huse, hid, haddress⟩
  rw [hid]
  exact List.mem_map.2 ⟨ref, hmem, rfl⟩

/-- Who is new, healthy and from the pool is put on the roster. -/
theorem enlist (h : w.Mends w') (hnew : ¬w.fleet.Holds ref)
    (hhealthy : (w'.fleet.get ref).isHealthy = true) (hprovisioned : w'.Provisioned ref) :
    w.Mends { w' with registry := w'.registry ++ [ref] } where
  grows := h.grows
  shell := h.shell
  stays other hmem hother := List.mem_append_left _ (h.stays other hmem hother)
  kept := h.kept
  added other hmem := by
    rcases List.mem_append.1 hmem with hmem | hmem
    · exact h.added other hmem
    · rw [List.mem_singleton.1 hmem]
      exact .inr ⟨hnew, hhealthy, hprovisioned⟩

end Mends

/-! ### Who is healthy -/

/-- Whoever is registered under the id is healthy. -/
def Well (w : Ward) (id : String) : Prop :=
  ∀ ref ∈ w.registry, (w.fleet.get ref).id = id → (w.fleet.get ref).isHealthy = true

/-- Under an id that was free nobody is registered later but healthy receivers. -/
theorem Mends.well (h : w.Mends w') (hholds : ∀ ref ∈ w.registry, w.fleet.Holds ref) {id : String}
    (hfree : id ∉ w.fleet.ids w.registry) : w'.Well id := by
  intro ref hmem hid
  rcases h.added ref hmem with hbefore | ⟨-, hhealthy, -⟩
  · have hsame := (h.grows ref (hholds ref hbefore)).2
    exact absurd (List.mem_map.2 ⟨ref, hbefore, hsame.symm.trans hid⟩) hfree
  · exact hhealthy

/-- Every registered receiver is healthy, or its recovery is under way. -/
def Covered (w : Ward) (pending : List String) : Prop :=
  ∀ ref ∈ w.registry, (w.fleet.get ref).isHealthy = true ∨ (w.fleet.get ref).id ∈ pending

theorem Covered.mends {pending : List String} (h : w.Covered pending)
    (hholds : ∀ ref ∈ w.registry, w.fleet.Holds ref) (hmends : w.Mends w') :
    w'.Covered pending := by
  intro ref hmem
  rcases hmends.added ref hmem with hbefore | ⟨-, hhealthy, -⟩
  · rw [(hmends.grows ref (hholds ref hbefore)).2]
    exact (h ref hbefore).imp_left hmends.isHealthy
  · exact .inl hhealthy

end Ward

end SensorCluster
