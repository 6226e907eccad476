import SensorCluster.Proofs.Core

/-!
# What copies hand on

Data go from receiver to receiver by restores only, and a restore takes all of them or none. So a
property of a receiver's data that survives a deletion survives everything that can happen to
receivers until the next message is processed: `Replica.Heritable` names these properties.

`Core.Each.moves` is what they are good for: **a heritable property that all registered receivers
have, and that everybody who joins has, all registered receivers keep** as long as no message
arrives. When whoever is created has it too, the receivers that nobody lists keep it as well
(`Core.All.moves`). What a message does to the property is a question of its own, and each
development answers it in its own way.
-/

namespace SensorCluster

/-- A receiver that holds nothing and has seen no message. -/
structure Replica.IsUnused (r : Replica) : Prop where
  index : r.index = .empty
  vector : r.vector = .empty
  total : r.total = 0
  conflicts : r.conflicts = 0

/-- A new receiver is unused, whatever its lifecycle. -/
theorem Replica.isUnused_new (id address : String) (state : Lifecycle) (inbound : Bool) :
    { Replica.new id address with state, inbound }.IsUnused :=
  ⟨rfl, rfl, rfl, rfl⟩

/-- A property that a receiver keeps whatever its lifecycle, that it takes over with the data of
another receiver, and that survives the deletion of records. -/
structure Replica.Heritable (P : Replica → Prop) : Prop where
  lifecycle : ∀ {r : Replica} (state : Lifecycle) (inbound : Bool),
    P r → P { r with state, inbound }
  conflict : ∀ {r : Replica}, P r → P r.recordConflict
  restore : ∀ {r source : Replica} (now : WallTime),
    P r → P source → P (r.restore (source.snapshot now)).2
  forget : ∀ {r : Replica} (sensor : String), P r → P (r.removeRecord sensor).2

/-- What only concerns the vector and the count is heritable. -/
theorem Replica.heritable_of_vector (Q : VersionVector → Counter → Prop) :
    Heritable fun r ↦ Q r.vector r.total where
  lifecycle _ _ h := h
  conflict h := h
  restore now h hsource := by
    rw [Replica.restore]
    split
    · exact hsource
    · exact h
  forget _ h := h

namespace Core

/-- Each registered receiver has the property. -/
def Each (P : Replica → Prop) (k : Core) : Prop := ∀ ref ∈ k.registry, P (k.get ref)

variable {P P' : Replica → Prop} {joins : Replica → Prop} {k k' : Core} {ref : ReplicaRef}

theorem Each.mono (h : k.Each P) (himp : ∀ r, P r → P' r) : k.Each P' :=
  fun ref href ↦ himp _ (h ref href)

/-- Only the one receiver that is put in place is a new one. -/
theorem Each.put (h : k.Each P) {r : Replica} (hr : ref ∈ k.registry → P r) :
    (k.put ref r).Each P := by
  intro other hother
  rw [Core.get, Core.put]
  rcases k.fleet.get_set_cases ref other r with hsame | ⟨rfl, hnew⟩
  · rw [hsame]
    exact h other hother
  · rw [hnew]
    exact hr hother

/-- Where no message arrives, a receiver becomes nothing that neither it nor any source was. -/
theorem Change.heritable (hP : Replica.Heritable P) (hown : P (k.get ref))
    (hsources : ∀ source ∈ k.pool, P (k.get source)) {r : Replica}
    (hchange : Change (fun _ ↦ False) k ref r) : P r := by
  cases hchange with
  | lifecycle state inbound => exact hP.lifecycle state inbound hown
  | conflict => exact hP.conflict hown
  | restore now hsource => exact hP.restore now hown (hsources _ hsource)
  | process hm => exact hm.elim
  | forget sensor => exact hP.forget sensor hown

/-- **One move without messages** leaves the property with everybody registered. -/
theorem Each.move (hP : Replica.Heritable P) (hjoins : ∀ r, joins r → P r) (hsound : k.Sound joins)
    (h : k.Each P) (hmove : Move joins (fun _ ↦ False) k k') : k'.Each P := by
  -- only a change of a receiver and a new one on the roster matter to the registered ones
  cases hmove with
  | change hchange =>
    refine h.put fun href ↦ hchange.heritable hP (h _ href) fun source hsource ↦ ?_
    exact h source (hsound.pool_eq ▸ hsource)
  | create =>
    intro ref href
    rw [get, Core.create, Fleet.get_add_of_holds (hsound.holds ref href)]
    exact h ref href
  | join hholds hnew hjoin =>
    intro ref href
    rcases List.mem_append.1 href with href | href
    · exact h ref href
    · rw [List.mem_singleton.1 href]
      exact hjoins _ hjoin
  | leave id => exact fun ref href ↦ h ref (Fleet.mem_dismiss.1 href).1
  | tryPool | release | mark | unmark => exact h

/-- **What is heritable the registered receivers keep** while no message arrives. -/
theorem Each.moves (hP : Replica.Heritable P) (hjoins : ∀ r, joins r → P r)
    (hsound : k.Sound joins) (h : k.Each P)
    (hmoves : Moves joins (fun _ ↦ False) k k') : k'.Each P := by
  induction hmoves with
  | refl => exact h
  | tail hmoves hmove ih => exact ih.move hP hjoins (hsound.moves hmoves) hmove

/-- All receivers have the property, registered or not. -/
def All (P : Replica → Prop) (k : Core) : Prop := ∀ ref, P (k.get ref)

/-- **One move without messages** leaves the property with everybody. -/
theorem All.move (hP : Replica.Heritable P) (hnew : ∀ id address, P (.new id address))
    (hjoins : ∀ r, joins r → P r) (h : k.All P) (hmove : Move joins (fun _ ↦ False) k k') :
    k'.All P := by
  cases hmove with
  | @change ref r hchange =>
    exact Fleet.forall_get_set h (hchange.heritable hP (h ref) fun source _ ↦ h source) ref
  | @create r hr =>
    intro ref
    rcases k.fleet.get_add_cases r ref with hsame | hadded
    · rw [get, Core.create, hsame]
      exact h ref
    · rw [get, Core.create, hadded]
      rcases hr with hr | ⟨id, address, rfl⟩
      · exact hjoins r hr
      · exact hnew id address
  | join | leave | tryPool | release | mark | unmark => exact h

/-- The same of all receivers, if those who are created have the property. -/
theorem All.moves (hP : Replica.Heritable P) (hnew : ∀ id address, P (.new id address))
    (hjoins : ∀ r, joins r → P r) (h : k.All P) (hmoves : Moves joins (fun _ ↦ False) k k') :
    k'.All P := by
  induction hmoves with
  | refl => exact h
  | tail _ hmove ih => exact ih.move hP hnew hjoins hmove

end Core

end SensorCluster
