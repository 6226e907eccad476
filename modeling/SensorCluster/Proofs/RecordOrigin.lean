import SensorCluster.Proofs.Inheritance
import SensorCluster.Proofs.Runs
import Mathlib.Data.List.Induction

/-!
# Where records come from

Records are copied a lot: by a sync, when a receiver joins, when it is restarted, when it is
replaced. None of these copies invents a record, and none brings back the record of a sensor that
was unregistered. `record_stems` says so for every run: what a registered receiver holds for a
sensor was read from a message that was routed and accepted in that run, and the sensor was not
unregistered since.

## What it rests on

* **Copies stay among the registered.** A receiver takes over data only from the replication pool,
  and the pool is the registry (`Core.Sound`). So whatever is true of every record of every
  registered receiver stays true under all moves, as long as no message arrives and nobody joins
  with records of its own (`Sourced.moves`).
* A stopped or detached receiver is still registered, so an unregistration reaches it as well.
* What a receiver held when it left the registry is of no account: nobody copies from it, and it
  never joins again.
-/

namespace SensorCluster

/-- Each record of a receiver is one that `R` allows for its sensor. -/
def Replica.Sourced (R : String → SensorRecord → Prop) (r : Replica) : Prop :=
  ∀ sensor record, r.index.get? sensor = some record → R sensor record

/-- A receiver without records. -/
def Replica.IsBlank (r : Replica) : Prop := r.index = .empty

theorem Replica.IsBlank.sourced {R : String → SensorRecord → Prop} {r : Replica}
    (h : r.IsBlank) : r.Sourced R := by
  intro sensor record hrecord
  rw [show r.index = .empty from h] at hrecord
  cases hrecord

/-- Copies and deletions bring in no record. -/
theorem Replica.heritable_sourced (R : String → SensorRecord → Prop) : Heritable (Sourced R) where
  lifecycle _ _ h := h
  conflict h := h
  restore now h hsource := by
    rw [Replica.restore]
    split
    · exact hsource
    · exact h
  forget sensor h := by
    intro other record hrecord
    rw [Replica.removeRecord, RecordIndex.get?, RecordIndex.remove, KeyMap.get?_erase] at hrecord
    split at hrecord
    · cases hrecord
    · exact h other record hrecord

namespace Core

/-- Each record of each registered receiver is one that `R` allows for its sensor. -/
def Sourced (R : String → SensorRecord → Prop) (k : Core) : Prop :=
  ∀ ref ∈ k.registry, (k.get ref).Sourced R

variable {R R' : String → SensorRecord → Prop} {k k' : Core} {ref : ReplicaRef}

theorem Sourced.mono (h : k.Sourced R) (hR : ∀ sensor record, R sensor record → R' sensor record) :
    k.Sourced R' :=
  Each.mono (P := Replica.Sourced R) h fun _ hr sensor record hrecord ↦
    hR _ _ (hr sensor record hrecord)

/-- Only the one receiver that is put in place is a new one. -/
theorem Sourced.put (h : k.Sourced R) {r : Replica} (hr : ref ∈ k.registry → r.Sourced R) :
    (k.put ref r).Sourced R :=
  Each.put (P := Replica.Sourced R) h hr

/-- **Moves without messages**: every record stays one that was there. -/
theorem Sourced.moves (hsound : k.Sound Replica.IsBlank) (h : k.Sourced R)
    (hmoves : Moves Replica.IsBlank (fun _ ↦ False) k k') : k'.Sourced R :=
  Each.moves (Replica.heritable_sourced R) (fun _ ↦ Replica.IsBlank.sourced) hsound h hmoves

/-! ### Deletion -/

/-- What is left after a deletion was there before, and is not of that sensor in any receiver the
deletion went through. -/
theorem get?_forgetAll {sensor other : String} {record : SensorRecord} (refs : List ReplicaRef)
    (h : ((k.forgetAll sensor refs).get ref).index.get? other = some record) :
    (k.get ref).index.get? other = some record ∧
      (ref ∈ refs → k.fleet.Holds ref → other ≠ sensor) := by
  induction refs generalizing k with
  | nil => exact ⟨h, fun hmem ↦ absurd hmem List.not_mem_nil⟩
  | cons head rest ih =>
    have hcons : k.forgetAll sensor (head :: rest) =
        (k.put head ((k.get head).removeRecord sensor).2).forgetAll sensor rest := rfl
    rw [hcons] at h
    obtain ⟨hrecord, hrest⟩ := ih h
    by_cases hhead : k.fleet.Holds head
    · have hget : ((k.put head ((k.get head).removeRecord sensor).2).get ref) =
          if ref = head then ((k.get head).removeRecord sensor).2 else k.get ref :=
        Fleet.get_set hhead ref _
      rw [hget] at hrecord
      split at hrecord
      · next heq =>
        subst heq
        have hkept : ((k.get ref).index.remove sensor).get? other = some record := hrecord
        rw [RecordIndex.get?, RecordIndex.remove, KeyMap.get?_erase] at hkept
        split at hkept
        · cases hkept
        · next hne => exact ⟨hkept, fun _ _ ↦ hne⟩
      · next hne =>
        refine ⟨hrecord, fun hmem hholds ↦ hrest ?_ ((Fleet.holds_set ..).2 hholds)⟩
        exact (List.mem_cons.1 hmem).resolve_left hne
    · -- nobody is there to delete from
      have hput : k.put head ((k.get head).removeRecord sensor).2 = k := by
        rw [put, Fleet.set_of_not_holds hhead]
      rw [hput] at hrecord hrest
      refine ⟨hrecord, fun hmem hholds ↦ hrest ?_ hholds⟩
      exact (List.mem_cons.1 hmem).resolve_left fun heq ↦ hhead (heq ▸ hholds)

/-- After the deletion of a sensor no registered receiver has a record of it. -/
theorem Sourced.forgetAll (hsound : k.Sound Replica.IsBlank) (h : k.Sourced R)
    (sensor : String) :
    (k.forgetAll sensor k.registry).Sourced fun other record ↦
      R other record ∧ other ≠ sensor := by
  have hregistry : ∀ (refs : List ReplicaRef) (k : Core),
      (k.forgetAll sensor refs).registry = k.registry := by
    intro refs
    induction refs with
    | nil => exact fun _ ↦ rfl
    | cons head rest ih => exact fun k ↦ ih _
  intro ref href other record hrecord
  rw [hregistry] at href
  obtain ⟨hbefore, hne⟩ := get?_forgetAll _ hrecord
  exact ⟨h ref href other record hbefore, hne href (hsound.holds ref href)⟩

/-! ### Messages -/

/-- A message that is processed leaves the record of its sensor in its receiver, or none. -/
theorem Sourced.process (h : k.Sourced R) (href : ref ∈ k.registry) {m : Message}
    {outcome : Replica.ProcessOutcome} {r : Replica}
    (hprocess : (k.get ref).process m = .ok (outcome, r)) :
    (k.put ref r).Sourced fun sensor record ↦ R sensor record ∨
      m.kind = .data ∧ m.sensor = sensor ∧ record = .ofMessage m := by
  obtain ⟨-, -, hindex⟩ := Replica.process_eq_ok hprocess
  refine (h.mono fun _ _ hR ↦ .inl hR).put fun _ sensor record hrecord ↦ ?_
  rw [hindex] at hrecord
  split at hrecord
  · next hdata =>
    rw [RecordIndex.get?_apply] at hrecord
    split at hrecord
    · next hstored => exact .inr ⟨hdata, hstored.1.symm, (Option.some.inj hrecord).symm⟩
    · exact .inl (h ref href sensor record hrecord)
  · exact .inl (h ref href sensor record hrecord)

end Core

namespace Cluster

/-- The record is the reading of a message that was routed and accepted in the run, and its sensor
was not unregistered after that. -/
def Stems (c : Cluster) (ops : List Operation) (sensor : String) (record : SensorRecord) : Prop :=
  ∃ before m host port after, ops = before ++ .route m host port :: after ∧
    (∃ id, ((c.run before).tryRoute m host port).1 = .ok id) ∧
    m.kind = .data ∧ m.sensor = sensor ∧ record = .ofMessage m ∧
    .unregisterSensor sensor ∉ after

variable {c : Cluster} {ops : List Operation} {op : Operation} {sensor : String}
  {record : SensorRecord}

theorem Stems.append (h : c.Stems ops sensor record) (hop : op ≠ .unregisterSensor sensor) :
    c.Stems (ops ++ [op]) sensor record := by
  obtain ⟨before, m, host, port, after, rfl, haccepted, hdata, hsensor, hrecord, hafter⟩ := h
  refine ⟨before, m, host, port, after ++ [op], by simp, haccepted, hdata, hsensor, hrecord, ?_⟩
  intro hmem
  rcases List.mem_append.1 hmem with hmem | hmem
  · exact hafter hmem
  · exact hop (List.mem_singleton.1 hmem).symm

theorem Stems.of_route {m : Message} {host : String} {port : UInt16} {id : String}
    (haccepted : ((c.run ops).tryRoute m host port).1 = .ok id) (hdata : m.kind = .data) :
    c.Stems (ops ++ [.route m host port]) m.sensor (.ofMessage m) :=
  ⟨ops, m, host, port, [], rfl, ⟨id, haccepted⟩, hdata, rfl, rfl, List.not_mem_nil⟩

/-- **What one operation adds**: the reading of the message it routes, and nothing else. -/
theorem step_sourced (hsound : (c.run ops).core.Sound Replica.IsBlank)
    (h : (c.run ops).core.Sourced (c.Stems ops)) (hop : op.Allowed Replica.IsBlank fun _ ↦ True) :
    ((c.run ops).step op).core.Sourced (c.Stems (ops ++ [op])) := by
  rcases hop.route_or with ⟨m, host, port, rfl⟩ | hquiet
  · have hkept : (c.run ops).core.Sourced (c.Stems (ops ++ [.route m host port])) :=
      h.mono fun _ _ hstems ↦ hstems.append Operation.noConfusion
    rcases tryRoute_spec m host port with
      ⟨ref, href, outcome, r, hprocess, haccepted, hcore, -⟩ | ⟨cause, -, hcore, -⟩
    · rw [step, hcore]
      refine (hkept.process href hprocess).mono fun sensor record hrecord ↦ ?_
      rcases hrecord with hold | ⟨hdata, rfl, rfl⟩
      · exact hold
      · exact .of_route haccepted hdata
    · rw [step, hcore]
      exact hkept
  · by_cases hdeletes : ∃ sensor, op = .unregisterSensor sensor
    · obtain ⟨sensor, rfl⟩ := hdeletes
      rw [step, unregisterSensor_core]
      refine (h.forgetAll hsound sensor).mono fun other record ⟨hstems, hne⟩ ↦ ?_
      exact hstems.append fun heq ↦ hne (Operation.unregisterSensor.inj heq).symm
    · have hkept := h.moves hsound (step_leads hquiet hsound)
      exact hkept.mono fun sensor _ hstems ↦ hstems.append fun heq ↦ hdeletes ⟨sensor, heq⟩

/-- In a run that registers blank receivers, every operation is allowed. -/
theorem allowed_of_blank (h : ∀ r, .register r ∈ ops → r.IsBlank) :
    ∀ op ∈ ops, op.Allowed Replica.IsBlank fun _ ↦ True := by
  intro op hop
  cases op with
  | register r => exact h r hop
  | _ => exact trivial

theorem run_sourced (hsound : c.core.Sound Replica.IsBlank) (hempty : c.core.registry = [])
    (h : ∀ op ∈ ops, op.Allowed Replica.IsBlank fun _ ↦ True) :
    (c.run ops).core.Sourced (c.Stems ops) := by
  induction ops using List.reverseRecOn with
  | nil =>
    intro ref href
    rw [run, List.foldl_nil, hempty] at href
    cases href
  | append_singleton ops op ih =>
    have hbefore : ∀ op ∈ ops, op.Allowed Replica.IsBlank fun _ ↦ True :=
      fun op hop ↦ h op (List.mem_append_left _ hop)
    have hreached := hsound.moves (run_leads hbefore hsound)
    rw [run_append]
    exact step_sourced hreached (ih hbefore) (h op (List.mem_append_right _ (by simp)))

/-- **No record is invented and none comes back.** In every state that a new cluster reaches with
the in-memory provisioner, when only blank receivers are registered, each record that a registered
receiver holds for a sensor is the reading of a message that was accepted in that run, and the
sensor was not unregistered after that. -/
theorem record_stems (config : Config) (sink : SnapshotSink) (now : WallTime)
    (ops : List Operation) (hblank : ∀ r, .register r ∈ ops → r.IsBlank) :
    let c := new config sink .inMemory now
    ∀ ref ∈ (c.run ops).coordinator.registry, ∀ sensor record,
      ((c.run ops).replica ref).index.get? sensor = some record → c.Stems ops sensor record := by
  intro c
  have hsound : c.core.Sound Replica.IsBlank := by
    refine new_sound fun history slot r lines hanswer ↦ ?_
    rw [delivered_inMemory hanswer]
    rfl
  exact run_sourced hsound rfl (allowed_of_blank hblank)

/-- A run in which a receiver joins after a reading was routed to another one. -/
def lateJoin : List Operation :=
  [.register { Replica.new "a" "" with state := .running, inbound := true },
    .route (.data "m" "s" "t" 0.0 7 1) "host" 1,
    .register { Replica.new "b" "" with state := .running, inbound := true },
    .unregisterSensor "other"]

/-- Who joins late holds the earlier reading from the start, and it stems from the route. -/
theorem record_stems_lateJoin :
    ∃ record, (((new .default .discard .inMemory default).run lateJoin).replica 1).index.get? "s" =
        some record ∧
      (new .default .discard .inMemory default).Stems lateJoin "s" record := by
  have hheld : (((new .default .discard .inMemory default).run lateJoin).replica 1).index.get? "s"
      |>.isSome := by
    decide +kernel
  have hregistered :
      1 ∈ ((new .default .discard .inMemory default).run lateJoin).coordinator.registry := by
    decide +kernel
  obtain ⟨record, hrecord⟩ := Option.isSome_iff_exists.1 hheld
  refine ⟨record, hrecord, record_stems .default .discard default lateJoin ?_ 1 hregistered "s"
    record hrecord⟩
  intro r hr
  simp only [lateJoin, List.mem_cons, Operation.register.injEq, reduceCtorEq, List.not_mem_nil,
    false_or, or_false] at hr
  rcases hr with rfl | rfl <;> rfl

end Cluster

end SensorCluster
