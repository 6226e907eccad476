import SensorCluster.Proofs.FleetSteps
import SensorCluster.Proofs.Frames
import SensorCluster.Proofs.Membership
import SensorCluster.Proofs.Vectors
import Mathlib.Data.List.Infix

/-!
# The global vector

The coordinator merges the vector that a receiver answers with into a vector of its own. Local
vectors are replaced as a whole by every restore, and can shrink; the global one cannot. **It is
exactly as large as the accepted messages make it** (`globalVector_exact`): it dominates the vector
of every receiver, and for a node that is no receiver it holds the largest counter that an accepted
message had.

## What it rests on

* Only an accepted route writes the ledger (`handle_cases`), and it merges, so no component
  decreases.
* Whatever else happens, vectors are copied among receivers, so what dominates all of them goes on
  dominating all of them (`Core.All.moves`). This is why a receiver has to begin without counters:
  what it brought along nobody would have answered with.
* The target's answer is its old vector with that of the message. The old one was dominated already,
  so the message alone decides how the global vector grows, except at the target's own entry.
-/

namespace SensorCluster

/-- A receiver whose vector is empty. -/
def Replica.IsUncounted (r : Replica) : Prop := r.vector = .empty

/-- The receiver that a request brings along, if it does, has the property. -/
def Request.Brings (P : Replica → Prop) : Request → Prop
  | .operation (.register r) => P r
  | .create r => P r
  | _ => True

namespace Cluster

/-- The message that a request hands over, if a receiver accepts it. -/
def acceptedBy? (c : Cluster) : Request → Option Message
  | .operation (.route m host port) =>
    match (c.tryRoute m host port).1 with
    | .ok _ => some m
    | .error _ => none
  | _ => none

/-- The messages that receivers accept in the course of the requests. -/
def accepted (c : Cluster) : List Request → List Message
  | [] => []
  | q :: rest => (c.acceptedBy? q).toList ++ (c.handle q).accepted rest

variable {joins : Replica → Prop} {c : Cluster} {q : Request}
  {requests : List Request} {node : String}

/-! ### One request -/

/-- **What a request does to the global vector**: a registered receiver accepts the message of a
route, and what it answers is merged in; or nothing is accepted and nothing merged. -/
theorem handle_cases (c : Cluster) (q : Request) :
    (∃ m, c.acceptedBy? q = some m ∧ ∃ ref ∈ c.coordinator.registry, ∃ outcome r,
      (c.replica ref).process m = .ok (outcome, r) ∧ (c.handle q).core = c.core.put ref r ∧
      (c.handle q).coordinator.globalVector = c.coordinator.globalVector.merge outcome.vector) ∨
    c.acceptedBy? q = none ∧
      (c.handle q).coordinator.globalVector = c.coordinator.globalVector := by
  cases q with
  | operation op =>
    by_cases hroute : ∃ m host port, op = .route m host port
    · obtain ⟨m, host, port, rfl⟩ := hroute
      rcases tryRoute_spec (c := c) m host port with
        ⟨ref, href, outcome, r, hprocess, hanswer, hcore, hledger⟩ | ⟨cause, hanswer, -, hledger⟩
      · have haccepted : c.acceptedBy? (.operation (.route m host port)) = some m := by
          rw [acceptedBy?, hanswer]
        exact .inl ⟨m, haccepted, ref, href, outcome, r, hprocess, hcore,
          congrArg Ledger.globalVector hledger⟩
      · have hrefused : c.acceptedBy? (.operation (.route m host port)) = none := by
          rw [acceptedBy?, hanswer]
        exact .inr ⟨hrefused, congrArg Ledger.globalVector hledger⟩
    · have hother : ∀ m host port, op ≠ .route m host port :=
        fun m host port heq ↦ hroute ⟨m, host, port, heq⟩
      have hnone : c.acceptedBy? (.operation op) = none := by
        cases op with
        | route m host port => exact absurd rfl (hother m host port)
        | _ => rfl
      exact .inr ⟨hnone, congrArg Ledger.globalVector (step_ledger hother)⟩
  | create r => exact .inr ⟨rfl, rfl⟩
  | enroll ref =>
    refine .inr ⟨rfl, ?_⟩
    rw [handle]
    split
    · exact congrArg (·.office.globalVector) (register_desk ref)
    · rfl
  | syncPair a b =>
    exact .inr ⟨rfl, congrArg Coordinator.globalVector (syncPair_aside a b).coordinator⟩
  | restore ref =>
    exact .inr ⟨rfl, congrArg Coordinator.globalVector (restoreFromBestPeer_aside ref).coordinator⟩

/-- A request by which nothing is accepted moves the core without a message, or it is a sync by
hand. -/
theorem handle_quiet (hallowed : q.Allowed joins (fun _ ↦ True) c) (hnone : c.acceptedBy? q = none)
    (hsync : ∀ a b, q ≠ .syncPair a b) : Leads joins (fun _ ↦ False) c (c.handle q) := by
  cases q with
  | operation op =>
    rcases hallowed.route_or with ⟨m, host, port, rfl⟩ | hquiet
    · rcases tryRoute_spec (c := c) m host port with ⟨_, _, _, _, _, hanswer, _⟩ | ⟨_, _, hcore, _⟩
      · rw [acceptedBy?, hanswer] at hnone
        cases hnone
      · exact .of_eq hcore
    · exact step_leads hquiet
  | create r => exact .of_move (.create (.inl hallowed))
  | enroll ref => exact handle_leads (q := .enroll ref) hallowed hsync
  | syncPair a b => exact absurd rfl (hsync a b)
  | restore ref => exact restoreFromBestPeer_leads ref

/-- No component of the global vector decreases. -/
theorem get_le_handle (c : Cluster) (q : Request) (node : String) :
    c.coordinator.globalVector.get node ≤ (c.handle q).coordinator.globalVector.get node := by
  rcases handle_cases c q with ⟨m, -, ref, -, outcome, r, -, -, hglobal⟩ | ⟨-, hglobal⟩ <;>
    rw [hglobal]
  · exact VersionVector.get_le_get_merge_left ..
  · exact UInt64.le_refl _

theorem get_le_handleAll (c : Cluster) (requests : List Request) (node : String) :
    c.coordinator.globalVector.get node ≤
      (c.handleAll requests).coordinator.globalVector.get node := by
  induction requests generalizing c with
  | nil => exact UInt64.le_refl _
  | cons q rest ih => exact UInt64.le_trans (c.get_le_handle q node) (ih (c.handle q))

/-! ### Dominance -/

/-- The global vector has seen all that the receiver has seen. -/
def Dominates (c : Cluster) (r : Replica) : Prop :=
  c.coordinator.globalVector.dominates r.vector = true

theorem dominates_of_isUncounted {r : Replica} (h : r.IsUncounted) : c.Dominates r := by
  rw [Dominates, show r.vector = .empty from h]
  exact VersionVector.dominates_empty _

theorem heritable_dominates (c : Cluster) : Replica.Heritable c.Dominates :=
  Replica.heritable_of_vector fun v _ ↦ c.coordinator.globalVector.dominates v = true

theorem Dominates.handle {r : Replica} (h : c.Dominates r) (q : Request) :
    (c.handle q).Dominates r :=
  VersionVector.dominates_trans (VersionVector.dominates_iff.2 (c.get_le_handle q)) h

/-- What the global vector relies on: the two rosters are one, and all receivers are dominated,
those that the provisioner delivers included. -/
structure Covered (c : Cluster) : Prop where
  sound : c.core.Sound c.Dominates
  dominated : c.core.All c.Dominates

/-- Who is created has no counters, and everybody who exists may be registered. -/
theorem Covered.allowed (h : c.Covered) (hbrings : q.Brings Replica.IsUncounted) :
    q.Allowed c.Dominates (fun _ ↦ True) c := by
  cases q with
  | operation op =>
    cases op with
    | register r => exact dominates_of_isUncounted hbrings
    | _ => trivial
  | create r => exact dominates_of_isUncounted hbrings
  | enroll ref => exact fun _ ↦ h.dominated ref
  | syncPair | restore => trivial

/-- **One request** leaves every receiver dominated. -/
theorem Covered.handle (h : c.Covered) (hbrings : q.Brings Replica.IsUncounted) :
    (c.handle q).Covered := by
  have hallowed := h.allowed hbrings
  refine ⟨(handle_sound h.sound hallowed).mono fun _ hr ↦ hr.handle q, ?_⟩
  rcases handle_cases c q with ⟨m, -, ref, -, outcome, r, hprocess, hcore, hglobal⟩ | ⟨hnone, -⟩
  · -- the target has the vector that it answered with, and the others had dominated ones before
    have hanswer : (c.handle q).Dominates r := by
      rw [Dominates, hglobal, ← (Replica.vector_of_process hprocess).1]
      exact VersionVector.dominates_merge_right ..
    rw [hcore]
    exact Fleet.forall_get_set (fun other ↦ (h.dominated other).handle q) hanswer ref
  · have hkept : (c.handle q).core.All c.Dominates := by
      by_cases hsync : ∃ a b, q = .syncPair a b
      · obtain ⟨a, b, rfl⟩ := hsync
        exact (syncPair_steps a b).each (heritable_dominates c) h.dominated
      · have hmoves := handle_quiet hallowed hnone (fun a b heq ↦ hsync ⟨a, b, heq⟩) h.sound
        exact h.dominated.moves (heritable_dominates c) (fun _ _ ↦ dominates_of_isUncounted rfl)
          (fun _ hr ↦ hr) hmoves
    exact fun ref ↦ (hkept ref).handle q

theorem Covered.handleAll (h : c.Covered) (hbrings : ∀ q ∈ requests, q.Brings Replica.IsUncounted) :
    (c.handleAll requests).Covered := by
  induction requests generalizing c with
  | nil => exact h
  | cons q rest ih =>
    exact ih (h.handle (hbrings q List.mem_cons_self)) fun q hq ↦
      hbrings q (List.mem_cons_of_mem _ hq)

/-! ### Exactness -/

/-- No registered receiver ever has the id, from the first request to the last. -/
def NeverListed (c : Cluster) (id : String) (requests : List Request) : Prop :=
  ∀ before, before <+: requests →
    id ∉ (c.handleAll before).fleet.ids (c.handleAll before).coordinator.registry

/-- **An accepted message** raises the global vector to its own counters, and no further at any node
but the target. -/
theorem Covered.get_handle (h : c.Covered)
    (hnode : node ∉ c.fleet.ids c.coordinator.registry) (q : Request) :
    (c.handle q).coordinator.globalVector.get node =
      ((c.acceptedBy? q).toList.map (·.vector.get node)).foldl max
        (c.coordinator.globalVector.get node) := by
  rcases handle_cases c q with ⟨m, haccepted, ref, href, outcome, r, hprocess, -, hglobal⟩ |
    ⟨hnone, hglobal⟩
  · obtain ⟨hanswer, -, hvector⟩ := Replica.vector_of_process hprocess
    have hother : node ≠ (c.replica ref).id := by
      rintro rfl
      exact hnode (List.mem_map_of_mem href)
    -- the answer at this node is the larger of what the target had and what the message had
    have hget : outcome.vector.get node =
        max ((c.replica ref).vector.get node) (m.vector.get node) := by
      rw [hanswer, hvector, ← VersionVector.get_merge]
      split
      · rw [VersionVector.get_increment, if_neg hother]
      · rfl
    have hdominated : (c.replica ref).vector.get node ≤ c.coordinator.globalVector.get node :=
      VersionVector.get_le_of_dominates (h.dominated ref) node
    rw [haccepted, hglobal, VersionVector.get_merge, hget]
    show _ = max (c.coordinator.globalVector.get node) (m.vector.get node)
    rw [UInt64.le_iff_toNat_le] at hdominated
    rw [← UInt64.toNat_inj]
    simp only [UInt64.toNat_max]
    omega
  · rw [hnone, hglobal]
    rfl

theorem Covered.get_handleAll (h : c.Covered)
    (hbrings : ∀ q ∈ requests, q.Brings Replica.IsUncounted)
    (hnode : c.NeverListed node requests) :
    (c.handleAll requests).coordinator.globalVector.get node =
      ((c.accepted requests).map (·.vector.get node)).foldl max
        (c.coordinator.globalVector.get node) := by
  induction requests generalizing c with
  | nil => rfl
  | cons q rest ih =>
    have hfirst := h.get_handle (hnode [] List.nil_prefix) q
    have hrest : (c.handle q).NeverListed node rest :=
      fun before hbefore ↦ hnode (q :: before) (List.cons_prefix_cons.2 ⟨rfl, hbefore⟩)
    rw [accepted, List.map_append, List.foldl_append, ← hfirst]
    exact ih (h.handle (hbrings q List.mem_cons_self))
      (fun q hq ↦ hbrings q (List.mem_cons_of_mem _ hq)) hrest

/-- **The global vector**, in every state that a new cluster comes to by requests, when every
receiver has an empty vector as it is created or delivered. Since any earlier state of the run no
component has decreased. It dominates the vector of every receiver, registered or not. And for a
node that never was the id of a registered receiver its counter is the largest that an accepted
message had, zero when there was none. -/
theorem globalVector_exact (config : Config) (sink : SnapshotSink) (provisioner : Provisioner)
    (now : WallTime) (requests : List Request)
    (hdelivers : ∀ history slot r lines,
      provisioner history slot = .delivered r lines → r.IsUncounted)
    (hbrings : ∀ q ∈ requests, q.Brings Replica.IsUncounted) :
    let c := new config sink provisioner now
    let c' := c.handleAll requests
    (∀ before, before <+: requests → ∀ node,
      (c.handleAll before).coordinator.globalVector.get node ≤
        c'.coordinator.globalVector.get node) ∧
    (∀ ref, c'.coordinator.globalVector.dominates (c'.replica ref).vector = true) ∧
    ∀ node, c.NeverListed node requests →
      c'.coordinator.globalVector.get node =
        ((c.accepted requests).map (·.vector.get node)).foldl max 0 := by
  intro c c'
  have hnew : c.Covered :=
    { sound := new_sound fun history slot r lines hdelivered ↦
        dominates_of_isUncounted (hdelivers history slot r lines hdelivered)
      dominated := fun _ ↦ dominates_of_isUncounted rfl }
  refine ⟨?_, (hnew.handleAll hbrings).dominated, fun node hnode ↦ hnew.get_handleAll hbrings hnode⟩
  rintro before ⟨rest, rfl⟩ node
  show _ ≤ (c.handleAll (before ++ rest)).coordinator.globalVector.get node
  rw [handleAll_append]
  exact get_le_handleAll _ rest node

/-- A run in which the second reading has the lower clock, and its target joined after the first. -/
def lowerClock : List Request :=
  [.operation (.register { Replica.new "a" "" with state := .running, inbound := true }),
    .operation (.route (.data "m" "s" "t" 0.0 7 5) "host" 1),
    .operation (.register { Replica.new "b" "" with state := .running, inbound := true }),
    .operation (.route (.data "n" "s" "t" 0.0 8 3) "host" 1),
    .operation .sync]

/-- The global vector keeps the higher clock, and dominates the target of the lower one. -/
theorem globalVector_exact_lowerClock :
    let c := (new .default .discard .inMemory default).handleAll lowerClock
    c.coordinator.globalVector.get "s" = 5 ∧
      c.coordinator.globalVector.dominates (c.replica 1).vector = true := by
  intro c
  have hdelivers : ∀ history slot r lines,
      Provisioner.inMemory history slot = .delivered r lines → r.IsUncounted := by
    intro history slot r lines hanswer
    rw [delivered_inMemory hanswer]
    rfl
  have hbrings : ∀ q ∈ lowerClock, q.Brings Replica.IsUncounted := by
    simp [lowerClock, Request.Brings, Replica.IsUncounted, Replica.new]
  obtain ⟨-, hdominated, hexact⟩ :=
    globalVector_exact .default .discard .inMemory default lowerClock hdelivers hbrings
  have hnever : ∀ before ∈ lowerClock.inits,
      "s" ∉ ((new .default .discard .inMemory default).handleAll before).fleet.ids
        ((new .default .discard .inMemory default).handleAll before).coordinator.registry := by
    decide +kernel
  refine ⟨?_, hdominated 1⟩
  refine (hexact "s" fun before hbefore ↦ hnever before ((List.mem_inits ..).2 hbefore)).trans ?_
  decide +kernel

end Cluster

end SensorCluster
