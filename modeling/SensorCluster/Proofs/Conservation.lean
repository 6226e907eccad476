import SensorCluster.Proofs.Deliveries
import Mathlib.Algebra.BigOperators.Group.Finset.Basic

/-!
# Routed messages are conserved

Three kinds of counters follow the same messages. The coordinator counts every message that is
handed over, and those of them that nobody accepted; each receiver counts the messages it has seen.
**As long as data are not copied, they balance** (`routed_conserved`): what the coordinator counts
as accepted is what all receivers together count, whoever of them was stopped, retired or
unregistered since.

## What it rests on

* The coordinator's two counters are in its ledger, and only a route makes entries there. So they
  follow the answers of the routes in every history (`ledger_of_history`).
* An accepted message is one more with the receiver that the answer names, and with nobody else
  (`route_totals`). Nothing else in the service of a cluster changes a count (`service_totals`),
  other than the restore of a running receiver that is registered. **It is counted when it is
  applied**, so its absence can be read off the counters of the replication.
* Counters are words. The equations are among words, and up to a word of messages among numbers.
-/

namespace SensorCluster

/-! ### Service -/

/-- Is a message routed by the operation, or does a registry or the life of a receiver change? -/
def Operation.IsService : Operation → Prop
  | register _ | unregister _ | route .. | pin _ | unregisterSensor _ => True
  | start _ | stop _ | detach _ | recover _ | retire _ => True
  | subscribe _ | unsubscribe _ => True
  | _ => False

/-- Is it in the service of the cluster: a message is routed, a receiver comes or goes, or its life
changes? -/
def Happening.IsService : Happening → Prop
  | request (.operation op) _ => op.IsService
  | request (.create _) _ | request (.enroll _) _ => True
  | fail _ | stopReceivers | joinPool _ | leavePool _ => True
  | removeRecord .. | tellTime _ | openChannel | closeChannel _ | drain _ => True
  | _ => False

/-- In the service of a cluster messages come in by routes only. -/
theorem Happening.IsService.ne_process {e : Happening} (h : e.IsService) (ref : ReplicaRef)
    (m : Message) : e ≠ .process ref m := by
  rintro rfl
  exact h

namespace Cluster

variable {c c' : Cluster} {e : Happening} {history : List Happening} {ref other : ReplicaRef}

/-- The receivers to which messages were delivered, once for each message. -/
def recipients (c : Cluster) (history : List Happening) : List ReplicaRef :=
  (c.deliveries history).map Delivery.ref

/-- The receivers that were registered at any time. -/
def everRegistered (c : Cluster) (history : List Happening) : Finset ReplicaRef :=
  (history.inits.flatMap fun before ↦ (c.undergoAll before).coordinator.registry).toFinset

/-- The replication never counts a restore. -/
def NeverRestores (c : Cluster) (history : List Happening) : Prop :=
  ∀ before, before <+: history → (c.undergoAll before).replication.counters.restores = 0

/-- Who was ever registered was so after some beginning of the history. -/
theorem mem_everRegistered : ref ∈ c.everRegistered history ↔
    ∃ before, before <+: history ∧ ref ∈ (c.undergoAll before).coordinator.registry := by
  simp [everRegistered]

/-! ### The ledger -/

/-- **One happening** is counted by the coordinator as it was answered. -/
theorem undergo_counters (c : Cluster) (e : Happening) :
    (c.undergo e).coordinator.totalMessages =
        c.coordinator.totalMessages + UInt64.ofNat (c.answer? e).toList.length ∧
      (c.undergo e).coordinator.failedRoutes =
        c.coordinator.failedRoutes + UInt64.ofNat ((c.answer? e).toList.countP (!·.isOk)) := by
  cases hanswer : c.answer? e with
  | none =>
    -- What is no route leaves the ledger alone.
    have hledger := undergo_ledger hanswer
    exact ⟨(congrArg Ledger.totalMessages hledger).trans (UInt64.add_zero _).symm,
      (congrArg Ledger.failedRoutes hledger).trans (UInt64.add_zero _).symm⟩
  | some answer =>
    obtain ⟨m, host, port, -, rfl, rfl⟩ := route_of_answer hanswer
    rcases tryRoute_spec (c := c) m host port with
      ⟨_, _, _, _, _, hok, -, hledger⟩ | ⟨_, herror, -, hledger⟩
    · rw [hok]
      exact ⟨congrArg Ledger.totalMessages hledger,
        (congrArg Ledger.failedRoutes hledger).trans (UInt64.add_zero _).symm⟩
    · rw [herror]
      exact ⟨congrArg Ledger.totalMessages hledger, congrArg Ledger.failedRoutes hledger⟩

/-- The coordinator counts the messages that were routed, and those that nobody accepted. -/
theorem ledger_of_history (config : Config) (sink : SnapshotSink) (provisioner : Provisioner)
    (now : WallTime) (history : List Happening) :
    let c := new config sink provisioner now
    (c.undergoAll history).coordinator.totalMessages = UInt64.ofNat (c.answers history).length ∧
      (c.undergoAll history).coordinator.failedRoutes =
        UInt64.ofNat ((c.answers history).countP (!·.isOk)) := by
  intro c
  induction history using List.reverseRecOn with
  | nil => exact ⟨rfl, rfl⟩
  | append_singleton history e ih =>
    obtain ⟨htotal, hfailed⟩ := (c.undergoAll history).undergo_counters e
    rw [undergoAll_concat, answers_concat, List.length_append, List.countP_append, UInt64.ofNat_add,
      UInt64.ofNat_add, htotal, hfailed, ih.1, ih.2]
    exact ⟨rfl, rfl⟩

/-! ### Counts of receivers -/

/-- Nobody counts another number of messages. -/
def KeepsTotals (c c' : Cluster) : Prop := ∀ ref, (c'.replica ref).total = (c.replica ref).total

namespace KeepsTotals

theorem refl (c : Cluster) : c.KeepsTotals c := fun _ ↦ rfl

theorem trans {c'' : Cluster} (h : c.KeepsTotals c') (h' : c'.KeepsTotals c'') :
    c.KeepsTotals c'' :=
  fun ref ↦ (h' ref).trans (h ref)

/-- A receiver is put in the place of one that counts as many. -/
theorem put {r : Replica} (hfleet : c'.fleet = c.fleet.set ref r)
    (h : r.total = (c.replica ref).total) :
    c.KeepsTotals c' := by
  intro other
  rw [replica, hfleet]
  exact Fleet.apply_get_set Replica.total h other

end KeepsTotals

/-- A newcomer without messages counts as many as nobody at all. -/
theorem create_totals {r : Replica} (h : r.total = 0) : c.KeepsTotals (c.create r).2 := by
  intro ref
  show ((c.fleet.add r).2.get ref).total = (c.fleet.get ref).total
  by_cases hheld : c.fleet.Holds ref
  · rw [Fleet.get_add_of_holds hheld]
  · -- whom the number stood for before counts no message either
    rcases c.fleet.get_add_cases r ref with hsame | hadded
    · rw [hsame]
    · rw [hadded, h, Fleet.get_of_not_holds hheld]
      rfl

theorem start_totals (ref : ReplicaRef) : c.KeepsTotals (c.start ref).2 := by
  rw [start]
  cases h : (c.replica ref).start with
  | ok r =>
    obtain rfl := Replica.start_eq_ok h
    exact .put rfl rfl
  | error cause => exact .refl c

theorem recover_totals (ref : ReplicaRef) : c.KeepsTotals (c.recover ref).2 := by
  rw [recover, Replica.recover]
  cases h : (c.replica ref).start with
  | ok r =>
    obtain rfl := Replica.start_eq_ok h
    exact .put rfl rfl
  | error cause => exact .refl c

theorem stop_totals (ref : ReplicaRef) : c.KeepsTotals (c.stop ref).2 :=
  .put rfl (by rw [Replica.stop_snd])

theorem stopReceivers_totals : c.KeepsTotals c.stopReceivers :=
  List.foldlRecOn (motive := c.KeepsTotals) _ _ (.refl c) fun _ h ref _ ↦ h.trans (stop_totals ref)

theorem unregisterSensor_totals (sensor : String) :
    c.KeepsTotals (c.unregisterSensor sensor).2 := by
  have hforgotten : ∀ ref, ((c.core.forgetAll sensor c.core.registry).get ref).total =
      (c.core.get ref).total :=
    List.foldlRecOn (motive := fun k : Core ↦ ∀ ref, (k.get ref).total = (c.core.get ref).total)
      _ _ (fun _ ↦ rfl) fun k h target _ ref ↦
        (Fleet.apply_get_set Replica.total
          (r := ((k.get target).removeRecord sensor).2) rfl ref).trans (h ref)
  rw [← unregisterSensor_core] at hforgotten
  exact hforgotten

/-- A restore that is not counted was not applied. -/
theorem restoreFromBestPeer_totals
    (h : (c.restoreFromBestPeer ref).2.replication.counters.restores =
      c.replication.counters.restores) : c.KeepsTotals (c.restoreFromBestPeer ref).2 := by
  rw [restoreFromBestPeer] at h ⊢
  dsimp only at h ⊢
  split at h
  · exact .refl c
  · next peer _ =>
    cases happlied : (c.restore ref (c.snapshot peer)).1 with
    | true =>
      rw [if_pos happlied] at h
      exact absurd (UInt64.add_eq_left.1 h) (by decide)
    | false =>
      rw [if_neg Bool.false_ne_true]
      exact .put rfl (congrArg Replica.total (Replica.restore_of_not_applied happlied))

/-- Who joins the pool may be bootstrapped, which copies a count. That is a restore, and it is
counted. -/
theorem joinPool_totals
    (h : (c.joinPool ref).2.replication.counters.restores = c.replication.counters.restores) :
    c.KeepsTotals (c.joinPool ref).2 := by
  rw [joinPool] at h ⊢
  split at h
  · exact .refl c
  · dsimp only at h ⊢
    split at h
    · next hrunning =>
      rw [if_pos hrunning]
      exact restoreFromBestPeer_totals h
    · next hdown =>
      rw [if_neg hdown]
      exact .refl c

/-- The same can happen at a registration, and at no other point of it. -/
theorem register_totals
    (h : (c.register ref).2.replication.counters.restores = c.replication.counters.restores) :
    c.KeepsTotals (c.register ref).2 := by
  obtain ⟨-, lines, heq⟩ | ⟨-, lines, heq⟩ := c.register_cases ref <;> rw [heq] at h ⊢
  · exact .refl c
  · exact joinPool_totals (c := c.modifyCoordinator _) h

theorem unregister_totals (id : String) : c.KeepsTotals (c.unregister id).2 := by
  obtain heq | ⟨ref, lines, -, heq⟩ := c.unregister_cases id <;> rw [heq] <;> exact .refl c

/-- **In the service of a cluster** nobody's count changes but by a route, as long as no restore is
counted. -/
theorem service_totals (hservice : e.IsService) (hbrings : e.Brings (·.total = 0))
    (hanswer : c.answer? e = none)
    (hrestores : (c.undergo e).replication.counters.restores = c.replication.counters.restores) :
    c.KeepsTotals (c.undergo e) := by
  cases e with
  | request q hcall =>
    cases q with
    | operation op =>
      cases op with
      | register r =>
        -- A registration is a creation first. Only what comes after can copy data.
        exact (create_totals hbrings).trans (register_totals (c := (c.create r).2) hrestores)
      | unregister id => exact unregister_totals id
      | route m host port => cases hanswer
      | unregisterSensor sensor => exact unregisterSensor_totals sensor
      | start ref => exact start_totals ref
      | stop ref => exact stop_totals ref
      | detach ref => exact .put rfl rfl
      | recover ref => exact recover_totals ref
      | retire ref => exact .put rfl rfl
      | pin | subscribe | unsubscribe => exact .refl c
      | _ => exact hservice.elim
    | create r => exact create_totals hbrings
    | enroll ref =>
      rw [undergo, handle] at hrestores ⊢
      split at hrestores
      · next hheld =>
        rw [if_pos hheld]
        exact register_totals hrestores
      · next hnobody =>
        rw [if_neg hnobody]
        exact .refl c
    | syncPair | restore => exact hservice.elim
  | fail ref => exact stop_totals ref
  | stopReceivers => exact stopReceivers_totals
  | joinPool ref => exact joinPool_totals hrestores
  | removeRecord ref sensor => exact .put rfl rfl
  | leavePool | tellTime | openChannel | closeChannel | drain => exact .refl c
  | moment | process | restore | changeSink | write | startReports
    | endReports => exact hservice.elim

/-- **An accepted message** is one more with its recipient, and with nobody else; a refused one is
with nobody. -/
theorem route_totals (hids : (c.fleet.ids c.coordinator.registry).Nodup) (m : Message)
    (host : String) (port : UInt16) (ref : ReplicaRef) :
    ((c.tryRoute m host port).2.replica ref).total = (c.replica ref).total +
      UInt64.ofNat (((c.routed? m host port).toList.map Delivery.ref).count ref) := by
  rw [routed?]
  rcases tryRoute_spec (c := c) m host port with
    ⟨target, htarget, outcome, r, hprocess, hanswer, hcore, -⟩ | ⟨cause, hanswer, hcore, -⟩ <;>
    rw [hanswer]
  -- The answer names the recipient, since no two registered receivers have its id.
  · have hfound : c.registered? (c.replica target).id = some target :=
      Fleet.find?_of_mem hids htarget
    have hfleet : (c.tryRoute m host port).2.fleet = c.fleet.set target r :=
      congrArg Core.fleet hcore
    have hheld : c.fleet.Holds target := Fleet.holds_of_isRunning (Replica.process_eq_ok hprocess).1
    simp only [hfound]
    rw [replica, hfleet, Fleet.get_set hheld]
    show _ = _ + UInt64.ofNat ([target].count ref)
    split
    · next heq =>
      rw [heq, List.count_singleton_self, (Replica.vector_of_process hprocess).2.1]
      rfl
    · next hne =>
      rw [List.count_singleton, if_neg (by simpa using Ne.symm hne)]
      exact (UInt64.add_zero _).symm
  · rw [replica, show (c.tryRoute m host port).2.fleet = c.fleet from congrArg Core.fleet hcore]
    exact (UInt64.add_zero _).symm

/-- **One happening in the service** of a cluster is counted by the recipient of its message. -/
theorem undergo_totals (hids : (c.fleet.ids c.coordinator.registry).Nodup) (hservice : e.IsService)
    (hbrings : e.Brings (·.total = 0))
    (hrestores : (c.undergo e).replication.counters.restores = c.replication.counters.restores)
    (ref : ReplicaRef) :
    ((c.undergo e).replica ref).total = (c.replica ref).total +
      UInt64.ofNat (((c.delivery? e).toList.map Delivery.ref).count ref) := by
  cases hanswer : c.answer? e with
  | none =>
    have hlength := length_delivery? hids hservice.ne_process
    rw [hanswer] at hlength
    rw [List.eq_nil_of_length_eq_zero hlength,
      service_totals hservice hbrings hanswer hrestores ref]
    exact (UInt64.add_zero _).symm
  | some answer =>
    obtain ⟨m, host, port, -, rfl, -⟩ := route_of_answer hanswer
    exact route_totals hids m host port ref

/-! ### Balance -/

/-- Words are added up as numbers, up to a word. -/
theorem ofNat_sum_toNat_ofNat {ι : Type} (s : Finset ι) (f : ι → ℕ) :
    UInt64.ofNat (∑ i ∈ s, (UInt64.ofNat (f i)).toNat) = UInt64.ofNat (∑ i ∈ s, f i) := by
  induction s using Finset.cons_induction with
  | empty => rfl
  | cons i s hi ih =>
    rw [Finset.sum_cons, Finset.sum_cons, UInt64.ofNat_add, UInt64.ofNat_add, ih,
      UInt64.ofNat_toNat]

/-- One more happening has one more recipient, or none. -/
theorem recipients_concat (c : Cluster) (history : List Happening) (e : Happening) :
    c.recipients (history ++ [e]) =
      c.recipients history ++ ((c.undergoAll history).delivery? e).toList.map Delivery.ref := by
  rw [recipients, deliveries_concat, List.map_append]
  rfl

/-- Where no restore is counted up to the end, none was before, and the last happening counts none.
-/
theorem NeverRestores.concat (h : c.NeverRestores (history ++ [e])) :
    c.NeverRestores history ∧
      ((c.undergoAll history).undergo e).replication.counters.restores =
        (c.undergoAll history).replication.counters.restores := by
  refine ⟨fun before hbefore ↦ h before (hbefore.trans (List.prefix_append ..)), ?_⟩
  rw [← undergoAll_concat, h _ (List.prefix_refl _), h _ (List.prefix_append ..)]

/-- Each receiver counts the messages that were delivered to it. -/
theorem totals_of_history (hdistinct : c.StaysDistinct) (hfirst : ∀ ref, (c.replica ref).total = 0)
    (hservice : ∀ e ∈ history, e.IsService) (hbrings : ∀ e ∈ history, e.Brings (·.total = 0))
    (hnever : c.NeverRestores history) (ref : ReplicaRef) :
    ((c.undergoAll history).replica ref).total =
      UInt64.ofNat ((c.recipients history).count ref) := by
  induction history using List.reverseRecOn with
  | nil => exact hfirst ref
  | append_singleton history e ih =>
    obtain ⟨hnever, hrestores⟩ := hnever.concat
    have hcounted := ih (fun e he ↦ hservice e (List.mem_append_left _ he))
      (fun e he ↦ hbrings e (List.mem_append_left _ he)) hnever
    rw [undergoAll_concat, recipients_concat, List.count_append, UInt64.ofNat_add, ← hcounted]
    exact undergo_totals (hdistinct history) (hservice e (by simp)) (hbrings e (by simp))
      hrestores ref

/-- The recipient of a message that is routed is registered. -/
theorem registered_of_delivery {d : Delivery} (hservice : e.IsService)
    (h : c.delivery? e = some d) :
    d.ref ∈ c.coordinator.registry := by
  rw [delivery?.eq_def] at h
  split at h
  · rw [routed?] at h
    split at h
    · obtain ⟨ref, hfind, rfl⟩ := Option.map_eq_some_iff.1 h
      exact (Fleet.mem_of_find? hfind).1
    · cases h
  · exact hservice.elim
  · cases h

/-- Who accepted a message was registered when it did. -/
theorem recipients_subset (hservice : ∀ e ∈ history, e.IsService) :
    ∀ ref ∈ c.recipients history, ref ∈ c.everRegistered history := by
  induction history using List.reverseRecOn with
  | nil => exact fun _ href ↦ absurd href List.not_mem_nil
  | append_singleton history e ih =>
    intro ref href
    rw [recipients_concat] at href
    rcases List.mem_append.1 href with href | href
    · obtain ⟨before, hbefore, hlisted⟩ := mem_everRegistered.1
        (ih (fun e he ↦ hservice e (List.mem_append_left _ he)) ref href)
      exact mem_everRegistered.2 ⟨before, hbefore.trans (List.prefix_append ..), hlisted⟩
    · obtain ⟨d, hd, rfl⟩ := List.mem_map.1 href
      refine mem_everRegistered.2 ⟨history, List.prefix_append .., ?_⟩
      exact registered_of_delivery (hservice e (by simp)) (Option.mem_toList.1 hd)

/-- Everybody who was ever registered taken together, each message has one recipient. -/
theorem sum_count_recipients (hservice : ∀ e ∈ history, e.IsService) :
    ∑ ref ∈ c.everRegistered history, (c.recipients history).count ref =
      (c.recipients history).length := by
  have hsum := Multiset.sum_count_eq_card (m := (c.recipients history : Multiset ReplicaRef))
    (recipients_subset hservice)
  simpa only [Multiset.coe_count, Multiset.coe_card] using hsum

/-- **Routed messages are conserved**, in every history in which messages are routed, receivers come
and go and live their lives, receivers begin without messages and no restore is counted.

* The coordinator counts the routes that were accepted and those that failed.
* Each accepted message has one recipient, and each receiver counts the messages that it received.
* All receivers that were ever registered together count the accepted messages.

Counters are words. The equations are among words, and if there are fewer routes than words, among
numbers. -/
theorem routed_conserved (config : Config) (sink : SnapshotSink) (provisioner : Provisioner)
    (now : WallTime) (history : List Happening) (hservice : ∀ e ∈ history, e.IsService)
    (hbrings : ∀ e ∈ history, e.Brings (·.total = 0))
    (hnever : (new config sink provisioner now).NeverRestores history) :
    let c := new config sink provisioner now
    let c' := c.undergoAll history
    let accepted := (c.answers history).countP Except.isOk
    let counted := ∑ ref ∈ c.everRegistered history, (c'.replica ref).total.toNat
    c'.coordinator.totalMessages = UInt64.ofNat accepted + c'.coordinator.failedRoutes ∧
    (c.recipients history).length = accepted ∧
    (∀ ref, (c'.replica ref).total = UInt64.ofNat ((c.recipients history).count ref)) ∧
    UInt64.ofNat counted = UInt64.ofNat accepted ∧
    ((c.answers history).length < UInt64.size →
      c'.coordinator.totalMessages.toNat = accepted + c'.coordinator.failedRoutes.toNat ∧
        (∀ ref, (c'.replica ref).total.toNat = (c.recipients history).count ref) ∧
        counted = accepted) := by
  intro c c' accepted counted
  have hdistinct : c.StaysDistinct := new_staysDistinct config sink provisioner now
  obtain ⟨htotal, hfailed⟩ :
      c'.coordinator.totalMessages = UInt64.ofNat (c.answers history).length ∧
      c'.coordinator.failedRoutes = UInt64.ofNat ((c.answers history).countP (!·.isOk)) :=
    ledger_of_history config sink provisioner now history
  -- Each route was answered well or badly, so that the two counters share its messages.
  have hsplit : (c.answers history).length = accepted + (c.answers history).countP (!·.isOk) := by
    rw [List.length_eq_countP_add_countP Except.isOk]
    simp [accepted]
  have hrecipients : (c.recipients history).length = accepted := by
    rw [recipients, List.length_map]
    exact hdistinct.length_deliveries fun e he ↦ (hservice e he).ne_process
  have htotals : ∀ ref, (c'.replica ref).total = UInt64.ofNat ((c.recipients history).count ref) :=
    totals_of_history hdistinct (fun _ ↦ rfl) hservice hbrings hnever
  have hsum : ∑ ref ∈ c.everRegistered history, (c.recipients history).count ref = accepted :=
    (sum_count_recipients hservice).trans hrecipients
  refine ⟨?_, hrecipients, htotals, ?_, fun hfew ↦ ?_⟩
  · rw [htotal, hfailed, hsplit, UInt64.ofNat_add]
  · simp only [counted, htotals]
    rw [ofNat_sum_toNat_ofNat, hsum]
  -- No receiver counts more than all that was accepted, so below a word of routes no count wraps.
  · have hexact : ∀ ref, (c'.replica ref).total.toNat = (c.recipients history).count ref := by
      intro ref
      have hcount : (c.recipients history).count ref ≤ (c.recipients history).length :=
        List.count_le_length
      rw [htotals, UInt64.toNat_ofNat_of_lt' (by omega)]
    refine ⟨?_, hexact, ?_⟩
    · rw [htotal, hfailed, UInt64.toNat_ofNat_of_lt' hfew, UInt64.toNat_ofNat_of_lt' (by omega)]
      exact hsplit
    · simp only [counted, hexact]
      exact hsum

/-- Two receivers take messages in turn. One is stopped and refuses a message that was meant for it;
then the other one takes one more and leaves, and nobody is there for the last message. -/
def oneByOne : List Happening :=
  [.request (.operation (.register (.new "a" "a:1"))) trivial,
    .request (.operation (.start 0)) trivial,
    .request (.operation (.register (.new "b" "b:1"))) trivial,
    .request (.operation (.start 1)) trivial,
    .request (.operation (.route (.data "m" "s" "t" 0.0 7 5) "host" 1)) trivial,
    .request (.operation (.route (.heartbeat "n" "s" "t" 8) "host" 1)) trivial,
    .fail 0,
    .request (.operation (.pin "a")) trivial,
    .request (.operation (.route (.heartbeat "o" "s" "t" 9) "host" 1)) trivial,
    .request (.operation (.route (.data "p" "s" "t" 0.0 7 6) "host" 1)) trivial,
    .request (.operation (.unregister "b")) trivial,
    .request (.operation (.route (.data "q" "s" "t" 0.0 7 7) "host" 1)) trivial]

/-- Of five messages two failed. The other three were counted by the receiver that was stopped and
by the one that left. -/
theorem routed_conserved_oneByOne :
    let c := new .default .discard .inMemory default
    let c' := c.undergoAll oneByOne
    let accepted := (c.answers oneByOne).countP Except.isOk
    c'.coordinator.registry = [0] ∧ c'.coordinator.failedRoutes.toNat = 2 ∧ accepted = 3 ∧
      c'.coordinator.totalMessages.toNat = accepted + c'.coordinator.failedRoutes.toNat ∧
      (c'.replica 0).total.toNat + (c'.replica 1).total.toNat = accepted := by
  have hservice : ∀ e ∈ oneByOne, e.IsService := by
    simp [oneByOne, Happening.IsService, Operation.IsService]
  have hbrings : ∀ e ∈ oneByOne, e.Brings (·.total = 0) := by
    simp [oneByOne, Happening.Brings, Request.Brings, Replica.new]
  have hrestores : ∀ before ∈ oneByOne.inits, ((new .default .discard .inMemory default).undergoAll
      before).replication.counters.restores = 0 := by decide +kernel
  have hever : (new .default .discard .inMemory default).everRegistered oneByOne = {0, 1} := by
    decide +kernel
  obtain ⟨-, -, -, -, hexact⟩ :=
    routed_conserved .default .discard .inMemory default oneByOne hservice hbrings
      fun before hbefore ↦ hrestores before ((List.mem_inits ..).2 hbefore)
  obtain ⟨htotal, -, hcounted⟩ := hexact (by decide +kernel)
  rw [hever, Finset.sum_pair Nat.zero_ne_one] at hcounted
  exact ⟨by decide +kernel, by decide +kernel, by decide +kernel, htotal, hcounted⟩

end Cluster

end SensorCluster
