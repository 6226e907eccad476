import SensorCluster.Replica

/-!
# The backup pool

Each slot of the pool is an identity for one replacement receiver. A slot is available, in use by
the receiver that was provisioned from it, or abandoned. **Every provisioning attempt counts for the
whole life of the slot**: a slot that has used up its attempts is abandoned when its last attempt
fails, or when the receiver it yielded is given back.

`BackupPool.tryEach` asks the available slots in pool order until one yields a receiver. What the
provisioner answers is up to it: it may deliver a receiver, refuse, or panic. It is a function of
the slots that were asked before, so any behaviour over time is one. A panic stops the pass where it
is: the attempt stays counted, and what was abandoned before it is not reported.
-/

namespace SensorCluster

/-- A slot as it is configured. -/
structure SlotConfig where
  id : String
  address : String
  maxAttempts : UInt32
  deriving DecidableEq, Repr, Inhabited

/-- Where a slot is in its life. -/
inductive SlotState
  | available
  | inUse
  | abandoned
  deriving DecidableEq, Repr, Inhabited

/-- The written name of a slot's state. -/
def SlotState.name : SlotState → String
  | available => "available"
  | inUse => "in_use"
  | abandoned => "abandoned"

/-- A slot of the pool. -/
structure BackupSlot where
  config : SlotConfig
  /-- Provisioning attempts made so far. -/
  attempts : UInt32
  state : SlotState
  deriving DecidableEq, Repr, Inhabited

namespace BackupSlot

/-- A slot as it begins. -/
def fresh (config : SlotConfig) : BackupSlot := ⟨config, 0, .available⟩

/-- Has it used up its attempts? -/
def isExhausted (s : BackupSlot) : Bool := s.config.maxAttempts ≤ s.attempts

/-- The slot with one more attempt counted. -/
def counted (s : BackupSlot) : BackupSlot := { s with attempts := s.attempts + 1 }

/-- The attempt that a log line tells of. -/
def attemptText (s : BackupSlot) : String := s!"(attempt {s.attempts}/{s.config.maxAttempts})"

end BackupSlot

/-- What a provisioner answers. -/
inductive Provisioning
  /-- A receiver, and what was logged while it was made. -/
  | delivered (receiver : Replica) (lines : List LogLine)
  | refused (cause : ClusterError)
  | panicked (text : String)

/-- Makes receivers from slots. The first argument lists the slots asked before, oldest first. -/
abbrev Provisioner := List String → SlotConfig → Provisioning

/-- Starts an empty receiver with the identity of the slot. -/
def Provisioner.inMemory : Provisioner := fun _ slot ↦
  let created := Replica.new slot.id slot.address
  match created.start with
  | .ok receiver => .delivered receiver created.startLines
  | .error cause => .refused cause

/-- How a pass over the pool ended. -/
inductive PoolOutcome
  /-- A slot yielded this receiver. -/
  | delivered (receiver : Replica)
  /-- No slot yielded one; the cause is that of the last slot asked. -/
  | failed (cause : ClusterError)
  | panicked (text : String)

/-- A slot that was given up, and its attempts. -/
structure Abandonment where
  slot : String
  attempts : UInt32
  deriving DecidableEq, Repr, Inhabited

/-- A pass over the pool. -/
structure PoolPass where
  /-- The slots afterwards. -/
  slots : List BackupSlot
  /-- The slots asked, in order. -/
  asked : List String
  /-- The slots abandoned, in order. -/
  abandoned : List Abandonment
  lines : List LogLine
  outcome : PoolOutcome

namespace BackupPool

/-- Asks the available slots in order until one yields a receiver. -/
def tryEach (provisioner : Provisioner) (history : List String)
    (lastCause : Option ClusterError) : List BackupSlot → PoolPass
  | [] => ⟨[], [], [], [], .failed (lastCause.getD .backupPoolEmpty)⟩
  | slot :: rest =>
    if slot.state ≠ .available then
      let pass := tryEach provisioner history lastCause rest
      { pass with slots := slot :: pass.slots }
    else if slot.attempts = UInt32.ofNat (UInt32.size - 1) then
      ⟨slot :: rest, [], [], [], .panicked "attempt to add with overflow"⟩
    else
      let id := slot.config.id
      let slot := slot.counted
      match provisioner history slot.config with
      | .delivered receiver lines =>
        ⟨{ slot with state := .inUse } :: rest, [id], [],
          lines ++ [.info s!"Provisioned {id} from backup pool {slot.attemptText}"],
          .delivered receiver⟩
      | .panicked text => ⟨slot :: rest, [id], [], [], .panicked text⟩
      | .refused cause =>
        let line : LogLine := .warn
          (s!"Provisioning {id} failed {slot.attemptText}: " ++ cause.message)
        if slot.isExhausted then
          let pass := tryEach provisioner (history ++ [id])
            (some (.recoveryExhausted id slot.attempts)) rest
          { pass with
            slots := { slot with state := .abandoned } :: pass.slots
            asked := id :: pass.asked
            abandoned := ⟨id, slot.attempts⟩ :: pass.abandoned
            lines := line :: pass.lines }
        else
          let pass := tryEach provisioner (history ++ [id]) (some cause) rest
          { pass with
            slots := slot :: pass.slots
            asked := id :: pass.asked
            lines := line :: pass.lines }

/-- Gives back the slot in use by the receiver of this id, if there is one: it becomes available
again, or is abandoned when its attempts are used up. -/
def release (id : String) : List BackupSlot → List BackupSlot × List Abandonment
  | [] => ([], [])
  | slot :: rest =>
    if slot.config.id = id ∧ slot.state = .inUse then
      if slot.isExhausted then
        ({ slot with state := .abandoned } :: rest, [⟨slot.config.id, slot.attempts⟩])
      else ({ slot with state := .available } :: rest, [])
    else
      let (rest, abandoned) := release id rest
      (slot :: rest, abandoned)

end BackupPool

end SensorCluster
