import SensorCluster.Message

/-!
# The index of records

A `RecordIndex` keeps one record for each sensor. **The last write wins**: a candidate is stored
when its sensor has no record yet, or when it is later than the stored record by timestamp, or by
clock at the same timestamp. Any other candidate is discarded, and discarding is a conflict; so an
exact repetition is one too.
-/

namespace SensorCluster

/-- Why a candidate was discarded. -/
inductive ConflictReason
  /-- Its timestamp is older. -/
  | stale
  /-- Its timestamp is the same and its clock is not higher. -/
  | lowerClock
  deriving DecidableEq, Repr, Inhabited

/-- What became of a candidate. -/
inductive Resolution
  /-- It is the first record of its sensor. -/
  | inserted
  /-- It took the place of the stored record. -/
  | replaced
  /-- The stored record was kept. -/
  | discarded (reason : ConflictReason)
  deriving DecidableEq, Repr, Inhabited

namespace Resolution

/-- Was the candidate discarded? -/
def isConflict : Resolution → Bool
  | discarded _ => true
  | _ => false

/-- Was the candidate stored? -/
def isStored (r : Resolution) : Bool := !r.isConflict

/-- The form of a resolution in log lines. -/
def logText : Resolution → String
  | inserted => "Inserted"
  | replaced => "Replaced"
  | discarded .stale => "Discarded(Stale)"
  | discarded .lowerClock => "Discarded(LowerClock)"

end Resolution

/-- The records of a receiver, by sensor. -/
structure RecordIndex where
  records : KeyMap SensorRecord

namespace RecordIndex

/-- The index without records. -/
def empty : RecordIndex := ⟨.empty⟩

instance : Inhabited RecordIndex := ⟨empty⟩

/-- The record of a sensor. -/
def get? (i : RecordIndex) (sensor : String) : Option SensorRecord := i.records.get? sensor

/-- What becomes of a candidate whose sensor has the record `stored`. -/
def resolve (stored : Option SensorRecord) (candidate : SensorRecord) : Resolution :=
  match stored with
  | none => .inserted
  | some r =>
    if r.timestamp < candidate.timestamp then .replaced
    else if candidate.timestamp < r.timestamp then .discarded .stale
    else if r.clock < candidate.clock then .replaced
    else .discarded .lowerClock

/-- Offers a candidate to the index. -/
def apply (i : RecordIndex) (candidate : SensorRecord) : Resolution × RecordIndex :=
  let resolution := resolve (i.get? candidate.sensor) candidate
  (resolution,
    if resolution.isStored then ⟨i.records.insert candidate.sensor candidate⟩ else i)

/-- Only a stored candidate changes the record of a sensor, and only of its own. -/
theorem get?_apply (i : RecordIndex) (candidate : SensorRecord) (sensor : String) :
    (i.apply candidate).2.get? sensor =
      if sensor = candidate.sensor ∧
          (resolve (i.get? candidate.sensor) candidate).isStored = true
      then some candidate else i.get? sensor := by
  rw [apply]
  split
  · next h => simp only [h, and_true]; exact KeyMap.get?_insert ..
  · next h => simp [h]

/-- Removes the record of a sensor. -/
def remove (i : RecordIndex) (sensor : String) : RecordIndex := ⟨i.records.erase sensor⟩

/-- Does a sensor have a record? -/
def contains (i : RecordIndex) (sensor : String) : Bool := i.records.contains sensor

/-- The number of records. -/
def size (i : RecordIndex) : Nat := i.records.size

/-- Is there no record? -/
def isEmpty (i : RecordIndex) : Bool := i.records.isEmpty

/-- The sensors that have a record, in order. -/
def sensors (i : RecordIndex) : List String := i.records.keys

/-- The records, in the order of their sensors. -/
def sortedRecords (i : RecordIndex) : List SensorRecord := i.records.values

end RecordIndex

end SensorCluster
