/-!
# What can go wrong

`ClusterError` lists the refusals that operations answer with, by cause; the wording of each is in
`ClusterError.message`. A `Fault` is what stops an operation: **a refusal, or a panic**. A panic is
an outcome of the domain, because observers and provisioners are code from outside that may panic,
and the cluster promises to survive that.
-/

namespace SensorCluster

/-- Why an operation was refused. -/
inductive ClusterError
  /-- No receiver is running. -/
  | noHealthyReceivers
  /-- The receiver does not accept messages now. -/
  | receiverUnavailable (receiver : String)
  /-- No receiver is registered under the id. -/
  | unknownReceiver (receiver : String)
  /-- The receiver was retired and never runs again. -/
  | receiverRetired (receiver : String)
  /-- A backup slot yielded no receiver this time. -/
  | provisionFailed (slot reason : String)
  /-- A backup slot failed for the last time it was allowed to. -/
  | recoveryExhausted (slot : String) (attempts : UInt32)
  /-- No backup slot is left to try. -/
  | backupPoolEmpty
  /-- The configuration has a defect. -/
  | invalidConfig (defect : String)
  /-- The configuration could not be read. -/
  | configSource (reason : String)
  /-- Anything else. -/
  | internal (reason : String)
  deriving DecidableEq, Repr, Inhabited

namespace ClusterError

/-- The wording of a refusal. -/
def message : ClusterError → String
  | noHealthyReceivers => "No healthy receivers available"
  | receiverUnavailable receiver => "Receiver unavailable: " ++ receiver
  | unknownReceiver receiver => "Unknown receiver: " ++ receiver
  | receiverRetired receiver => s!"Receiver {receiver} is retired and cannot be restarted"
  | provisionFailed slot reason => s!"Provisioning failed for {slot}: {reason}"
  | recoveryExhausted slot attempts =>
    s!"Backup slot {slot} exhausted after {attempts} attempts"
  | backupPoolEmpty => "Backup pool has no usable slots"
  | invalidConfig defect => "Invalid configuration: " ++ defect
  | configSource reason => "Configuration source error: " ++ reason
  | internal reason => "Internal error: " ++ reason

/-- May the same call succeed when it is made again later? -/
def isRetryable : ClusterError → Bool
  | noHealthyReceivers | receiverUnavailable _ | provisionFailed _ _ => true
  | _ => false

/-- Does somebody have to act before such a call can succeed? -/
def isFatal : ClusterError → Bool
  | recoveryExhausted _ _ | backupPoolEmpty => true
  | _ => false

end ClusterError

/-- What stops an operation. -/
inductive Fault
  /-- The operation was refused. -/
  | refused (cause : ClusterError)
  /-- Code that the operation ran panicked with this text. -/
  | panicked (text : String)
  deriving DecidableEq, Repr, Inhabited

/-- The panic of a sum that leaves its machine word. -/
def Fault.additionOverflow : Fault := .panicked "attempt to add with overflow"

/-- The panic of a product that leaves its machine word. -/
def Fault.multiplicationOverflow : Fault := .panicked "attempt to multiply with overflow"

/-- The panic of a ticker that would tick without ever waiting. -/
def Fault.zeroPeriod : Fault := .panicked "`period` must be non-zero."

end SensorCluster
