/-!
# Reading records

A record is read from written data in two steps. First the data are brought to `Fields`, the
values of the record by the names of its fields; then each field is looked up by its name, as
required or with a default, and its value is read.

A `Decoding` says how written data of one kind are read: their plain values, their lists and their
records. **What is written in several kinds of data is read by one definition over all decodings**,
so the kinds can differ in how a number is taken from its text but not in which fields there are.
-/

namespace SensorCluster

/-- The fields of a record by name, as far as they are written. -/
abbrev Fields (V : Type) := List (String × V)

namespace Fields

variable {V α : Type}

/-- Reads a field that has to be there. -/
def required (fields : Fields V) (name : String) (read : V → Option α) : Option α :=
  match List.lookup name fields with
  | some value => read value
  | none => none

/-- Reads a field that has a default. -/
def optional (fields : Fields V) (name : String) (default : α) (read : V → Option α) :
    Option α :=
  match List.lookup name fields with
  | some value => read value
  | none => some default

end Fields

/-- How written data are read. -/
structure Decoding (V : Type) where
  /-- The value as a text. -/
  text? : V → Option String
  /-- The value as a whole number below a bound. -/
  below? : Nat → V → Option Nat
  /-- The value as a float. -/
  float? : V → Option Float
  /-- The value as the name of a constant. -/
  constant? : V → Option String
  /-- The value as a list. -/
  list? : V → Option (List V)
  /-- The value as a record with these field names. -/
  fields? : List String → V → Option (Fields V)

namespace Decoding

variable {V α : Type} (d : Decoding V)

/-- The value as a word of 64 bits. -/
def uint64? (v : V) : Option UInt64 := (d.below? UInt64.size v).map (·.toUInt64)

/-- The value as a word of 32 bits. -/
def uint32? (v : V) : Option UInt32 := (d.below? UInt32.size v).map (·.toUInt32)

/-- The value as a list whose items are all read by `read`. -/
def listOf? (read : V → Option α) (v : V) : Option (List α) :=
  d.list? v >>= fun items ↦ items.mapM read

end Decoding

end SensorCluster
