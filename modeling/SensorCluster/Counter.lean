/-!
# Counters

A counter is a 64-bit word that wraps to zero after its largest value.
-/

namespace SensorCluster

/-- A 64-bit count that wraps. -/
abbrev Counter := UInt64

namespace Counter

/-- A counter that has counted nothing. -/
def zero : Counter := 0

/-- Counts one more. -/
def increment (c : Counter) : Counter := c + 1

/-- Counts `n` more. -/
def add (c : Counter) (n : UInt64) : Counter := c + n

theorem increment_eq (c : Counter) : c.increment = c + 1 := rfl

/-- Short of its largest value a counter counts. -/
theorem toNat_increment {c : Counter} (h : c.toNat + 1 < UInt64.size) :
    c.increment.toNat = c.toNat + 1 := by
  rw [increment, UInt64.toNat_add]
  exact Nat.mod_eq_of_lt h

end Counter

end SensorCluster
