import SensorCluster.Json.Basic

/-!
# Message ids

The id that a message gets when it is made: 128 bits, six of which are fixed, as 32 hexadecimal
digits in five groups. The thirteenth digit is always `4`, and the seventeenth one of `8`, `9`, `a`,
`b`; the other digits are those of a random number, so two messages practically never share an id.
-/

namespace SensorCluster.MessageId

/-- The hexadecimal digit at a position, counted from the left, of a number of 32 digits. -/
def digitAt (n position : Nat) : Nat := n / Nat.pow 16 (31 - position) % 16

/-- The digit of an id at a position: that of the random number, but for the two fixed places. -/
def fixed (random position : Nat) : Nat :=
  if position = 12 then 4
  else if position = 16 then 8 + digitAt random position % 4
  else digitAt random position

/-- The digits of an id from one position up to another. -/
def group (random first last : Nat) : List Char :=
  (List.range' first (last - first)).map fun position ↦ Json.hexDigit (fixed random position)

/-- The id made from a random number of 128 bits. -/
def ofRandom (random : Nat) : List Char :=
  group random 0 8 ++ '-' :: group random 8 12 ++ '-' :: group random 12 16 ++
    '-' :: group random 16 20 ++ '-' :: group random 20 32

/-- An id has 36 characters. -/
theorem length_ofRandom (random : Nat) : (ofRandom random).length = 36 := by
  simp [ofRandom, group]

/-- The first digit of the third group tells how the id was made: at random. -/
theorem getElem?_ofRandom (random : Nat) : (ofRandom random)[14]? = some '4' := by
  simp [ofRandom, group, fixed, List.range', Json.hexDigit, Nat.digitChar]

end SensorCluster.MessageId
