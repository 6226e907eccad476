/-!
# Blank characters

The characters that separate and surround text without being part of it: those with the Unicode
property `White_Space`. Trimming drops them at both ends. The mark by which a text can show its
encoding is no such character, and has its place at the beginning only.
-/

namespace SensorCluster.Text

/-- The ranges of characters, first and last included, that have the property `White_Space`. -/
def blankRanges : List (Nat × Nat) :=
  [(0x09, 0x0d), (0x20, 0x20), (0x85, 0x85), (0xa0, 0xa0), (0x1680, 0x1680), (0x2000, 0x200a),
    (0x2028, 0x2029), (0x202f, 0x202f), (0x205f, 0x205f), (0x3000, 0x3000)]

/-- Is the character blank? -/
def isBlank (c : Char) : Bool :=
  blankRanges.any fun r ↦ r.1 ≤ c.toNat && c.toNat ≤ r.2

/-- Drops the blank characters at both ends. -/
def trim (cs : List Char) : List Char :=
  (((cs.dropWhile isBlank).reverse).dropWhile isBlank).reverse

/-- Drops the mark that a text may begin with to show its encoding. -/
def dropMark : List Char → List Char
  | '\uFEFF' :: rest => rest
  | cs => cs

end SensorCluster.Text
