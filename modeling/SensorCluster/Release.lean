/-!
# The release

What a node says of itself: its version, and the version together with the program's name.
-/

namespace SensorCluster.Release

/-- The name of the program. -/
def program : String := "sensorkv"

/-- The version. -/
def version : String := "0.1.0"

/-- The version with the name of the program. -/
def build : String := s!"{version} ({program})"

end SensorCluster.Release
