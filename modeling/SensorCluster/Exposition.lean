/-!
# Metrics as text

The text form in which metrics are read by monitoring: two header lines for each metric, which say
what it is about and of which kind it is, and one line for each sample. **A label value stands
between its quotes as it is.**
-/

namespace SensorCluster.Exposition

/-- The header lines of a metric. -/
def header (name kind help : String) : String :=
  "# HELP " ++ name ++ " " ++ help ++ "\n# TYPE " ++ name ++ " " ++ kind ++ "\n"

/-- A metric with one sample. -/
def sample (name kind help : String) (value : UInt64) : String :=
  header name kind help ++ name ++ " " ++ toString value ++ "\n"

/-- One sample of a metric, told apart by a label. -/
def labelled (name label labelValue : String) (value : UInt64) : String :=
  name ++ "\x7b" ++ label ++ "=\"" ++ labelValue ++ "\"\x7d " ++ toString value ++ "\n"

end SensorCluster.Exposition
