/-!
# Log lines

A log line is a level and a text. **Logging is data**: an operation that logs gives back the lines
it wrote, in the order it wrote them, and nothing is printed here.
-/

namespace SensorCluster

/-- How serious a log line is. -/
inductive LogLevel
  | trace
  | debug
  | info
  | warn
  | error
  deriving DecidableEq, Repr, Inhabited

/-- One line of the log. -/
structure LogLine where
  level : LogLevel
  text : String
  deriving DecidableEq, Repr, Inhabited

namespace LogLine

/-- A line for the tracing of single messages. -/
def trace (text : String) : LogLine := ⟨.trace, text⟩

/-- A line for developers. -/
def debug (text : String) : LogLine := ⟨.debug, text⟩

/-- A line about the normal course of things. -/
def info (text : String) : LogLine := ⟨.info, text⟩

/-- A line about something that went wrong and was dealt with. -/
def warn (text : String) : LogLine := ⟨.warn, text⟩

/-- A line about something that went wrong and needs attention. -/
def error (text : String) : LogLine := ⟨.error, text⟩

/-- The line as it is written: the level in capitals, then the text. -/
def render (line : LogLine) : String :=
  let level := match line.level with
    | .trace => "TRACE"
    | .debug => "DEBUG"
    | .info => "INFO"
    | .warn => "WARN"
    | .error => "ERROR"
  level ++ " " ++ line.text

end LogLine

end SensorCluster
