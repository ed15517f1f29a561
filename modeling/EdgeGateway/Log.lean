import EdgeGateway.Text.Lowercase

/-!
# Log

Lines that a running gateway tells its operator, each with a level. A log shows the lines of its
level and of the graver ones.
-/

namespace EdgeGateway

inductive LogLevel where
  | error
  | warn
  | info
  | debug
  | trace
  deriving DecidableEq, Repr

namespace LogLevel

def all : List LogLevel := [.error, .warn, .info, .debug, .trace]

def name : LogLevel → String
  | .error => "error"
  | .warn => "warn"
  | .info => "info"
  | .debug => "debug"
  | .trace => "trace"

def text : LogLevel → String
  | .error => "ERROR"
  | .warn => "WARN"
  | .info => "INFO"
  | .debug => "DEBUG"
  | .trace => "TRACE"

def named? (name : String) : Option LogLevel := all.find? (·.name = name)

/-- The level that a configuration means. Capitals are as good as small letters, and whatever is
no name means `info`. -/
def ofSetting (setting : String) : LogLevel := (named? (Text.lowercase setting)).getD .info

def rank : LogLevel → Nat
  | .error => 0
  | .warn => 1
  | .info => 2
  | .debug => 3
  | .trace => 4

end LogLevel

structure LogLine where
  level : LogLevel
  text : String
  deriving DecidableEq, Repr

def LogLevel.shown (level : LogLevel) (lines : List LogLine) : List LogLine :=
  lines.filter fun line => line.level.rank ≤ level.rank

end EdgeGateway
