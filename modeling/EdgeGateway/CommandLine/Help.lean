import EdgeGateway.Adapter.Type
import EdgeGateway.CommandLine.Basic

/-!
# Help

What the command line says about itself. The long form explains the log levels one by one.
-/

namespace EdgeGateway.CommandLine

def programName : String := "edgebridge"

def versionText : String := s!"{programName} {gatewayVersion}\n"

def defaultConfig : String := "edgebridge.toml"

def helpHead : List String :=
  ["MQTT edge gateway: bridges and protocol adapters", "", s!"Usage: {programName} [OPTIONS]", "",
    "Options:"]

def levelMeaning : LogLevel → String
  | .error => "Only errors"
  | .warn => "Warnings and errors"
  | .info => "Informational messages"
  | .debug => "Debug messages"
  | .trace => "Trace messages (very verbose)"

def levelNames : String := ", ".intercalate (LogLevel.all.map LogLevel.name)

def configMeaning : String := "Configuration file path (TOML format)"

def levelOptionMeaning : String := s!"Log level ({levelNames})"

def checkMeaning : String := "Validate the configuration and exit"

def shortHelp : List String :=
  [s!"  -c, --config <CONFIG>        {configMeaning} [default: {defaultConfig}]",
    s!"  -l, --log-level <LOG_LEVEL>  {levelOptionMeaning} [possible values: {levelNames}]",
    s!"      --check                  {checkMeaning}",
    "  -h, --help                   Print help (see more with \'--help\')",
    "  -V, --version                Print version"]

/-- A line of the long form about a level; the meanings stand in one column. -/
def levelLine (level : LogLevel) : String :=
  let gap := String.ofList (List.replicate (5 - level.name.length) ' ')
  s!"          - {level.name}: {gap}{levelMeaning level}"

def longHelp : List String :=
  ["  -c, --config <CONFIG>", s!"          {configMeaning}", "          ",
    s!"          [default: {defaultConfig}]", "", "  -l, --log-level <LOG_LEVEL>",
    s!"          {levelOptionMeaning}", "", "          Possible values:"] ++
  LogLevel.all.map levelLine ++
  ["", "      --check", s!"          {checkMeaning}", "", "  -h, --help",
    "          Print help (see a summary with \'-h\')", "", "  -V, --version",
    "          Print version"]

def helpText (long : Bool) : String :=
  String.join ((helpHead ++ if long then longHelp else shortHelp).map (· ++ "\n"))

end EdgeGateway.CommandLine
