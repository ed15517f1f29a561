import EdgeGateway.CommandLine.Help
import EdgeGateway.Config.Load

/-!
# Launch

What a command line comes to: something to be said, a complaint, or a gateway to be put in service.
-/

namespace EdgeGateway

inductive Launch where
  | say (text : String)
  | misuse (reason : CommandLine.Misuse)
  | refused (fault : Config.LoadFault)
  | serve (path : String) (config : Config) (level : LogLevel)

namespace Launch

def checkedText (path : String) (config : Config) : String :=
  s!"Configuration {Text.quoted path} is valid: {config.bridges.length} bridge(s), " ++
    s!"{config.adapters.length} adapter(s)\n"

/-- What arguments come to among certain files, in a certain environment. A level among the
arguments goes before the one in the configuration. -/
def ofArguments (fileAt : String → Config.File) (env : Environment) (arguments : List String) :
    Launch :=
  match CommandLine.read arguments with
  | .help long => .say (CommandLine.helpText long)
  | .version => .say CommandLine.versionText
  | .misuse reason => .misuse reason
  | .run options =>
    let path := options.config.getD CommandLine.defaultConfig
    match Config.load (fileAt path) env with
    | .error fault => .refused fault
    | .ok config =>
      if options.check then .say (checkedText path config)
      else .serve path config (options.logLevel.getD (.ofSetting config.logLevel))

/-- What the exit tells: 1 for a configuration that cannot be had, 2 for arguments that cannot be
understood. -/
def exitCode : Launch → Nat
  | .refused _ => 1
  | .misuse _ => 2
  | _ => 0

end Launch
end EdgeGateway
