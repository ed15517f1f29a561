import EdgeGateway.Config.Parse
import EdgeGateway.Decode.Setting
import EdgeGateway.Settings.Environment

/-!
# Layered configurations

A configuration in effect has three layers: defaults, the document in a file and the environment.
-/

namespace EdgeGateway.Config

inductive File where
  | missing
  | text (text : String)
  /-- The system refused to read it, for a reason with the given name. -/
  | unreadable (reason : String)

inductive LoadFault where
  | unreadable (reason : String)
  | notToml
  | shape (fault : Decode.Fault)
  | invalid (fault : Fault)

def text (s : String) : Setting := .scalar .document (.text s)

def defaults : List (String × Setting) :=
  [("log.level", text "info"), ("forwarding.drain_timeout", text "5s")]

def File.layer (env : Environment) : File → Except LoadFault (List (String × Setting))
  | .missing => .ok []
  | .unreadable reason => .error (.unreadable reason)
  | .text content =>
    match Toml.read? .extended (env.substitute content) with
    | none => .error .notToml
    | some members => .ok (Setting.ofTomlMembers members)

def layered (env : Environment) (file : List (String × Setting)) : Setting :=
  (((Setting.table []).putAll defaults).putAll file).putAll env.overrides

def load (file : File) (env : Environment) : Except LoadFault Config :=
  match file.layer env with
  | .error fault => .error fault
  | .ok layer =>
    match Config.read Decode.settings (layered env layer) with
    | .error fault => .error (.shape fault)
    | .ok config =>
      match config.validate with
      | .error fault => .error (.invalid fault)
      | .ok () => .ok config

def shapeText (fault : Decode.Fault) : String := s!"Config error: {fault.placedMessage}"

def LoadFault.text : LoadFault → String
  | .unreadable reason => s!"IO error: {reason}"
  | .notToml => "Config error: the document is not TOML"
  | .shape fault => shapeText fault
  | .invalid fault => invalidText fault

end EdgeGateway.Config
