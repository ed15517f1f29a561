import EdgeGateway.Config.Decode
import EdgeGateway.Decode.Toml
import EdgeGateway.Toml.Reader

/-!
# Configurations from text

`Config.parse` reads one document and accepts only valid configurations.
-/

namespace EdgeGateway.Config

inductive ParseFault where
  | notToml
  | shape (fault : Decode.Fault)
  | invalid (fault : Fault)

def invalidText (fault : Fault) : String := s!"Validation error: {fault.message}"

def parse (text : String) : Except ParseFault Config :=
  match Toml.read? .plain text with
  | none => .error .notToml
  | some members =>
    match Config.read Decode.toml (.table members) with
    | .error fault => .error (.shape fault)
    | .ok config =>
      match config.validate with
      | .error fault => .error (.invalid fault)
      | .ok () => .ok config

end EdgeGateway.Config
