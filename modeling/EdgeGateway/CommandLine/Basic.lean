import EdgeGateway.Log

/-!
# Command line

Arguments are read from left to right. The first thing that decides what is to be done counts: a
request for help or for the version, or an argument that cannot be understood.
-/

namespace EdgeGateway

namespace CommandLine

structure Options where
  config : Option String := none
  logLevel : Option LogLevel := none
  check : Bool := false
  deriving DecidableEq, Repr

inductive Misuse where
  | unexpected (argument : String)
  | missingValue (option : String)
  | badValue (option value : String)
  | repeated (option : String)
  deriving DecidableEq, Repr

def Misuse.message : Misuse → String
  | .unexpected argument => s!"unexpected argument '{argument}'"
  | .missingValue option => s!"a value is required for '{option}'"
  | .badValue option value => s!"invalid value '{value}' for '{option}'"
  | .repeated option => s!"'{option}' cannot be used multiple times"

inductive Request where
  | run (options : Options)
  | help (long : Bool)
  | version
  | misuse (reason : Misuse)
  deriving DecidableEq, Repr

inductive Valued where
  | config
  | logLevel
  deriving DecidableEq, Repr

def Valued.name : Valued → String
  | .config => "--config"
  | .logLevel => "--log-level"

inductive Switch where
  | check
  | help (long : Bool)
  | version
  deriving DecidableEq, Repr

def checkName : String := "--check"

inductive Word where
  /-- An option with the value that is attached to it, if one is. -/
  | valued (option : Valued) (attached : Option String)
  | switch (switch : Switch)
  | unexpected
  | end
  deriving DecidableEq, Repr

def longWord (name : List Char) (value : Option (List Char)) : Word :=
  match String.ofList name, value with
  | "", none => .end
  | "config", value => .valued .config (value.map String.ofList)
  | "log-level", value => .valued .logLevel (value.map String.ofList)
  | "check", none => .switch .check
  | "help", none => .switch (.help true)
  | "version", none => .switch .version
  | _, _ => .unexpected

def shortWord (letter : Char) (rest : List Char) : Word :=
  let attached := match rest with
    | [] => none
    | '=' :: value => some (String.ofList value)
    | value => some (String.ofList value)
  match letter with
  | 'c' => .valued .config attached
  | 'l' => .valued .logLevel attached
  | 'h' => .switch (.help false)
  | 'V' => .switch .version
  | _ => .unexpected

def splitValue (cs : List Char) : List Char × Option (List Char) :=
  match cs.dropWhile (· ≠ '=') with
  | [] => (cs, none)
  | _ :: value => (cs.takeWhile (· ≠ '='), some value)

def word (argument : String) : Word :=
  match argument.toList with
  | '-' :: '-' :: rest => longWord (splitValue rest).1 (splitValue rest).2
  | '-' :: letter :: rest => shortWord letter rest
  | _ => .unexpected

def isValue (argument : String) : Bool :=
  match argument.toList with
  | '-' :: _ :: _ => false
  | _ => true

def Options.set (o : Options) (option : Valued) (value : String) : Except Misuse Options :=
  match option with
  | .config =>
    if value.isEmpty then .error (.badValue option.name value)
    else if o.config.isSome then .error (.repeated option.name)
    else .ok { o with config := value }
  | .logLevel =>
    match LogLevel.named? value with
    | none => .error (.badValue option.name value)
    | some level =>
      if o.logLevel.isSome then .error (.repeated option.name)
      else .ok { o with logLevel := level }

def readFrom (o : Options) : List String → Request
  | [] => .run o
  | argument :: rest =>
    match word argument with
    | .unexpected => .misuse (.unexpected argument)
    | .end =>
      match rest with
      | [] => .run o
      | next :: _ => .misuse (.unexpected next)
    | .switch (.help long) => .help long
    | .switch .version => .version
    | .switch .check =>
      if o.check then .misuse (.repeated checkName) else readFrom { o with check := true } rest
    | .valued option (some value) =>
      match o.set option value with
      | .ok o => readFrom o rest
      | .error reason => .misuse reason
    | .valued option none =>
      match rest with
      | [] => .misuse (.missingValue option.name)
      | value :: rest =>
        if isValue value then
          match o.set option value with
          | .ok o => readFrom o rest
          | .error reason => .misuse reason
        else .misuse (.missingValue option.name)

def read (arguments : List String) : Request := readFrom {} arguments

end CommandLine
end EdgeGateway
