import EdgeGateway.Adapter.Schema
import EdgeGateway.Adapter.Type
import EdgeGateway.Config.Bridge

/-!
# Adapter registry

The registry knows adapter types and runs instances of them. Each instance has a handler, which is
started when the instance is added and stopped before it is replaced or removed. Whatever can be
wrong with a change shows before any handler is started or stopped.
-/

namespace EdgeGateway

structure Handling (η : Type) where
  create : AdapterType → String → Json → Except AdapterFault η
  start : η → η × Except AdapterFault Unit
  stop : η → η × Except AdapterFault Unit

structure AdapterInstance where
  type : String
  config : Json
  handler : Nat
  startAttempted : Bool := false
  errorCount : Nat := 0
  lastError : Option String := none

def AdapterInstance.attempted (i : AdapterInstance) (answer : Except AdapterFault Unit) :
    AdapterInstance :=
  match answer with
  | .ok () => { i with startAttempted := true }
  | .error fault =>
    { i with startAttempted := true, errorCount := i.errorCount + 1, lastError := fault.message }

inductive HandlerCall where
  | start (handler : Nat)
  | stop (handler : Nat)
  deriving DecidableEq, Repr

structure Registry (η : Type) where
  types : Table AdapterType := {}
  instances : Table AdapterInstance := {}
  handlers : List η := []
  calls : List HandlerCall := []

namespace Registry

variable {η : Type}

instance : Inhabited (Registry η) := ⟨{}⟩

def register (r : Registry η) (type : AdapterType) : Except AdminFault (Registry η) :=
  if r.types.contains type.protocolId then .error (.typeAlreadyRegistered type.protocolId)
  else .ok { r with types := r.types.insert type.protocolId type }

def find (r : Registry η) (id : String) : Except AdminFault AdapterInstance :=
  match r.instances.find? id with
  | some i => .ok i
  | none => .error (.notFound .adapter id)

def createHandler (h : Handling η) (type : AdapterType) (id : String) (config : Json) :
    Except AdminFault η :=
  match Schema.check config type.schema with
  | [] => (h.create type id config).mapError fun fault => .adapter fault.message
  | violations => .error (.validation (violations.map (·.fault)))

def addHandler (r : Registry η) (handler : η) : Registry η × Nat :=
  ({ r with handlers := r.handlers ++ [handler] }, r.handlers.length)

def putInstance (r : Registry η) (id : String) (i : AdapterInstance) : Registry η :=
  { r with instances := r.instances.insert id i }

def callHandler (r : Registry η) (number : Nat) (call : HandlerCall)
    (f : η → η × Except AdapterFault Unit) : Registry η × Except AdapterFault Unit :=
  match r.handlers[number]? with
  | none => (r, .ok ())
  | some handler =>
    let (handler, answer) := f handler
    ({ r with handlers := r.handlers.set number handler, calls := r.calls ++ [call] }, answer)

/-- Starts the handler of an instance. Failure is only recorded. -/
def startInstance (h : Handling η) (r : Registry η) (id : String) (i : AdapterInstance) :
    Registry η :=
  let (r, answer) := r.callHandler i.handler (.start i.handler) h.start
  r.putInstance id (i.attempted answer)

def stopInstance (h : Handling η) (r : Registry η) (i : AdapterInstance) : Registry η :=
  (r.callHandler i.handler (.stop i.handler) h.stop).1

def idFault : AdminFault := .validation [{ field := "id", message := s!"Adapter id {idRule}" }]

def add (h : Handling η) (r : Registry η) (type id : String) (config : Json) :
    Registry η × Except AdminFault Unit :=
  if r.instances.contains id then (r, .error (.duplicateId .adapter id))
  else if !isValidId id then (r, .error idFault)
  else match r.types.find? type with
    | none => (r, .error (.unknownType type))
    | some t =>
      match createHandler h t id config with
      | .error fault => (r, .error fault)
      | .ok handler =>
        let (r, number) := r.addHandler handler
        (startInstance h r id { type, config, handler := number }, .ok ())

def update (h : Handling η) (r : Registry η) (id : String) (config : Json) :
    Registry η × Except AdminFault Unit :=
  match r.find id with
  | .error fault => (r, .error fault)
  | .ok old =>
    match r.types.find? old.type with
    | none => (r, .error (.unknownType old.type))
    | some t =>
      match createHandler h t id config with
      | .error fault => (r, .error fault)
      | .ok handler =>
        let (r, number) := r.addHandler handler
        let r := stopInstance h r old
        (startInstance h r id { type := old.type, config, handler := number }, .ok ())

def delete (h : Handling η) (r : Registry η) (id : String) : Registry η × Except AdminFault Unit :=
  match r.find id with
  | .error fault => (r, .error fault)
  | .ok old =>
    let r := stopInstance h r old
    ({ r with instances := r.instances.erase id }, .ok ())

def shutdown (h : Handling η) (r : Registry η) : Registry η :=
  r.instances.values.foldl (stopInstance h) { r with instances := {} }

def handler? (r : Registry η) (id : String) : Option η := do
  let i ← r.instances.find? id
  r.handlers[i.handler]?

/-- The status of every instance. -/
def statuses (status : η → ConnectionStatus) (r : Registry η) : List (String × ConnectionStatus) :=
  r.instances.keys.filterMap fun id => (r.handler? id).map fun handler => (id, status handler)

def instancesOfType (r : Registry η) (type : String) :
    Except AdminFault (List (String × AdapterInstance)) :=
  if r.types.contains type then .ok (r.instances.entries.filter (·.2.type = type))
  else .error (.notFound .adapterType type)

end Registry
end EdgeGateway
