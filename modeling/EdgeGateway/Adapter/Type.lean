import EdgeGateway.Adapter.Node
import EdgeGateway.Simulation.Config

/-!
# Adapter types

A type tells what kind of device its instances speak to, which configurations they take and how
they are made.
-/

namespace EdgeGateway

inductive Category where
  | industrial
  | building
  | transportation
  | simulation
  deriving DecidableEq, Repr

def Category.text : Category → String
  | .industrial => "industrial"
  | .building => "building"
  | .transportation => "transportation"
  | .simulation => "simulation"

inductive Tag where
  | udp
  | tcp
  | serial
  | ethernet
  deriving DecidableEq, Repr

def Tag.text : Tag → String
  | .udp => "UDP"
  | .tcp => "TCP"
  | .serial => "SERIAL"
  | .ethernet => "ETHERNET"

inductive AdapterMake where
  /-- They do as their configuration says. -/
  | scripted
  | simulated
  deriving DecidableEq, Repr

structure AdapterType where
  protocolId : String
  name : String := ""
  description : String := ""
  version : String := ""
  author : String := ""
  url : String := ""
  category : Category := .industrial
  tags : List Tag := []
  schema : Json := .null
  make : AdapterMake := .scripted

def gatewayVersion : String := "0.0.0-dev"

def Simulation.adapterType : AdapterType where
  protocolId := Simulation.protocolId
  name := "Simulated Edge Device"
  description := "Publishes random values on a fixed interval"
  version := gatewayVersion
  author := "EdgeBridge Contributors"
  category := .simulation
  schema := Simulation.schema
  make := .simulated

end EdgeGateway
