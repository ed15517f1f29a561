import EdgeGateway.Topic.Basic
import EdgeGateway.Message

/-!
# Interceptors

An interceptor sees every message that is about to be published and may change it, drop it or
fail. A chain hands each interceptor the message of the one before it and ends with the first that
drops or fails.
-/

namespace EdgeGateway

/-- Which way a forwarder moves messages: to the remote broker or from it. -/
inductive Direction where
  | outbound
  | inbound
  deriving DecidableEq, Repr

def Direction.text : Direction → String
  | .outbound => "outbound"
  | .inbound => "inbound"

structure BridgeContext where
  bridgeId : String
  direction : Direction
  deriving DecidableEq, Repr

inductive InterceptFault where
  | internal (text : String)
  deriving DecidableEq, Repr

def InterceptFault.message : InterceptFault → String
  | .internal text => s!"Internal error: {text}"

inductive Interception where
  | drop
  | pass (message : Message)
  deriving DecidableEq

abbrev Interceptor := BridgeContext → Message → Except InterceptFault Interception

namespace Interceptor

def passThrough : Interceptor := fun _ m => .ok (.pass m)

def chain : List Interceptor → Interceptor
  | [] => passThrough
  | first :: rest => fun context m =>
    match first context m with
    | .ok (.pass m) => chain rest context m
    | .ok .drop => .ok .drop
    | .error fault => .error fault

/-- A rule for messages that is given as data. -/
inductive Rule where
  | pass
  | append (text : String)
  | setTopic (topic : String)
  | property (name value : String)
  | drop
  | dropTopic (filter : String)
  | fail (text : String)
  | context
  | chain (rules : List Rule)
  deriving Inhabited

mutual

def Rule.interceptor : Rule → Interceptor
  | .pass => passThrough
  | .append text => fun _ m => .ok (.pass { m with topic := m.topic ++ text })
  | .setTopic topic => fun _ m => .ok (.pass { m with topic })
  | .property name value => fun _ m =>
    .ok (.pass { m with properties := m.properties ++ [{ name, value }] })
  | .drop => fun _ _ => .ok .drop
  | .dropTopic filter => fun _ m =>
    .ok (if Topic.matchesFilter m.topic filter then .drop else .pass m)
  | .fail text => fun _ _ => .error (.internal text)
  | .context => fun c m =>
    let property := { name := "ctx", value := s!"{c.bridgeId}/{c.direction.text}" }
    .ok (.pass { m with properties := m.properties ++ [property] })
  | .chain rules => Interceptor.chain (Rule.interceptors rules)

def Rule.interceptors : List Rule → List Interceptor
  | [] => []
  | rule :: rules => rule.interceptor :: Rule.interceptors rules

end

end Interceptor
end EdgeGateway
