import EdgeGateway.Config.Basic
import EdgeGateway.Decode.Basic

/-!
# Reading configurations

The typed readers of all configuration records, for any document format.
-/

namespace EdgeGateway

open Decode

variable {ν : Type}

def readProperty (f : Format ν) : ν → Result (String × String) :=
  f.record "CustomUserProperty" 2 fun r =>
    Part.of Prod.mk
      |>.ap (r.field 0 "key" f.string .refused)
      |>.ap (r.field 1 "value" f.string .refused)

def BridgeSubscription.read (f : Format ν) : ν → Result BridgeSubscription :=
  f.record "BridgeSubscription" 6 fun r =>
    Part.of BridgeSubscription.mk
      |>.ap (r.field 0 "filters" (f.list f.string) .refused)
      |>.ap (r.field 1 "destination" f.string (.anywhere Topic.Template.passThrough))
      |>.ap (r.field 2 "excludes" (f.list f.string) (.anywhere []))
      |>.ap (r.field 3 "custom_user_properties" (f.list (readProperty f)) (.anywhere []))
      |>.ap (r.field 4 "preserve_retain" f.flag (.anywhere false))
      |>.ap (r.field 5 "max_qos" (f.word 8) (.anywhere 1))

def TlsConfig.read (f : Format ν) : ν → Result TlsConfig :=
  f.record "BridgeTlsConfig" 5 fun r =>
    Part.of TlsConfig.mk
      |>.ap (r.field 0 "ca_cert" (f.optional f.string) (.named none))
      |>.ap (r.field 1 "client_cert" (f.optional f.string) (.named none))
      |>.ap (r.field 2 "client_key" (f.optional f.string) (.named none))
      |>.ap (r.field 3 "insecure" f.flag (.anywhere false))
      |>.ap (r.field 4 "server_name" (f.optional f.string) (.named none))

def BridgeConfig.read (f : Format ν) : ν → Result BridgeConfig :=
  let subscriptions := f.list (BridgeSubscription.read f)
  f.record "BridgeConfig" 14 fun r =>
    Part.of BridgeConfig.mk
      |>.ap (r.field 0 "id" f.string .refused)
      |>.ap (r.field 1 "host" f.string .refused)
      |>.ap (r.field 2 "port" (f.word 16) (.anywhere 1883))
      |>.ap (r.field 3 "client_id" (f.optional f.string) (.anywhere none))
      |>.ap (r.field 4 "keep_alive" (f.word 16) (.anywhere 60))
      |>.ap (r.field 5 "session_expiry" (f.word 32) (.anywhere 3600))
      |>.ap (r.field 6 "clean_start" f.flag (.anywhere true))
      |>.ap (r.field 7 "username" (f.optional f.string) (.named none))
      |>.ap (r.field 8 "password" (f.optional f.string) (.named none))
      |>.ap (r.field 9 "loop_prevention_enabled" f.flag (.anywhere true))
      |>.ap (r.field 10 "loop_prevention_hop_count" (f.word 32) (.anywhere 1))
      |>.ap (r.field 11 "local_subscriptions" subscriptions (.anywhere []))
      |>.ap (r.field 12 "remote_subscriptions" subscriptions (.anywhere []))
      |>.ap (r.field 13 "tls" (f.optional (TlsConfig.read f)) (.anywhere none))

def AdapterConfig.read (f : Format ν) : ν → Result AdapterConfig :=
  f.record "AdapterInstanceConfig" 3 fun r =>
    Part.of AdapterConfig.mk
      |>.ap (r.field 0 "type" f.string .refused)
      |>.ap (r.field 1 "id" f.string .refused)
      |>.ap (r.field 2 "config" (fun v => .ok (f.opaqueValue v)) (.anywhere (.object [])))

def readLogLevel (f : Format ν) : ν → Result String :=
  f.record "LogConfig" 1 fun r => r.field 0 "level" f.string (.anywhere "info")

def readDuration (f : Format ν) (v : ν) : Result Duration := do
  let text ← f.text v "a duration"
  match Duration.parse? text with
  | some d => return d
  | none => .error { cause := .value (describeText text) "a duration" }

def readDrainTimeout (f : Format ν) : ν → Result Duration :=
  f.record "ForwardingConfig" 1 fun r =>
    r.field 0 "drain_timeout" (readDuration f) (.anywhere { seconds := 5 })

def Config.read (f : Format ν) : ν → Result Config :=
  f.record "Config" 4 fun r =>
    Part.of Config.mk
      |>.ap (r.field 0 "log" (readLogLevel f) (.anywhere "info"))
      |>.ap (r.field 1 "forwarding" (readDrainTimeout f) (.anywhere { seconds := 5 }))
      |>.ap (r.field 2 "bridge" (f.list (BridgeConfig.read f)) (.anywhere []))
      |>.ap (r.field 3 "adapter" (f.list (AdapterConfig.read f)) (.anywhere []))

end EdgeGateway
