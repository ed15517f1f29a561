import EdgeGateway.Config.Basic

/-!
# Configuration documents

Configurations as JSON, with everything that a file leaves to its default spelled out.
-/

namespace EdgeGateway

def BridgeSubscription.document (s : BridgeSubscription) : Json :=
  .ofMembers [("filters", .ofStrings s.filters), ("destination", .string s.destination),
    ("excludes", .ofStrings s.excludes), ("custom_user_properties", .ofPairs s.customProperties),
    ("preserve_retain", .bool s.preserveRetain), ("max_qos", .ofNat s.maxQos)]

def TlsConfig.document (t : TlsConfig) : Json :=
  .ofMembers [("ca_cert", .ofOption .string t.caCert),
    ("client_cert", .ofOption .string t.clientCert), ("client_key", .ofOption .string t.clientKey),
    ("insecure", .bool t.insecure), ("server_name", .ofOption .string t.serverName)]

def BridgeConfig.document (b : BridgeConfig) : Json :=
  .ofMembers [("id", .string b.id), ("host", .string b.host), ("port", .ofNat b.port),
    ("client_id", .ofOption .string b.clientId),
    ("effective_client_id", .string b.effectiveClientId), ("endpoint", .string b.endpoint),
    ("keep_alive", .ofNat b.keepAlive), ("session_expiry", .ofNat b.sessionExpiry),
    ("clean_start", .bool b.cleanStart), ("username", .ofOption .string b.username),
    ("password", .ofOption .string b.password),
    ("loop_prevention_enabled", .bool b.loopPrevention),
    ("loop_prevention_hop_count", .ofNat b.hopLimit),
    ("local_subscriptions", .array (b.localSubscriptions.map BridgeSubscription.document)),
    ("remote_subscriptions", .array (b.remoteSubscriptions.map BridgeSubscription.document)),
    ("tls", .ofOption TlsConfig.document b.tls)]

def AdapterConfig.document (a : AdapterConfig) : Json :=
  .ofMembers [("type", .string a.type), ("id", .string a.id), ("config", a.config)]

def Config.document (c : Config) : Json :=
  .ofMembers [("log", .ofMembers [("level", .string c.logLevel)]),
    ("forwarding", .ofMembers [("drain_timeout",
      .array [.ofNat c.drainTimeout.seconds, .ofNat c.drainTimeout.nanos])]),
    ("bridge", .array (c.bridges.map BridgeConfig.document)),
    ("adapter", .array (c.adapters.map AdapterConfig.document))]

end EdgeGateway
