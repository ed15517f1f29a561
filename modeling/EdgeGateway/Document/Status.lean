import EdgeGateway.Document.Config
import EdgeGateway.Gateway.Operation

/-!
# Status documents

What a gateway shows of its bridges, adapters and adapter types, as JSON.
-/

namespace EdgeGateway

mutual

/-- Empty lists of children and empty metadata are left out. -/
def NodeTree.document : NodeTree → Json
  | ⟨nodeId, name, children, metadata⟩ =>
    .ofMembers ([("node_id", .string nodeId), ("name", .string name)] ++
      (if children.isEmpty then [] else [("children", .array (NodeTree.documents children))]) ++
      if metadata.isEmpty then [] else [("metadata", .ofTable (metadata.map .string))])

def NodeTree.documents : List NodeTree → List Json
  | [] => []
  | child :: rest => child.document :: NodeTree.documents rest

end

def AdapterType.document (t : AdapterType) : Json :=
  .ofMembers [("protocol_id", .string t.protocolId), ("name", .string t.name),
    ("description", .string t.description), ("version", .string t.version),
    ("author", .string t.author), ("url", .string t.url), ("category", .string t.category.text),
    ("tags", .ofStrings (t.tags.map Tag.text)), ("schema", t.schema)]

namespace Gateway

def instanceDocument (g : Gateway) (id : String) (i : AdapterInstance) : Json :=
  .ofMembers [("id", .string id), ("type", .string i.type), ("config", i.config),
    ("runtime", .ofMembers [("last_start_attempt", .bool i.startAttempted),
      ("error_count", .ofNat i.errorCount), ("last_error", .ofOption .string i.lastError),
      ("connection", .ofOption (.string ·.status.text) (g.registry.handler? id))])]

def bridgeDocument (g : Gateway) (id : String) (l : Link) : Json :=
  .ofMembers [("id", .string id), ("endpoint", .string l.config.endpoint),
    ("connection", .string (g.bridgeStatus l).text), ("forwarders", .ofNat l.lanes.length),
    ("inflight", .ofNat (g.bridges.linkInflight l))]

def laneDocument (g : Gateway) (l : Lane) : Json :=
  let f := l.forwarder
  .ofMembers [("id", .string f.id), ("bridge", .string f.bridgeId),
    ("direction", .string f.direction.text), ("topics", .ofStrings f.filters),
    ("target", .string (g.targetName l.target)), ("running", .bool l.running),
    ("inflight", .ofNat l.inflight)]

def linkDocument (g : Gateway) (id : String) (l : Link) : Json :=
  .ofMembers [("id", .string id), ("config", l.config.document),
    ("remote", .string (g.targetName (.remote l.remote))),
    ("status", .string (g.bridgeStatus l).text), ("inflight", .ofNat (g.bridges.linkInflight l)),
    ("forwarders", .array ((l.lanes.filterMap (g.traffic.lanes[·]?)).map g.laneDocument))]

end Gateway
end EdgeGateway
