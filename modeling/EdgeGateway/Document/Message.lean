import EdgeGateway.Adapter.Publish
import EdgeGateway.Json.Printer

/-!
# Message documents

Messages as JSON. Bytes are a text if they are one in UTF-8, and otherwise an object with their
hexadecimal digits.
-/

namespace EdgeGateway

namespace Document

def hexText (b : ByteArray) : String :=
  String.ofList (b.toList.flatMap fun x =>
    [Json.hexDigit (x.toNat / 16), Json.hexDigit (x.toNat % 16)])

def bytesOfHex : List Char → List UInt8
  | a :: b :: rest =>
    (((Text.hexValue? a).getD 0) * 16 + (Text.hexValue? b).getD 0).toUInt8 :: bytesOfHex rest
  | _ => []

def ofBytes (b : ByteArray) : Json :=
  match String.fromUTF8? b with
  | some s => .string s
  | none => .ofMembers [("hex", .string (hexText b))]

/-- The bytes of a document; there are none where it is neither a text nor has digits. -/
def bytes : Json → ByteArray
  | .string s => s.toUTF8
  | j =>
    let digits := ((j.member? "hex").bind Json.string?).getD ""
    ⟨(bytesOfHex digits.toList).toArray⟩

def ofProperties (ps : List UserProperty) : Json := .ofPairs (ps.map fun p => (p.name, p.value))

end Document

open Document

def Message.document (m : Message) : Json :=
  .ofMembers [("topic", .string m.topic), ("payload", ofBytes m.payload),
    ("qos", .ofNat m.qos.toNat), ("retain", .bool m.retain),
    ("properties", ofProperties m.properties), ("expiry", .ofOption (.ofNat ·.toNat) m.expiry),
    ("content_type", .ofOption .string m.contentType),
    ("response_topic", .ofOption .string m.responseTopic),
    ("correlation_data", .ofOption ofBytes m.correlationData),
    ("payload_format", .ofOption (.ofNat ·.toNat) m.payloadFormat)]

def AdapterPublish.document (p : AdapterPublish) : Json :=
  .ofMembers [("topic", .string p.topic), ("payload", ofBytes p.payload),
    ("qos", .ofNat p.qos.toNat), ("expiry", .ofOption (.ofNat ·.toNat) p.expiry),
    ("context", .ofTable (p.context.map .string)), ("properties", ofProperties p.properties)]

def FieldSubscription.document (s : FieldSubscription) : Json :=
  .ofMembers [("node_id", .string s.nodeId), ("topic", .string s.topic),
    ("qos", .ofNat s.qos.toNat), ("expiry", .ofOption (.ofNat ·.toNat) s.expiry)]

end EdgeGateway
