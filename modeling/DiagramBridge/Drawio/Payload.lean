import DiagramBridge.Codec.Base64
import DiagramBridge.Codec.Container
import DiagramBridge.Codec.Deflate
import DiagramBridge.Codec.Percent
import DiagramBridge.Error
import DiagramBridge.Text.Blank

/-!
# Page payloads

A page may be kept as a payload: its markup is percent-encoded, deflated and written in base 64.
Reading takes any of three containers for the deflated stream, in a fixed order, and the first that
holds a text counts. Bytes that inflate in no way are the text themselves.
-/

namespace DiagramBridge.Drawio.Payload

open Text Codec

/-- The payload of a text. -/
def encode (s : List Char) : List Char :=
  Base64.encode (Deflate.deflate (Utf8.encode (Percent.encode s)))

/-- The ways to inflate bytes, in the order in which they are tried. -/
def inflations : List (List UInt8 → Option (List UInt8)) :=
  [fun bytes => (Inflate.inflate? bytes).map (·.1), Container.zlib?, Container.gzip?]

/-- The text of the first container that holds one. -/
def inflatedText? (bytes : List UInt8) : Option (List Char) :=
  inflations.findSome? fun inflate => (inflate bytes).bind Utf8.decode?

/-- The text of a payload. White space inside it does not count. -/
def decode (payload : List Char) : Except ConversionError (List Char) :=
  let compact := payload.filter (!isBlank ·)
  if compact.isEmpty then .error .emptyPayload
  else
    match Base64.decode? compact with
    | none => .error .badPayload
    | some bytes =>
      match inflatedText? bytes with
      | some s => .ok (Percent.decode s)
      | none =>
        match Utf8.decode? bytes with
        | some s => .ok s
        | none => .error .badPayload

end DiagramBridge.Drawio.Payload
