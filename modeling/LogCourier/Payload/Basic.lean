import LogCourier.Event.Basic
import LogCourier.Payload.Checksum
import LogCourier.Settings.Choice

/-! Payloads: a batch of events as the body of one request. -/

namespace LogCourier

/-- The body of a request, before compression, and what its receiver needs to know of it. -/
structure Payload where
  body : String
  compression : Compression
  events : Nat
  deriving DecidableEq, Repr

namespace Payload

/-- The text of a batch: a list of its events. -/
def text (batch : List Event) : String :=
  (Json.list (batch.map Event.json)).render

/-- The payload of a batch. -/
def encode (batch : List Event) (compression : Compression) : Payload :=
  ⟨text batch, compression, batch.length⟩

/-- The bytes of the body before compression. -/
def bytes (payload : Payload) : List UInt8 :=
  payload.body.toUTF8.toList

/-- The head of a compressed body: no name, no time, no particular system. -/
def gzipHead : List UInt8 :=
  [0x1f, 0x8b, 0x08, 0, 0, 0, 0, 0, 0, 0xff]

/-- The tail of a compressed body: checksum and length of what was compressed. -/
def gzipTail (payload : Payload) : List UInt8 :=
  let bytes := payload.bytes
  littleEndian (checksum bytes) ++ littleEndian (UInt32.ofNat bytes.length)

/-- Bytes in lower-case hexadecimal. -/
def hex (bytes : List UInt8) : String :=
  String.ofList <| bytes.flatMap fun byte =>
    [hexDigit (byte.toNat / 16), hexDigit (byte.toNat % 16)]

end Payload

end LogCourier
