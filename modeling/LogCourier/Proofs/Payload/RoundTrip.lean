import LogCourier.Payload.Basic
import LogCourier.Proofs.Event.Reading

/-! A receiver finds in the body of a payload exactly the events that it was made of. -/

namespace LogCourier

/-- The text of a batch decodes to the batch. -/
theorem Event.parseAll_text {batch : List Event}
    (floatless : ∀ event ∈ batch, event.isFloatless = true) :
    Event.parseAll (Payload.text batch) = .ok batch := by
  -- The decoder finds the outline of the text, and then each event is read from its own.
  rw [Event.parseAll, Payload.text, Json.decodeText_render]
  exact Outline.readList_list (by decide) fun event member =>
    Event.read_json (floatless event member) (by decide)

namespace Payload

/-- The body as it travels, compressed if the payload says so. -/
def sent (gzip : List UInt8 → List UInt8) (payload : Payload) : List UInt8 :=
  match payload.compression with
  | .none => payload.bytes
  | .gzip => gzip payload.bytes

/-- The bytes that a receiver unpacks from a body. -/
def unpack (gunzip : List UInt8 → Option (List UInt8)) (compression : Compression)
    (body : List UInt8) : Option (List UInt8) :=
  match compression with
  | .none => some body
  | .gzip => gunzip body

/-- The events that a receiver decodes from a body. -/
def receive (gunzip : List UInt8 → Option (List UInt8)) (compression : Compression)
    (body : List UInt8) : Option (List Event) := do
  let bytes ← unpack gunzip compression body
  let text ← String.fromUTF8? bytes.toByteArray
  (Event.parseAll text).toOption

/-- The bytes from a position on are listed behind those that are already there. -/
private theorem toList_loop (bytes : ByteArray) (start : Nat) (listed : List UInt8) :
    ByteArray.toList.loop bytes start listed = listed.reverse ++ bytes.data.toList.drop start := by
  -- The loop takes one byte after another until the array ends.
  induction start, listed using ByteArray.toList.loop.induct bytes with
  | case1 start listed inside ih =>
    have here : start < bytes.data.toList.length := by simpa using inside
    have byte : bytes.get! start = bytes.data.toList[start] := by
      rw [Array.getElem_toList]
      exact getElem!_pos bytes.data start inside
    rw [ByteArray.toList.loop, if_pos inside, ih, List.drop_eq_getElem_cons here, byte,
      List.reverse_cons, List.append_assoc]
    rfl
  | case2 start listed outside =>
    have past : bytes.data.toList.length ≤ start := by simpa using outside
    rw [ByteArray.toList.loop, if_neg outside, List.drop_eq_nil_of_le past, List.append_nil]

/-- A body reads back from its bytes. -/
private theorem fromUTF8?_bytes (payload : Payload) :
    String.fromUTF8? payload.bytes.toByteArray = some payload.body := by
  -- The bytes of a string are valid.
  have listed : payload.bytes = payload.body.toByteArray.data.toList := toList_loop _ 0 []
  have whole : payload.bytes.toByteArray = payload.body.toByteArray := by
    rw [listed]
    exact ByteArray.ext List.data_toByteArray
  rw [whole, String.fromUTF8?, dif_pos payload.body.isValidUTF8]
  rfl

/-- What is sent is unpacked to the bytes of the body. -/
private theorem unpack_sent {gzip : List UInt8 → List UInt8}
    {gunzip : List UInt8 → Option (List UInt8)}
    (inverse : ∀ bytes, gunzip (gzip bytes) = some bytes) (payload : Payload) :
    unpack gunzip payload.compression (payload.sent gzip) = some payload.bytes := by
  rcases payload with ⟨body, compression, events⟩
  -- Only a compressed body is packed.
  cases compression with
  | none => rfl
  | gzip => exact inverse _

/-- A receiver decodes exactly the events of a batch, and is told their number. -/
theorem receive_encode {gzip : List UInt8 → List UInt8} {gunzip : List UInt8 → Option (List UInt8)}
    (inverse : ∀ bytes, gunzip (gzip bytes) = some bytes) {batch : List Event}
    (floatless : ∀ event ∈ batch, event.isFloatless = true) (compression : Compression) :
    receive gunzip (encode batch compression).compression ((encode batch compression).sent gzip) =
      some batch ∧ (encode batch compression).events = batch.length := by
  -- The receiver unpacks, decodes the text and parses it, each of which undoes one step of sending.
  refine ⟨?_, rfl⟩
  have text : (encode batch compression).body = text batch := rfl
  simp only [receive, unpack_sent inverse, Option.bind_eq_bind, Option.bind_some, fromUTF8?_bytes,
    text, Event.parseAll_text floatless]
  rfl

/-- A payload of one event without a text. -/
def blank : Payload :=
  encode [default] .gzip

/-- The blank payload as it travels, between the head and the tail of compressed bodies. -/
def blankPacked : List UInt8 :=
  gzipHead ++
    [0x8b, 0xae, 0x56, 0x2a, 0xc9, 0xcc, 0x4d, 0x2d, 0x2e, 0x49, 0xcc, 0x2d, 0x50, 0xb2, 0x32,
      0xd0, 0x51, 0xca, 0x49, 0x2d, 0x4b, 0xcd, 0x51, 0xb2, 0x52, 0xf2, 0xf4, 0x73, 0xf3, 0x57,
      0xd2, 0x51, 0x02, 0x4a, 0x15, 0x27, 0xa6, 0xa7, 0x02, 0x05, 0x94, 0x6a, 0x63, 0x01] ++
    blank.gzipTail

/-- Compresses the blank payload, and puts a zero before whatever else it is given. -/
def packBlank (bytes : List UInt8) : List UInt8 :=
  if bytes = blank.bytes then blankPacked else 0 :: bytes

/-- Decompresses the blank payload, and takes away the zero from whatever starts with it. -/
def unpackBlank (body : List UInt8) : Option (List UInt8) :=
  if body = blankPacked then some blank.bytes
  else match body with
    | 0 :: bytes => some bytes
    | _ => none

/-- Packing is undone, since no compressed body starts with a zero. -/
theorem unpackBlank_packBlank (bytes : List UInt8) :
    unpackBlank (packBlank bytes) = some bytes := by
  -- The stand-in packs one text in a way of its own, and marks all others.
  by_cases known : bytes = blank.bytes
  · rw [packBlank, if_pos known, known]
    exact if_pos rfl
  · have other : 0 :: bytes ≠ blankPacked := by
      intro same
      exact absurd (List.cons.inj same).1 (by decide)
    rw [packBlank, if_neg known]
    exact if_neg other

/-- An event with quotes, controls and other scripts in its texts, and all kinds of attributes. -/
def ornate : Event where
  timestamp := .epoch
  severity := .error
  message := "\"[null]\" \x00\n \u00e9 😀"
  failure := some ⟨"", some "", ["\\", ""], []⟩
  origin := ⟨some "", none, some "caf\u00e9"⟩
  attributes := .ofList
    [("text", .text "7"), ("int", .int Int64.minValue), ("", .bool true), ("null", .null)]

/-- A blank event comes through compressed, and an ornate one among blank ones as it is. -/
theorem receive_encode_blank_ornate :
    (receive unpackBlank .gzip (blank.sent packBlank) = some [default] ∧ blank.events = 1) ∧
      receive unpackBlank .none ((encode [ornate, default] .none).sent packBlank) =
        some [ornate, default] ∧ (encode [ornate, default] .none).events = 2 :=
  ⟨receive_encode unpackBlank_packBlank (by decide) .gzip,
    receive_encode unpackBlank_packBlank (by decide) .none⟩

end Payload

end LogCourier
