import Tftp.Wire.Encode

/-!
# Decoding

Reading a datagram as a message. Malformed input is an error, never a crash, and the faults are
reported in this order: a datagram shorter than its header (`truncated`, with the length of the
whole datagram), an unknown opcode, a missing terminator (filename first, then mode), non-ASCII
text (filename first), and a DATA payload over 512 bytes. Bytes after the grammatical part of a
request or an ACK are ignored. An ERROR message runs to its first NUL or to the end, is read as
lossy UTF-8, and an unknown error code reads as code 0.
-/

namespace Tftp

/-- Splits at the first NUL: the bytes before it and the bytes after it. -/
def splitAtNul (bytes : List UInt8) : Option (List UInt8 × List UInt8) :=
  match bytes.span (· != 0) with
  | (field, _ :: rest) => some (field, rest)
  | (_, []) => none

/-- A NUL-terminated field, or the error that names it. -/
def takeField (field : TextField) (bytes : List UInt8) :
    Except CodecError (List UInt8 × List UInt8) :=
  match splitAtNul bytes with
  | some r => .ok r
  | none => .error (.missingTerminator field)

/-- The text of a field whose bytes must be ASCII. -/
def fieldText (field : TextField) (bytes : List UInt8) : Except CodecError String :=
  if Utf8.isAscii bytes then .ok (Utf8.ofAscii bytes) else .error (.invalidText field)

/-- The body of a request: filename, mode, then anything. -/
def decodeRequest (op : Operation) (body : List UInt8) : Except CodecError Packet := do
  let (f, rest) ← takeField .filename body
  let (m, _) ← takeField .mode rest
  let filename ← fieldText .filename f
  let mode ← fieldText .mode m
  return .request op filename mode

namespace Packet

/-- Reads a datagram as a message. -/
def decode (d : List UInt8) : Except CodecError Packet :=
  match d with
  | hi :: lo :: body =>
    let raw := wordOf hi lo
    match Opcode.ofNat? raw.toNat with
    | none => .error (.unknownOpcode raw)
    | some .rrq => decodeRequest .read body
    | some .wrq => decodeRequest .write body
    | some .del => decodeRequest .delete body
    | some .data =>
      match body with
      | b1 :: b2 :: payload =>
        if payload.length > maxPayload then .error (.payloadTooLarge payload.length)
        else .ok (.data (wordOf b1 b2) payload)
      | _ => .error (.truncated d.length)
    | some .ack =>
      match body with
      | b1 :: b2 :: _ => .ok (.ack (wordOf b1 b2))
      | _ => .error (.truncated d.length)
    | some .error =>
      match body with
      | b1 :: b2 :: text =>
        .ok (.error (ErrorCode.ofNatOrUndefined (wordOf b1 b2).toNat)
          (Utf8.decodeLossy (text.takeWhile (· != 0))))
      | _ => .error (.truncated d.length)
  | _ => .error (.truncated d.length)

end Packet

end Tftp
