import Tftp.Proofs.Text.Utf8
import Mathlib

/-!
# Reading datagrams

Which datagrams `Packet.decode` reads and what it reports on the others, against a grammar of
datagrams stated apart from the decoder. `Packet.Reads d p` says that `d` has the layout of the
message `p`: an opcode from 1 to 6, then a request's NUL-terminated ASCII filename and mode, a DATA
block number and at most 512 bytes, an ACK block number, or an ERROR code and a message up to its
first NUL; anything may follow a request, an ACK or an ERROR's NUL. `Packet.Faults d e` says which
fault `e` a datagram outside the grammar has, each fault's datagrams passing every check made
before it. `decode_grammar` states that the decoder reads exactly the grammar, reports exactly
the faults, and that writing a message read from a datagram gives back the datagram's grammatical
part.

Writing a message read from a written ERROR does not always give back the datagram: writing cuts
the message at a byte, which can fall inside a character, and reading puts U+FFFD for the partial
character. `toBytes_decode_toBytes` states what comes back instead, and `WritesBack` when that is
the datagram: exactly when the bytes of the cut character are leading bytes of U+FFFD, `EF BF BD`.
-/

namespace Tftp

/-! ## Words and NUL-terminated fields -/

theorem toNat_wordOf (hi lo : UInt8) : (wordOf hi lo).toNat = hi.toNat * 256 + lo.toNat := by
  have := hi.toNat_lt
  have := lo.toNat_lt
  simp only [wordOf, Nat.toUInt16, UInt16.toNat_ofNat']
  omega

/-- Two bytes are the big-endian form of the word they spell. -/
theorem wordBytes_wordOf (hi lo : UInt8) : wordBytes (wordOf hi lo).toNat = [hi, lo] := by
  have := hi.toNat_lt
  have := lo.toNat_lt
  simp only [wordBytes, toNat_wordOf, List.cons.injEq, and_true]
  constructor <;> apply UInt8.toNat_inj.1 <;>
    simp only [Nat.toUInt8, UInt8.toNat_ofNat'] <;> omega

theorem bne_zero_of_not_mem {l : List UInt8} (h : 0 ∉ l) : ∀ b ∈ l, (b != 0) = true :=
  fun _ hb => bne_iff_ne.2 fun e => h (e ▸ hb)

theorem splitAtNul_of_not_mem {l : List UInt8} (h : 0 ∉ l) : splitAtNul l = none := by
  have hd : l.dropWhile (· != 0) = [] := List.dropWhile_eq_nil_iff.2 (bne_zero_of_not_mem h)
  unfold splitAtNul
  rw [List.span_eq_takeWhile_dropWhile, hd]

theorem splitAtNul_eq_none {l : List UInt8} (h : splitAtNul l = none) : 0 ∉ l := by
  intro h0
  have hd : l.dropWhile (· != 0) ≠ [] := by
    intro hnil
    have hall := List.dropWhile_eq_nil_iff.1 hnil 0 h0
    simp at hall
  unfold splitAtNul at h
  rw [List.span_eq_takeWhile_dropWhile] at h
  split at h
  · cases h
  · rename_i heq
    exact hd (Prod.mk.inj heq).2

theorem splitAtNul_eq_some {l f r : List UInt8} (h : splitAtNul l = some (f, r)) :
    0 ∉ f ∧ l = f ++ 0 :: r := by
  unfold splitAtNul at h
  rw [List.span_eq_takeWhile_dropWhile] at h
  split at h
  · rename_i field z rest heq
    simp only [Option.some.injEq, Prod.mk.injEq] at h
    obtain ⟨rfl, rfl⟩ := h
    simp only [Prod.mk.injEq] at heq
    obtain ⟨hf, hd⟩ := heq
    have hz : z = 0 := by
      have := List.head_dropWhile_not (· != 0) (show l.dropWhile (· != 0) ≠ [] by simp [hd])
      simpa [hd] using this
    subst hz
    refine ⟨fun h0 => ?_, ?_⟩
    · have := List.mem_takeWhile_imp (hf ▸ h0)
      simp at this
    · rw [← hf, ← hd, List.takeWhile_append_dropWhile]
  · cases h

/-! ## Reading each kind of message -/

theorem decode_unknownOpcode {raw : UInt16} (h : Opcode.ofNat? raw.toNat = none)
    (body : List UInt8) : Packet.decode (wordBytes raw.toNat ++ body) = .error (.unknownOpcode raw) := by
  simp only [wordBytes, List.cons_append, List.nil_append, Packet.decode,
    wordOf_wordBytes raw.toNat_lt, UInt16.ofNat_toNat, h]

theorem decode_request_body (op : Operation) (body : List UInt8) :
    Packet.decode (wordBytes (Opcode.ofOperation op).toNat ++ body) = decodeRequest op body := by
  simp only [wordBytes, List.cons_append, List.nil_append, Packet.decode,
    toNat_wordOf_wordBytes (Opcode.toNat_lt _), Opcode.ofNat?_toNat]
  cases op <;> rfl

theorem decode_shortHeader {op : Opcode} (hop : op.isRequest = false) {body : List UInt8}
    (h : body.length < 2) :
    Packet.decode (wordBytes op.toNat ++ body) =
      .error (.truncated (wordBytes op.toNat ++ body).length) := by
  simp only [wordBytes, List.cons_append, List.nil_append, Packet.decode,
    toNat_wordOf_wordBytes (Opcode.toNat_lt _), Opcode.ofNat?_toNat]
  cases op with
  | rrq | wrq | del => cases hop
  | data | ack | error =>
    -- a body of fewer than two bytes is empty or one byte
    rcases body with _ | ⟨b, _ | ⟨c, rest⟩⟩
    · rfl
    · rfl
    · simp at h

theorem decode_data_body (block : UInt16) (payload : List UInt8) :
    Packet.decode (wordBytes Opcode.data.toNat ++ wordBytes block.toNat ++ payload) =
      if payload.length > maxPayload then .error (.payloadTooLarge payload.length)
      else .ok (.data block payload) := by
  simp only [wordBytes, List.cons_append, List.nil_append, Packet.decode,
    toNat_wordOf_wordBytes Opcode.data.toNat_lt, Opcode.ofNat?_toNat, wordOf_wordBytes_toUInt16]

theorem decode_ack_body (block : UInt16) (rest : List UInt8) :
    Packet.decode (wordBytes Opcode.ack.toNat ++ wordBytes block.toNat ++ rest) =
      .ok (.ack block) := by
  simp only [wordBytes, List.cons_append, List.nil_append, Packet.decode,
    toNat_wordOf_wordBytes Opcode.ack.toNat_lt, Opcode.ofNat?_toNat, wordOf_wordBytes_toUInt16]

theorem decode_error_body (code : UInt16) (text : List UInt8) :
    Packet.decode (wordBytes Opcode.error.toNat ++ wordBytes code.toNat ++ text) =
      .ok (.error (ErrorCode.ofNatOrUndefined code.toNat) (Utf8.decodeLossy (text.takeWhile (· != 0)))) := by
  simp only [wordBytes, List.cons_append, List.nil_append, Packet.decode,
    toNat_wordOf_wordBytes Opcode.error.toNat_lt, Opcode.ofNat?_toNat, wordOf_wordBytes_toUInt16]

theorem decodeRequest_fields (op : Operation) {filename mode : List UInt8} (rest : List UInt8)
    (hf : 0 ∉ filename) (hm : 0 ∉ mode) :
    decodeRequest op (filename ++ 0 :: (mode ++ 0 :: rest)) =
      if Utf8.isAscii filename = false then .error (.invalidText .filename)
      else if Utf8.isAscii mode = false then .error (.invalidText .mode)
      else .ok (.request op (Utf8.ofAscii filename) (Utf8.ofAscii mode)) := by
  simp only [decodeRequest, takeField, splitAtNul_append hf, splitAtNul_append hm, bind,
    Except.bind, fieldText]
  by_cases af : Utf8.isAscii filename = true
  · by_cases am : Utf8.isAscii mode = true
    · simp [af, am]
      rfl
    · simp [af, am]
  · simp [af]

/-! ## The grammar of datagrams -/

namespace Packet

/-- The datagrams that read as a message, with the message each reads as: an opcode, then the
layout of its kind. -/
inductive Reads : List UInt8 → Packet → Prop where
  /-- RRQ, WRQ or DEL: filename and mode, each ASCII and ended by a NUL; anything may follow. -/
  | request (op : Operation) {filename mode : List UInt8} (rest : List UInt8)
      (hf : 0 ∉ filename) (hm : 0 ∉ mode) (af : Utf8.isAscii filename = true)
      (am : Utf8.isAscii mode = true) :
      Reads (wordBytes (Opcode.ofOperation op).toNat ++ filename ++ 0 :: mode ++ 0 :: rest)
        (request op (Utf8.ofAscii filename) (Utf8.ofAscii mode))
  /-- DATA: the block number and at most 512 bytes of payload, up to the end. -/
  | data (block : UInt16) {payload : List UInt8} (h : payload.length ≤ maxPayload) :
      Reads (wordBytes Opcode.data.toNat ++ wordBytes block.toNat ++ payload) (data block payload)
  /-- ACK: the block number; anything may follow. -/
  | ack (block : UInt16) (rest : List UInt8) :
      Reads (wordBytes Opcode.ack.toNat ++ wordBytes block.toNat ++ rest) (ack block)
  /-- ERROR: the code, which reads as `notDefined` when unknown, and a message up to a NUL, read as
lossy UTF-8; anything may follow the NUL. -/
  | error (code : UInt16) {text : List UInt8} (rest : List UInt8) (h : 0 ∉ text) :
      Reads (wordBytes Opcode.error.toNat ++ wordBytes code.toNat ++ text ++ 0 :: rest)
        (error (ErrorCode.ofNatOrUndefined code.toNat) (Utf8.decodeLossy text))
  /-- ERROR without its NUL: the message runs to the end. -/
  | errorUnterminated (code : UInt16) {text : List UInt8} (h : 0 ∉ text) :
      Reads (wordBytes Opcode.error.toNat ++ wordBytes code.toNat ++ text)
        (error (ErrorCode.ofNatOrUndefined code.toNat) (Utf8.decodeLossy text))

/-- The datagrams that read as no message, with the fault reported. The checks run in the order of
the constructors, and each fault's datagrams pass the checks before it: the length of the opcode,
the opcode, the length of a block number or code, the filename's NUL, the mode's NUL, the
filename's text, the mode's text, and the payload's length. -/
inductive Faults : List UInt8 → CodecError → Prop where
  /-- Shorter than an opcode; the fault carries the datagram's length. -/
  | short {d : List UInt8} (h : d.length < 2) : Faults d (.truncated d.length)
  | unknownOpcode (raw : UInt16) (body : List UInt8) (h : Opcode.ofNat? raw.toNat = none) :
      Faults (wordBytes raw.toNat ++ body) (.unknownOpcode raw)
  /-- DATA, ACK or ERROR without room for a block number or a code. -/
  | shortHeader (op : Opcode) {body : List UInt8} (hop : op.isRequest = false)
      (h : body.length < 2) :
      Faults (wordBytes op.toNat ++ body) (.truncated (wordBytes op.toNat ++ body).length)
  | filenameUnterminated (op : Operation) {body : List UInt8} (h : 0 ∉ body) :
      Faults (wordBytes (Opcode.ofOperation op).toNat ++ body) (.missingTerminator .filename)
  | modeUnterminated (op : Operation) {filename body : List UInt8} (hf : 0 ∉ filename)
      (h : 0 ∉ body) :
      Faults (wordBytes (Opcode.ofOperation op).toNat ++ filename ++ 0 :: body)
        (.missingTerminator .mode)
  | filenameText (op : Operation) {filename mode : List UInt8} (rest : List UInt8)
      (hf : 0 ∉ filename) (hm : 0 ∉ mode) (af : Utf8.isAscii filename = false) :
      Faults (wordBytes (Opcode.ofOperation op).toNat ++ filename ++ 0 :: mode ++ 0 :: rest)
        (.invalidText .filename)
  | modeText (op : Operation) {filename mode : List UInt8} (rest : List UInt8)
      (hf : 0 ∉ filename) (hm : 0 ∉ mode) (af : Utf8.isAscii filename = true)
      (am : Utf8.isAscii mode = false) :
      Faults (wordBytes (Opcode.ofOperation op).toNat ++ filename ++ 0 :: mode ++ 0 :: rest)
        (.invalidText .mode)
  /-- DATA with more than 512 bytes of payload. -/
  | oversized (block : UInt16) {payload : List UInt8} (h : maxPayload < payload.length) :
      Faults (wordBytes Opcode.data.toNat ++ wordBytes block.toNat ++ payload)
        (.payloadTooLarge payload.length)

/-- What reading a datagram gave, against the grammar: a message the datagram reads as, or a fault
it has. -/
def Decoded (d : List UInt8) : Except CodecError Packet → Prop
  | .ok p => Reads d p
  | .error e => Faults d e

end Packet

open Packet

theorem Packet.Reads.decode {d : List UInt8} {p : Packet} (h : Reads d p) : decode d = .ok p := by
  cases h with
  | request op rest hf hm af am =>
    simp only [List.append_assoc, List.cons_append, decode_request_body,
      decodeRequest_fields op rest hf hm, af, am]
    rfl
  | data block h => rw [decode_data_body, if_neg (by omega)]
  | ack block rest => exact decode_ack_body block rest
  | error code rest h =>
    rw [List.append_assoc, decode_error_body, takeWhile_append_zero h]
  | errorUnterminated code h =>
    rw [decode_error_body, List.takeWhile_eq_self_iff.2 (bne_zero_of_not_mem h)]

theorem Packet.Faults.decode {d : List UInt8} {e : CodecError} (h : Faults d e) :
    decode d = .error e := by
  cases h with
  | short h =>
    rcases d with _ | ⟨b, _ | ⟨c, rest⟩⟩
    · rfl
    · rfl
    · simp at h
  | unknownOpcode raw body h => exact decode_unknownOpcode h body
  | shortHeader op hop h => exact decode_shortHeader hop h
  | filenameUnterminated op h =>
    simp only [decode_request_body, decodeRequest, takeField, splitAtNul_of_not_mem h, bind,
      Except.bind]
  | modeUnterminated op hf h =>
    simp only [List.append_assoc, decode_request_body, decodeRequest, takeField,
      splitAtNul_append hf, splitAtNul_of_not_mem h, bind, Except.bind]
  | filenameText op rest hf hm af =>
    simp only [List.append_assoc, List.cons_append, decode_request_body,
      decodeRequest_fields op rest hf hm, af]
    rfl
  | modeText op rest hf hm af am =>
    simp only [List.append_assoc, List.cons_append, decode_request_body,
      decodeRequest_fields op rest hf hm, af, am]
    rfl
  | oversized block h => rw [decode_data_body, if_pos h]

/-- A block number or a code heads a body, unless it is too short for one. -/
theorem short_or_eq_wordBytes (body : List UInt8) :
    body.length < 2 ∨ ∃ (w : UInt16) (rest : List UInt8), body = wordBytes w.toNat ++ rest := by
  match body with
  | [] => exact .inl (by simp)
  | [_] => exact .inl (by simp)
  | b1 :: b2 :: rest => exact .inr ⟨wordOf b1 b2, rest, by rw [wordBytes_wordOf]; rfl⟩

/-- Reading a request gives the request or the fault of the grammar. -/
theorem decode_request_spec (op : Operation) (body : List UInt8) :
    Decoded (wordBytes (Opcode.ofOperation op).toNat ++ body)
      (decode (wordBytes (Opcode.ofOperation op).toNat ++ body)) := by
  rw [decode_request_body]
  cases h1 : splitAtNul body with
  | none =>
    have hb := splitAtNul_eq_none h1
    simp only [decodeRequest, takeField, h1, bind, Except.bind]
    exact .filenameUnterminated op hb
  | some fr =>
    obtain ⟨filename, rest⟩ := fr
    obtain ⟨hf, rfl⟩ := splitAtNul_eq_some h1
    cases h2 : splitAtNul rest with
    | none =>
      have hr := splitAtNul_eq_none h2
      simp only [decodeRequest, takeField, h1, h2, bind, Except.bind]
      rw [← List.append_assoc]
      exact .modeUnterminated op hf hr
    | some mr =>
      obtain ⟨mode, rest'⟩ := mr
      obtain ⟨hm, rfl⟩ := splitAtNul_eq_some h2
      rw [decodeRequest_fields op rest' hf hm]
      have hd : wordBytes (Opcode.ofOperation op).toNat ++ filename ++ 0 :: (mode ++ 0 :: rest') =
          wordBytes (Opcode.ofOperation op).toNat ++ filename ++ 0 :: mode ++ 0 :: rest' := by
        simp
      rw [← List.append_assoc, hd]
      by_cases af : Utf8.isAscii filename = true
      · by_cases am : Utf8.isAscii mode = true
        · simp only [af, am, Bool.true_eq_false, if_false]
          exact .request op rest' hf hm af am
        · simp only [af, Bool.true_eq_false, if_false, Bool.not_eq_true] at am ⊢
          simp only [am, if_true]
          exact .modeText op rest' hf hm af am
      · simp only [Bool.not_eq_true] at af
        simp only [af, if_true]
        exact .filenameText op rest' hf hm af

/-- DATA, ACK and ERROR too short for a block number or a code are read as such. -/
theorem decode_shortHeader_spec {op : Opcode} (hop : op.isRequest = false) {body : List UInt8}
    (h : body.length < 2) :
    Decoded (wordBytes op.toNat ++ body) (decode (wordBytes op.toNat ++ body)) := by
  rw [decode_shortHeader hop h]
  exact .shortHeader op hop h

/-- Reading a datagram gives a message it reads as, or the fault it has. -/
theorem decode_spec (d : List UInt8) : Decoded d (decode d) := by
  match d with
  | [] => exact .short (by simp)
  | [b] => exact .short (by simp)
  | hi :: lo :: body =>
    have hd : hi :: lo :: body = wordBytes (wordOf hi lo).toNat ++ body := by
      rw [wordBytes_wordOf]
      rfl
    rw [hd]
    cases hop : Opcode.ofNat? (wordOf hi lo).toNat with
    | none =>
      rw [decode_unknownOpcode hop]
      exact .unknownOpcode _ body hop
    | some op =>
      -- the two bytes are the opcode's own
      rw [← Opcode.toNat_of_ofNat? hop]
      cases op with
      | rrq => exact decode_request_spec .read body
      | wrq => exact decode_request_spec .write body
      | del => exact decode_request_spec .delete body
      | data =>
        rcases short_or_eq_wordBytes body with h | ⟨block, payload, rfl⟩
        · exact decode_shortHeader_spec rfl h
        · rw [← List.append_assoc, decode_data_body]
          split_ifs with hp
          · exact .oversized block hp
          · exact .data block (by omega)
      | ack =>
        rcases short_or_eq_wordBytes body with h | ⟨block, rest, rfl⟩
        · exact decode_shortHeader_spec rfl h
        · rw [← List.append_assoc, decode_ack_body]
          exact .ack block rest
      | error =>
        rcases short_or_eq_wordBytes body with h | ⟨code, text, rfl⟩
        · exact decode_shortHeader_spec rfl h
        · rw [← List.append_assoc, decode_error_body]
          -- the message runs to the first NUL, if there is one
          cases hs : splitAtNul text with
          | none =>
            have ht := splitAtNul_eq_none hs
            rw [List.takeWhile_eq_self_iff.2 (bne_zero_of_not_mem ht)]
            exact .errorUnterminated code ht
          | some tr =>
            obtain ⟨t, r⟩ := tr
            obtain ⟨ht, rfl⟩ := splitAtNul_eq_some hs
            rw [takeWhile_append_zero ht, ← List.append_assoc]
            exact .error code r ht

theorem decode_eq_ok_iff {d : List UInt8} {p : Packet} : decode d = .ok p ↔ Reads d p := by
  constructor
  · intro h
    have := decode_spec d
    rwa [h] at this
  · exact Reads.decode

theorem decode_eq_error_iff {d : List UInt8} {e : CodecError} :
    decode d = .error e ↔ Faults d e := by
  constructor
  · intro h
    have := decode_spec d
    rwa [h] at this
  · exact Faults.decode

/-! ## Writing what was read -/

theorem Utf8.toNat_ofNat_of_lt {n : Nat} (h : n < 0xD800) : (Char.ofNat n).toNat = n := by
  have hv : n.isValidChar := Or.inl h
  simp [Char.ofNat, hv, Char.ofNatAux, Char.toNat]

/-- ASCII bytes read as text are written back as themselves. -/
theorem Utf8.encode_ofAscii {bytes : List UInt8} (h : Utf8.isAscii bytes = true) :
    Utf8.encode (Utf8.ofAscii bytes) = bytes := by
  have hlt : ∀ b ∈ bytes, b.toNat < 0x80 := by
    simpa [Utf8.isAscii] using h
  have hchars : ∀ c ∈ bytes.map (fun b => Char.ofNat b.toNat), c.toNat < 0x80 := by
    intro c hc
    obtain ⟨b, hb, rfl⟩ := List.mem_map.1 hc
    rw [Utf8.toNat_ofNat_of_lt (by have := hlt b hb; omega)]
    exact hlt b hb
  rw [Utf8.encode, Utf8.ofAscii, String.toList_ofList, Utf8.flatMap_encodeChar_of_ascii hchars,
    List.map_map]
  conv_rhs => rw [← List.map_id bytes]
  apply List.map_congr_left
  intro b hb
  simp only [Function.comp_apply, id_eq]
  rw [Utf8.toNat_ofNat_of_lt (by have := hlt b hb; omega)]
  exact UInt8.toNat_inj.1 (Utf8.toNat_toUInt8_of_lt b.toNat_lt)

/-- Writing a message read from a datagram gives back the datagram's grammatical part: all of a
DATA datagram, and a request or an ACK without what follows it. -/
theorem Packet.Reads.toBytes_leading {d : List UInt8} {p : Packet} (h : Reads d p)
    (hp : ∀ code message, p ≠ .error code message) :
    ∃ w, p.toBytes = .ok w ∧ w <+: d ∧ ∀ block payload, p = .data block payload → w = d := by
  cases h with
  | @request op filename mode rest hf hm af am =>
    have hz : ¬('\x00' ∈ (Utf8.ofAscii filename).toList ∨ '\x00' ∈ (Utf8.ofAscii mode).toList) := by
      rw [← Utf8.zero_mem_encode, ← Utf8.zero_mem_encode, Utf8.encode_ofAscii af,
        Utf8.encode_ofAscii am]
      exact fun h' => h'.elim hf hm
    refine ⟨wordBytes (Opcode.ofOperation op).toNat ++ filename ++ [0] ++ mode ++ [0], ?_,
      ⟨rest, by simp⟩, fun _ _ h' => by cases h'⟩
    rw [Packet.toBytes, write?_request, if_neg hz,
      if_neg (by simp [Packet.bufferSize, Packet.encodedLen]), Utf8.encode_ofAscii af,
      Utf8.encode_ofAscii am]
  | data block h =>
    refine ⟨_, ?_, List.prefix_refl _, fun _ _ _ => rfl⟩
    rw [Packet.toBytes, write?_data, if_neg (by omega),
      if_neg (by simp [Packet.bufferSize, Packet.encodedLen])]
  | ack block rest =>
    refine ⟨_, ?_, ⟨rest, rfl⟩, fun _ _ h' => by cases h'⟩
    rw [Packet.toBytes, write?_ack, if_neg (by simp [Packet.bufferSize, Packet.encodedLen])]
  | error code rest h => exact absurd rfl (hp _ _)
  | errorUnterminated code h => exact absurd rfl (hp _ _)

/-- Reading a datagram answers every datagram: it gives a message exactly on the datagrams of the
grammar, the one each reads as, and on every other datagram the fault it has, the faults reported
in the order of the checks. Writing a message read from a datagram, other than an ERROR, gives
back the datagram's grammatical part: all of it for DATA, and for a request or an ACK the datagram
without what follows. -/
theorem decode_grammar :
    (∀ d p, decode d = .ok p ↔ Reads d p) ∧
    (∀ d e, decode d = .error e ↔ Faults d e) ∧
    ∀ d p, decode d = .ok p → (∀ code message, p ≠ .error code message) →
      ∃ w, p.toBytes = .ok w ∧ w <+: d ∧ ∀ block payload, p = .data block payload → w = d :=
  ⟨fun _ _ => decode_eq_ok_iff, fun _ _ => decode_eq_error_iff,
    fun _ _ h hp => (decode_eq_ok_iff.1 h).toBytes_leading hp⟩

/-- An ACK followed by a stray byte reads as the ACK, which is written without the byte. -/
theorem ack_rewritten_without_trailing_byte :
    decode [0, 4, 0, 1, 7] = .ok (.ack 1) ∧ (∀ code message, Packet.ack 1 ≠ .error code message) ∧
    ∃ w, (Packet.ack 1).toBytes = .ok w ∧ w <+: [0, 4, 0, 1, 7] ∧
      ∀ block payload, Packet.ack 1 = .data block payload → w = [0, 4, 0, 1, 7] :=
  have h : decode [0, 4, 0, 1, 7] = .ok (.ack 1) := by decide
  have hp : ∀ code message, Packet.ack 1 ≠ .error code message := fun _ _ h => by cases h
  ⟨h, hp, decode_grammar.2.2 _ _ h hp⟩

example : decode [0, 2, 0x61, 0, 0x6F] = .error (.missingTerminator .mode) := by decide

/-! ## Writing a read ERROR -/

theorem Utf8.length_encodeChar_le (c : Char) : (Utf8.encodeChar c).length ≤ 4 := by
  simp only [Utf8.encodeChar]
  split_ifs <;> simp

theorem messageBytes_eq (message : String) :
    messageBytes message =
      (message.toList.takeWhile (· != '\x00')).flatMap Utf8.encodeChar := by
  rw [messageBytes, Utf8.encode, Utf8.takeWhile_flatMap_encodeChar]

theorem messageBytes_ofList {l : List Char} (h : ∀ c ∈ l, c ≠ '\x00') :
    messageBytes (String.ofList l) = l.flatMap Utf8.encodeChar := by
  rw [messageBytes_eq, String.toList_ofList,
    List.takeWhile_eq_self_iff.2 fun c hc => bne_iff_ne.2 (h c hc)]

/-- A written ERROR: header, the message cut at its first NUL and then to 511 bytes, and a NUL. -/
theorem toBytes_error (code : ErrorCode) (message : String) :
    (Packet.error code message).toBytes =
      .ok (wordBytes Opcode.error.toNat ++ wordBytes code.toNat ++
        (messageBytes message).take (min (messageBytes message).length 511) ++ [0]) := by
  rw [Packet.toBytes, write?_error, if_neg (by
    simp only [Packet.bufferSize, Packet.encodedLen, minErrorSize, headerSize, maxPacketSize,
      maxPayload]
    omega)]
  congr 4
  simp only [Packet.bufferSize, Packet.encodedLen, minErrorSize, headerSize, maxPacketSize,
    maxPayload]
  omega

/-- The text a written ERROR carries is the bytes of whole characters, none of them NUL, and then
either nothing, or a proper prefix of one more character's bytes that brings the text to 511
bytes. -/
theorem errorText_cut (message : String) :
    ∃ (pre : List Char) (part : List UInt8),
      (messageBytes message).take (min (messageBytes message).length 511) =
        pre.flatMap Utf8.encodeChar ++ part ∧ (∀ c ∈ pre, c ≠ '\x00') ∧
      ((part = [] ∧ (pre.flatMap Utf8.encodeChar).length ≤ 511) ∨
        ∃ c j, 0 < j ∧ j < (Utf8.encodeChar c).length ∧ part = (Utf8.encodeChar c).take j ∧
          (pre.flatMap Utf8.encodeChar).length + j = 511) := by
  set cs := message.toList.takeWhile (· != '\x00')
  rw [messageBytes_eq]
  obtain ⟨pre, part, htake, ⟨post, hpre⟩, hpart⟩ :=
    Utf8.take_flatMap_encodeChar cs (min (cs.flatMap Utf8.encodeChar).length 511)
  have hnul : ∀ c ∈ pre, c ≠ '\x00' := by
    intro c hc
    have hmem : c ∈ cs := hpre ▸ List.mem_append_left post hc
    simpa using List.mem_takeWhile_imp hmem
  have hlen : (pre.flatMap Utf8.encodeChar ++ part).length ≤ 511 := by
    rw [← htake, List.length_take]
    omega
  refine ⟨pre, part, htake, hnul, ?_⟩
  rcases hpart with rfl | ⟨c, j, ⟨rest, hc⟩, hj0, hj, rfl, hk⟩
  · exact .inl ⟨rfl, by simpa using hlen⟩
  · -- a partial character means the cut fell inside the text, at its 511th byte
    refine .inr ⟨c, j, hj0, hj, rfl, ?_⟩
    have hall : (pre.flatMap Utf8.encodeChar).length + (Utf8.encodeChar c).length ≤
        (cs.flatMap Utf8.encodeChar).length := by
      rw [← hc]
      simp [List.flatMap_append]
    omega

/-- Writing an ERROR whose text is whole characters, none NUL, within 511 bytes, keeps them all. -/
theorem toBytes_error_ofList (code : ErrorCode) {l : List Char} (h : ∀ c ∈ l, c ≠ '\x00')
    (hlen : (l.flatMap Utf8.encodeChar).length ≤ 511) :
    (Packet.error code (String.ofList l)).toBytes =
      .ok (wordBytes Opcode.error.toNat ++ wordBytes code.toNat ++ l.flatMap Utf8.encodeChar ++
        [0]) := by
  rw [toBytes_error, messageBytes_ofList h, Nat.min_eq_left hlen, List.take_length]

/-- Writing an ERROR whose text is whole characters and a U+FFFD past 511 bytes cuts the U+FFFD. -/
theorem toBytes_error_replaced (code : ErrorCode) {l : List Char} (h : ∀ c ∈ l, c ≠ '\x00')
    {j : Nat} (hj : j ≤ 3) (hlen : (l.flatMap Utf8.encodeChar).length + j = 511) :
    (Packet.error code (String.ofList (l ++ [Utf8.replacement]))).toBytes =
      .ok (wordBytes Opcode.error.toNat ++ wordBytes code.toNat ++ l.flatMap Utf8.encodeChar ++
        (Utf8.encodeChar Utf8.replacement).take j ++ [0]) := by
  have h' : ∀ c ∈ l ++ [Utf8.replacement], c ≠ '\x00' := by
    intro c hc
    rcases List.mem_append.1 hc with hc | hc
    · exact h c hc
    · rw [List.mem_singleton.1 hc]
      decide
  have hrep : (Utf8.encodeChar Utf8.replacement).length = 3 := rfl
  rw [toBytes_error, messageBytes_ofList h', List.flatMap_append, List.flatMap_cons,
    List.flatMap_nil, List.append_nil, List.length_append, hrep,
    Nat.min_eq_right (by omega), List.take_append, List.take_of_length_le (by omega),
    show 511 - (l.flatMap Utf8.encodeChar).length = j by omega]
  simp

/-- Reading back a written message that is not an ERROR gives the message, if anything. -/
theorem Packet.readBack_eq_ok {p q : Packet} {n : Nat}
    (hp : ∀ code message, p ≠ .error code message) (h : p.readBack n = .ok q) : q = p := by
  cases p with
  | request op filename mode =>
    simp only [Packet.readBack] at h
    split_ifs at h
    cases h
    rfl
  | data block payload =>
    cases h
    rfl
  | ack block =>
    cases h
    rfl
  | error code message => exact absurd rfl (hp code message)

/-- Writing a message read from a written datagram gives the datagram back, for every message but
an ERROR. For an ERROR the datagram's text is the bytes of whole characters and then at most a
partial character, which writing cut short; reading puts U+FFFD for the partial character, and
writing again cuts that U+FFFD to the partial character's length. So the datagram comes back
exactly when the cut fell between characters, or kept only leading bytes that U+FFFD shares. -/
theorem toBytes_decode_toBytes {p q : Packet} {b : List UInt8} (hb : p.toBytes = .ok b)
    (hq : decode b = .ok q) :
    ((∀ code message, p ≠ .error code message) → q.toBytes = .ok b) ∧
    ∀ code message, p = .error code message →
      ∃ (text : String) (cut : List UInt8) (c : Char),
        cut <+: Utf8.encodeChar c ∧ cut.length < (Utf8.encodeChar c).length ∧
        b = wordBytes Opcode.error.toNat ++ wordBytes code.toNat ++ Utf8.encode text ++ cut ++
          [0] ∧
        q.toBytes = .ok (wordBytes Opcode.error.toNat ++ wordBytes code.toNat ++
          Utf8.encode text ++ (Utf8.encodeChar Utf8.replacement).take cut.length ++ [0]) := by
  constructor
  · intro hp
    have hs := write?_spec p p.bufferSize
    rw [← Packet.toBytes, hb] at hs
    obtain ⟨-, -, -, hdec⟩ := hs
    rw [hq] at hdec
    rw [Packet.readBack_eq_ok hp hdec.symm, hb]
  · rintro code message rfl
    obtain ⟨pre, part, htake, hnul, hpart⟩ := errorText_cut message
    rw [toBytes_error, htake] at hb
    cases hb
    have hz : (0 : UInt8) ∉ pre.flatMap Utf8.encodeChar ++ part := by
      rw [← htake]
      exact fun h => zero_not_mem_messageBytes message (List.mem_of_mem_take h)
    rw [decode_error_bytes code hz] at hq
    cases hq
    have hencode : Utf8.encode (String.ofList pre) = pre.flatMap Utf8.encodeChar := by
      simp [Utf8.encode]
    rcases hpart with ⟨rfl, hlen⟩ | ⟨c, j, hj0, hj, rfl, hlen⟩
    · -- the cut fell between characters: the text reads back as those characters
      have hread : Utf8.decodeLossy (pre.flatMap Utf8.encodeChar ++ []) = String.ofList pre := by
        rw [Utf8.decodeLossy, Utf8.decodeLossyChars_flatMap_append,
          show Utf8.decodeLossyChars [] = [] by rw [Utf8.decodeLossyChars], List.append_nil]
      refine ⟨String.ofList pre, [], Utf8.replacement, List.nil_prefix, by decide, ?_, ?_⟩
      · simp [hencode]
      · rw [hread, toBytes_error_ofList code hnul hlen, hencode]
        simp
    · -- the cut fell inside a character: it reads back as U+FFFD, written back cut as short
      have hread : Utf8.decodeLossy (pre.flatMap Utf8.encodeChar ++ (Utf8.encodeChar c).take j) =
          String.ofList (pre ++ [Utf8.replacement]) := by
        rw [Utf8.decodeLossy, Utf8.decodeLossyChars_cut pre c hj0 hj]
      have hcut : ((Utf8.encodeChar c).take j).length = j := by
        rw [List.length_take]
        omega
      refine ⟨String.ofList pre, (Utf8.encodeChar c).take j, c, List.take_prefix _ _,
        by omega, ?_, ?_⟩
      · simp [hencode]
      · rw [hread, hcut, toBytes_error_replaced code hnul
          (by have := Utf8.length_encodeChar_le c; omega) hlen, hencode]

/-- Writing U+FFFD's leading bytes in the place of a cut gives the same bytes exactly when the cut
is those bytes. -/
theorem append_take_replacement_eq_iff (pre cut : List UInt8) :
    pre ++ (Utf8.encodeChar Utf8.replacement).take cut.length ++ [0] = pre ++ cut ++ [0] ↔
      cut <+: Utf8.encodeChar Utf8.replacement := by
  rw [List.append_cancel_right_eq, List.append_cancel_left_eq, List.prefix_iff_eq_take, eq_comm]

/-- What writing the message `q`, read from the written datagram `b` of `p`, gives back. Every
message but an ERROR writes back `b`. An ERROR's datagram is its header, the bytes of whole
characters, the cut (a proper prefix of one more character's bytes) and NUL; `q` writes U+FFFD's
leading bytes in the cut's place, so it writes back `b` exactly when the cut is a prefix of
U+FFFD's bytes `EF BF BD`: when the cut is empty, or keeps `EF` of a character from U+F000, or
`EF BF` of one from U+FFC0. -/
structure WritesBack (p q : Packet) (b : List UInt8) : Prop where
  other : (∀ code message, p ≠ .error code message) → q.toBytes = .ok b
  error : ∀ code message, p = .error code message →
    ∃ (text : String) (cut : List UInt8) (c : Char),
      cut <+: Utf8.encodeChar c ∧ cut.length < (Utf8.encodeChar c).length ∧
      b = wordBytes Opcode.error.toNat ++ wordBytes code.toNat ++ Utf8.encode text ++ cut ++ [0] ∧
      q.toBytes = .ok (wordBytes Opcode.error.toNat ++ wordBytes code.toNat ++
        Utf8.encode text ++ (Utf8.encodeChar Utf8.replacement).take cut.length ++ [0]) ∧
      (q.toBytes = .ok b ↔ cut <+: Utf8.encodeChar Utf8.replacement)

/-- Every message read from a written datagram writes it back as `WritesBack` says. -/
theorem writesBack_of_decode {p q : Packet} {b : List UInt8} (hb : p.toBytes = .ok b)
    (hq : decode b = .ok q) : WritesBack p q b := by
  obtain ⟨hother, herror⟩ := toBytes_decode_toBytes hb hq
  refine ⟨hother, fun code message hp => ?_⟩
  obtain ⟨text, cut, c, hcut, hlen, rfl, hq'⟩ := herror code message hp
  refine ⟨text, cut, c, hcut, hlen, rfl, hq', ?_⟩
  rw [hq', Except.ok.injEq]
  exact append_take_replacement_eq_iff _ cut

theorem flatMap_encodeChar_replicate_a (n : Nat) :
    (List.replicate n 'a').flatMap Utf8.encodeChar = List.replicate n 97 := by
  simp [List.flatMap_replicate, show Utf8.encodeChar 'a' = [97] by decide]

/-- An ERROR of 510 letters `a` and a character of more than one byte, led by the byte `lead`, is
written cut after `lead`; reading it gives U+FFFD in the character's place, and writing that gives
U+FFFD's first byte `EF` there. -/
theorem error_cut_after_lead {c : Char} (lead : UInt8) (hc : c ≠ '\x00')
    (hlen : 1 < (Utf8.encodeChar c).length) (hlead : (Utf8.encodeChar c).take 1 = [lead]) :
    (Packet.error .notDefined (String.ofList (List.replicate 510 'a' ++ [c]))).toBytes =
      .ok ([0, 5, 0, 0] ++ List.replicate 510 97 ++ [lead, 0]) ∧
    decode ([0, 5, 0, 0] ++ List.replicate 510 97 ++ [lead, 0]) =
      .ok (.error .notDefined (String.ofList (List.replicate 510 'a' ++ [Utf8.replacement]))) ∧
    (Packet.error .notDefined (String.ofList (List.replicate 510 'a' ++ [Utf8.replacement]))).toBytes =
      .ok ([0, 5, 0, 0] ++ List.replicate 510 97 ++ [0xEF, 0]) := by
  have ha : ∀ x ∈ List.replicate 510 'a', x ≠ '\x00' := by
    intro x hx
    rw [List.eq_of_mem_replicate hx]
    decide
  have hnul : ∀ x ∈ List.replicate 510 'a' ++ [c], x ≠ '\x00' := by
    intro x hx
    rcases List.mem_append.1 hx with hx | hx
    · exact ha x hx
    · rw [List.mem_singleton.1 hx]
      exact hc
  have hhead : wordBytes Opcode.error.toNat ++ wordBytes ErrorCode.notDefined.toNat =
      [0, 5, 0, 0] := rfl
  -- the letters and the character's first byte fill the 511 bytes an ERROR's text may have
  have htext : (messageBytes (String.ofList (List.replicate 510 'a' ++ [c]))).take
      (min (messageBytes (String.ofList (List.replicate 510 'a' ++ [c]))).length 511) =
      List.replicate 510 97 ++ [lead] := by
    rw [messageBytes_ofList hnul, List.flatMap_append, flatMap_encodeChar_replicate_a,
      List.flatMap_singleton, List.length_append, List.length_replicate,
      Nat.min_eq_right (by omega), List.take_append, List.length_replicate,
      List.take_of_length_le (by rw [List.length_replicate]; omega), ← hlead]
  have hz : (0 : UInt8) ∉ List.replicate 510 97 ++ [lead] := by
    rw [← htext]
    exact fun h => zero_not_mem_messageBytes _ (List.mem_of_mem_take h)
  refine ⟨?_, ?_, ?_⟩
  · rw [toBytes_error, htext, hhead]
    simp only [List.append_assoc, List.singleton_append]
  · have hdec := decode_error_bytes ErrorCode.notDefined hz
    rw [hhead] at hdec
    simp only [List.append_assoc, List.singleton_append] at hdec
    simp only [List.append_assoc]
    rw [hdec, ← flatMap_encodeChar_replicate_a, ← hlead, Utf8.decodeLossy,
      Utf8.decodeLossyChars_cut _ c (by decide) hlen]
  · have hef : (Utf8.encodeChar Utf8.replacement).take 1 = [0xEF] := by decide
    rw [toBytes_error_replaced _ ha (j := 1) (by decide)
      (by rw [flatMap_encodeChar_replicate_a, List.length_replicate]),
      flatMap_encodeChar_replicate_a, hhead, hef]
    simp only [List.append_assoc, List.singleton_append]

/-- An ERROR of 510 letters and U+FF01 is written cut after `EF`, the first byte U+FF01 shares with
U+FFFD, so the datagram is written back although the cut fell inside a character. -/
theorem fullwidth_cut_written_back :
    (Packet.error .notDefined (String.ofList (List.replicate 510 'a' ++ ['\uFF01']))).toBytes =
      .ok ([0, 5, 0, 0] ++ List.replicate 510 97 ++ [0xEF, 0]) ∧
    decode ([0, 5, 0, 0] ++ List.replicate 510 97 ++ [0xEF, 0]) =
      .ok (.error .notDefined (String.ofList (List.replicate 510 'a' ++ [Utf8.replacement]))) ∧
    (Packet.error .notDefined (String.ofList (List.replicate 510 'a' ++ [Utf8.replacement]))).toBytes =
      .ok ([0, 5, 0, 0] ++ List.replicate 510 97 ++ [0xEF, 0]) ∧
    WritesBack (.error .notDefined (String.ofList (List.replicate 510 'a' ++ ['\uFF01'])))
      (.error .notDefined (String.ofList (List.replicate 510 'a' ++ [Utf8.replacement])))
      ([0, 5, 0, 0] ++ List.replicate 510 97 ++ [0xEF, 0]) := by
  obtain ⟨hb, hq, hq'⟩ := error_cut_after_lead 0xEF (c := '\uFF01') (by decide) (by decide) (by decide)
  exact ⟨hb, hq, hq', writesBack_of_decode hb hq⟩

/-- An ERROR whose 512-byte message ends in `é` is written cut inside the `é`; reading it gives
U+FFFD for the cut `é`, and writing that gives other bytes than were read. -/
theorem cut_error_rewritten_otherwise :
    (Packet.error .notDefined (String.ofList (List.replicate 510 'a' ++ ['é']))).toBytes =
      .ok ([0, 5, 0, 0] ++ List.replicate 510 97 ++ [0xC3, 0]) ∧
    decode ([0, 5, 0, 0] ++ List.replicate 510 97 ++ [0xC3, 0]) =
      .ok (.error .notDefined (String.ofList (List.replicate 510 'a' ++ [Utf8.replacement]))) ∧
    (Packet.error .notDefined (String.ofList (List.replicate 510 'a' ++ [Utf8.replacement]))).toBytes =
      .ok ([0, 5, 0, 0] ++ List.replicate 510 97 ++ [0xEF, 0]) :=
  error_cut_after_lead 0xC3 (c := 'é') (by decide) (by decide) (by decide)

end Tftp
