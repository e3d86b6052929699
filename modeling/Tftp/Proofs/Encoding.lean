import Tftp.Wire.Encode
import Tftp.Wire.Decode
import Mathlib

/-!
# Writing messages and reading them back

What writing a message into a buffer of `n` bytes does, for every message and every `n`
(`encodeInto_contract`). `Packet.Fits` says when the write succeeds and `Packet.misfit` what it
reports otherwise; `Packet.writtenLength` is the number of bytes written, and `Packet.readBack`
what decoding them gives. Each is stated per kind of message, apart from the encoder.

The proof goes through `Packet.write?`, the bytes a message takes in `n` bytes: `write?_spec`
states all of the above of it, one constructor at a time, from the byte layout of each kind of
message (`write?_request` and its siblings) and from reading each layout back
(`decode_request_bytes` and its siblings). Reading request text back rests on UTF-8 of ASCII text
being the characters themselves, one byte each, and on a NUL byte in UTF-8 standing for a NUL
character and nothing else.
-/

namespace Tftp

/-! ## What a write does -/

/-- Every character of the string is ASCII. -/
def IsAsciiText (s : String) : Prop := ∀ c ∈ s.toList, c.toNat < 0x80

instance (s : String) : Decidable (IsAsciiText s) :=
  inferInstanceAs (Decidable (∀ c ∈ s.toList, c.toNat < 0x80))

namespace Packet

/-- Whether a message can be written into a buffer of `n` bytes: request text holds no NUL, a
DATA payload has at most 512 bytes, and the whole message fits; an ERROR needs only room for its
header and terminator, its text being cut to fit. -/
def Fits (p : Packet) (n : Nat) : Prop :=
  match p with
  | request _ filename mode => '\x00' ∉ filename.toList ∧ '\x00' ∉ mode.toList ∧ p.encodedLen ≤ n
  | data _ payload => payload.length ≤ maxPayload ∧ headerSize + payload.length ≤ n
  | ack _ => headerSize ≤ n
  | error .. => minErrorSize ≤ n

instance (p : Packet) (n : Nat) : Decidable (p.Fits n) :=
  match p with
  | request op filename mode => inferInstanceAs (Decidable ('\x00' ∉ filename.toList ∧
      '\x00' ∉ mode.toList ∧ (request op filename mode).encodedLen ≤ n))
  | data _ payload =>
    inferInstanceAs (Decidable (payload.length ≤ maxPayload ∧ headerSize + payload.length ≤ n))
  | ack _ => inferInstanceAs (Decidable (headerSize ≤ n))
  | error .. => inferInstanceAs (Decidable (minErrorSize ≤ n))

/-- Why a message that does not fit is refused: a NUL in request text, or a payload over 512
bytes, is reported before the lack of room. -/
def misfit (p : Packet) (n : Nat) : CodecError :=
  match p with
  | request _ filename mode =>
    if '\x00' ∈ filename.toList ∨ '\x00' ∈ mode.toList then .embeddedNul
    else .bufferTooSmall p.encodedLen n
  | data _ payload =>
    if payload.length > maxPayload then .payloadTooLarge payload.length
    else .bufferTooSmall (headerSize + payload.length) n
  | ack _ => .bufferTooSmall headerSize n
  | error .. => .bufferTooSmall minErrorSize n

/-- The bytes a message takes in a buffer of `n` bytes: all of it, except that an ERROR's text,
cut at its first NUL, is cut again to the room left after header and terminator. -/
def writtenLength (p : Packet) (n : Nat) : Nat :=
  match p with
  | error _ message => minErrorSize + min (messageBytes message).length (n - minErrorSize)
  | _ => p.encodedLen

/-- What reading back the bytes of a message written into `n` bytes gives: the message itself,
except that request text must be ASCII, filename first, and an ERROR's text comes back as the
lossy UTF-8 reading of the bytes that were written. -/
def readBack (p : Packet) (n : Nat) : Except CodecError Packet :=
  match p with
  | request _ filename mode =>
    if ¬IsAsciiText filename then .error (.invalidText .filename)
    else if ¬IsAsciiText mode then .error (.invalidText .mode)
    else .ok p
  | error code message =>
    .ok (error code (Utf8.decodeLossy ((messageBytes message).take (n - minErrorSize))))
  | _ => .ok p

/-- What writing the message into `n` bytes should give: when it fits, bytes of `writtenLength`
that fit and read back as `readBack`; otherwise the reason `misfit`. -/
def WriteOutcome (p : Packet) (n : Nat) : Except CodecError (List UInt8) → Prop
  | .ok w => p.Fits n ∧ w.length = p.writtenLength n ∧ w.length ≤ n ∧ decode w = p.readBack n
  | .error e => ¬p.Fits n ∧ e = p.misfit n

end Packet

namespace Utf8

/-! ## UTF-8 of ASCII text -/

theorem char_toNat_lt (c : Char) : c.toNat < 0x110000 := by
  have := c.valid
  simp only [UInt32.isValidChar, Nat.isValidChar] at this
  simp only [Char.toNat]
  omega

/-- A byte of a character's UTF-8 form is the character itself, for ASCII, and at least `0x80`
otherwise. -/
theorem toNat_of_mem_encodeChar {c : Char} {b : UInt8} (h : b ∈ encodeChar c) :
    (c.toNat < 0x80 ∧ b.toNat = c.toNat) ∨ 0x80 ≤ b.toNat := by
  have hc := char_toNat_lt c
  simp only [encodeChar] at h
  split_ifs at h with h1 h2 h3
  · simp at h
    subst h
    left
    simp
    omega
  all_goals
    simp at h
    right
    rcases h with rfl | rfl | rfl | rfl <;> simp <;> omega

theorem zero_mem_encode (s : String) : (0 : UInt8) ∈ encode s ↔ '\x00' ∈ s.toList := by
  simp only [encode, List.mem_flatMap]
  constructor
  · rintro ⟨c, hc, h0⟩
    rcases toNat_of_mem_encodeChar h0 with ⟨_, h⟩ | h
    · have : c = '\x00' := Char.toNat_inj.1 (by simpa using h.symm)
      exact this ▸ hc
    · simp at h
  · intro h
    exact ⟨'\x00', h, by decide⟩

theorem encodeChar_of_lt {c : Char} (h : c.toNat < 0x80) : encodeChar c = [c.toNat.toUInt8] := by
  simp [encodeChar, h]

theorem lt_of_mem_encodeChar {c : Char} {b : UInt8} (hb : b ∈ encodeChar c) (h : b.toNat < 0x80) :
    c.toNat < 0x80 := by
  rcases toNat_of_mem_encodeChar hb with ⟨hc, _⟩ | h'
  · exact hc
  · omega

theorem encodeChar_ne_nil (c : Char) : encodeChar c ≠ [] := by
  simp only [encodeChar]
  split_ifs <;> simp

theorem isAscii_encode (s : String) : isAscii (encode s) = true ↔ IsAsciiText s := by
  simp only [isAscii, encode, List.all_eq_true, List.mem_flatMap, decide_eq_true_eq]
  constructor
  · intro h c hc
    obtain ⟨b, hb⟩ := List.exists_mem_of_ne_nil _ (encodeChar_ne_nil c)
    exact lt_of_mem_encodeChar hb (h b ⟨c, hc, hb⟩)
  · rintro h b ⟨c, hc, hb⟩
    rw [encodeChar_of_lt (h c hc), List.mem_singleton] at hb
    subst hb
    have := h c hc
    simp
    omega

theorem flatMap_encodeChar_of_ascii {l : List Char} (h : ∀ c ∈ l, c.toNat < 0x80) :
    l.flatMap encodeChar = l.map fun c => c.toNat.toUInt8 := by
  induction l with
  | nil => rfl
  | cons c l ih =>
    rw [List.flatMap_cons, List.map_cons, encodeChar_of_lt (h c (by simp)),
      ih (fun d hd => h d (by simp [hd]))]
    rfl

theorem ofAscii_encode {s : String} (h : IsAsciiText s) : ofAscii (encode s) = s := by
  rw [ofAscii, encode, flatMap_encodeChar_of_ascii h, List.map_map]
  have hid : ∀ c ∈ s.toList, ((fun b : UInt8 => Char.ofNat b.toNat) ∘ fun c => c.toNat.toUInt8) c = c := by
    intro c hc
    have := h c hc
    simp only [Function.comp_apply, Nat.toUInt8, UInt8.toNat_ofNat']
    rw [Nat.mod_eq_of_lt (by omega), Char.ofNat_toNat]
  rw [List.map_congr_left hid, List.map_id', String.ofList_toList]

end Utf8

/-! ## Words -/

theorem wordOf_wordBytes {n : Nat} (h : n < 65536) :
    wordOf (n / 256 % 256).toUInt8 (n % 256).toUInt8 = n.toUInt16 := by
  unfold wordOf
  congr 1
  simp only [Nat.toUInt8, UInt8.toNat_ofNat']
  omega

theorem toNat_wordOf_wordBytes {n : Nat} (h : n < 65536) :
    (wordOf (n / 256 % 256).toUInt8 (n % 256).toUInt8).toNat = n := by
  rw [wordOf_wordBytes h]
  simp only [Nat.toUInt16, UInt16.toNat_ofNat']
  omega

theorem wordOf_wordBytes_toUInt16 (w : UInt16) :
    wordOf (w.toNat / 256 % 256).toUInt8 (w.toNat % 256).toUInt8 = w := by
  rw [wordOf_wordBytes w.toNat_lt]
  simp

theorem Opcode.toNat_lt (op : Opcode) : op.toNat < 65536 := by
  cases op <;> decide

/-! ## Reading fields back -/

theorem splitAtNul_append {f : List UInt8} (hf : 0 ∉ f) (rest : List UInt8) :
    splitAtNul (f ++ 0 :: rest) = some (f, rest) := by
  have hp : ∀ a ∈ f, (a != 0) = true := fun a ha => bne_iff_ne.2 fun h => hf (h ▸ ha)
  simp [splitAtNul, List.span_eq_takeWhile_dropWhile, List.takeWhile_append_of_pos hp,
    List.dropWhile_append_of_pos hp]

theorem takeWhile_append_zero {f : List UInt8} (hf : 0 ∉ f) (rest : List UInt8) :
    (f ++ 0 :: rest).takeWhile (· != 0) = f := by
  have hp : ∀ a ∈ f, (a != 0) = true := fun a ha => bne_iff_ne.2 fun h => hf (h ▸ ha)
  simp [List.takeWhile_append_of_pos hp]

theorem fieldText_encode (field : TextField) (s : String) :
    fieldText field (Utf8.encode s) =
      if IsAsciiText s then .ok s else .error (.invalidText field) := by
  unfold fieldText
  by_cases h : IsAsciiText s
  · rw [if_pos h, if_pos ((Utf8.isAscii_encode s).2 h), Utf8.ofAscii_encode h]
  · have : ¬Utf8.isAscii (Utf8.encode s) = true := fun h' => h ((Utf8.isAscii_encode s).1 h')
    rw [if_neg h, if_neg this]

theorem decodeRequest_encode (op : Operation) {filename mode : String}
    (hf : '\x00' ∉ filename.toList) (hm : '\x00' ∉ mode.toList) :
    decodeRequest op (Utf8.encode filename ++ 0 :: (Utf8.encode mode ++ [0])) =
      if ¬IsAsciiText filename then .error (.invalidText .filename)
      else if ¬IsAsciiText mode then .error (.invalidText .mode)
      else .ok (.request op filename mode) := by
  have hf' : (0 : UInt8) ∉ Utf8.encode filename := (Utf8.zero_mem_encode filename).not.2 hf
  have hm' : (0 : UInt8) ∉ Utf8.encode mode := (Utf8.zero_mem_encode mode).not.2 hm
  simp only [decodeRequest, takeField, splitAtNul_append hf', bind, Except.bind]
  simp only [splitAtNul_append hm', fieldText_encode]
  by_cases h1 : IsAsciiText filename
  · rw [if_pos h1, if_neg (not_not_intro h1)]
    by_cases h2 : IsAsciiText mode
    · rw [if_pos h2, if_neg (not_not_intro h2)]
      rfl
    · rw [if_neg h2, if_pos h2]
  · rw [if_neg h1, if_pos h1]

/-! ## Reading messages back -/

theorem decode_request_bytes (op : Operation) {filename mode : String}
    (hf : '\x00' ∉ filename.toList) (hm : '\x00' ∉ mode.toList) :
    Packet.decode (wordBytes (Opcode.ofOperation op).toNat ++ Utf8.encode filename ++ [0] ++
        Utf8.encode mode ++ [0]) =
      if ¬IsAsciiText filename then .error (.invalidText .filename)
      else if ¬IsAsciiText mode then .error (.invalidText .mode)
      else .ok (.request op filename mode) := by
  simp only [wordBytes, List.append_assoc, List.cons_append, List.nil_append,
    Packet.decode, toNat_wordOf_wordBytes (Opcode.toNat_lt _),
    Opcode.ofNat?_toNat]
  cases op <;> exact decodeRequest_encode _ hf hm

theorem decode_data_bytes (block : UInt16) {payload : List UInt8}
    (h : payload.length ≤ maxPayload) :
    Packet.decode (wordBytes Opcode.data.toNat ++ wordBytes block.toNat ++ payload) =
      .ok (.data block payload) := by
  simp only [wordBytes, List.cons_append, List.nil_append, Packet.decode,
    toNat_wordOf_wordBytes Opcode.data.toNat_lt, Opcode.ofNat?_toNat, wordOf_wordBytes_toUInt16]
  simp [h]

theorem decode_ack_bytes (block : UInt16) :
    Packet.decode (wordBytes Opcode.ack.toNat ++ wordBytes block.toNat) = .ok (.ack block) := by
  simp only [wordBytes, List.cons_append, List.nil_append, Packet.decode,
    toNat_wordOf_wordBytes Opcode.ack.toNat_lt, Opcode.ofNat?_toNat, wordOf_wordBytes_toUInt16]

theorem decode_error_bytes (code : ErrorCode) {text : List UInt8} (h : 0 ∉ text) :
    Packet.decode (wordBytes Opcode.error.toNat ++ wordBytes code.toNat ++ text ++ [0]) =
      .ok (.error code (Utf8.decodeLossy text)) := by
  have hc : code.toNat < 65536 := by have := code.toNat_lt; omega
  simp only [wordBytes, List.cons_append, List.nil_append, Packet.decode,
    toNat_wordOf_wordBytes Opcode.error.toNat_lt, Opcode.ofNat?_toNat,
    toNat_wordOf_wordBytes hc, ErrorCode.ofNatOrUndefined, ErrorCode.ofNat?_toNat,
    Option.getD_some, takeWhile_append_zero h]

/-! ## Writing messages -/

theorem write?_request (op : Operation) (filename mode : String) (n : Nat) :
    (Packet.request op filename mode).write? n =
      if '\x00' ∈ filename.toList ∨ '\x00' ∈ mode.toList then .error .embeddedNul
      else if n < (Packet.request op filename mode).encodedLen then
        .error (.bufferTooSmall (Packet.request op filename mode).encodedLen n)
      else .ok (wordBytes (Opcode.ofOperation op).toNat ++ Utf8.encode filename ++ [0] ++
        Utf8.encode mode ++ [0]) := by
  simp only [Packet.write?, encodeRequest, Opcode.isRequest_ofOperation, Bool.not_true,
    Bool.false_eq_true, if_false, bind, Except.bind, pure, Except.pure, Bool.or_eq_true,
    List.contains_iff_mem, Utf8.zero_mem_encode]
  by_cases hz : '\x00' ∈ filename.toList ∨ '\x00' ∈ mode.toList
  · rw [if_pos hz, if_pos hz]
    rfl
  · rw [if_neg hz, if_neg hz]
    simp only [checkCapacity, Packet.encodedLen, Utf8.byteLength]
    by_cases hn : n < 2 + (Utf8.encode filename).length + 1 + (Utf8.encode mode).length + 1
    · simp [hn]
    · simp [hn]

theorem write?_data (block : UInt16) (payload : List UInt8) (n : Nat) :
    (Packet.data block payload).write? n =
      if payload.length > maxPayload then .error (.payloadTooLarge payload.length)
      else if n < headerSize + payload.length then
        .error (.bufferTooSmall (headerSize + payload.length) n)
      else .ok (wordBytes Opcode.data.toNat ++ wordBytes block.toNat ++ payload) := by
  simp only [Packet.write?, encodeData, bind, Except.bind, pure, Except.pure, checkCapacity]
  by_cases hp : payload.length > maxPayload
  · simp only [hp, if_true]
    rfl
  · by_cases hn : n < headerSize + payload.length <;> simp [hp, hn]

theorem write?_ack (block : UInt16) (n : Nat) :
    (Packet.ack block).write? n =
      if n < headerSize then .error (.bufferTooSmall headerSize n)
      else .ok (wordBytes Opcode.ack.toNat ++ wordBytes block.toNat) := by
  simp only [Packet.write?, encodeAck, bind, Except.bind, pure, Except.pure, checkCapacity]
  by_cases hn : n < headerSize <;> simp [hn]

theorem write?_error (code : ErrorCode) (message : String) (n : Nat) :
    (Packet.error code message).write? n =
      if n < minErrorSize then .error (.bufferTooSmall minErrorSize n)
      else .ok (wordBytes Opcode.error.toNat ++ wordBytes code.toNat ++
        (messageBytes message).take (n - minErrorSize) ++ [0]) := by
  simp only [Packet.write?, encodeError, bind, Except.bind, pure, Except.pure, checkCapacity]
  by_cases hn : n < minErrorSize <;> simp [hn]

theorem zero_not_mem_messageBytes (message : String) : (0 : UInt8) ∉ messageBytes message := by
  intro h
  have := List.mem_takeWhile_imp h
  simp at this


/-- What writing a message into `n` bytes does: the bytes when it fits, fitting the buffer and
reading back as `readBack` says, and the reason when it does not. -/
theorem write?_spec (p : Packet) (n : Nat) : p.WriteOutcome n (p.write? n) := by
  cases p with
  | request op filename mode =>
    rw [write?_request]
    by_cases hz : '\x00' ∈ filename.toList ∨ '\x00' ∈ mode.toList
    · rw [if_pos hz]
      refine ⟨fun h => hz.elim h.1 h.2.1, ?_⟩
      simp only [Packet.misfit, if_pos hz]
    · rw [if_neg hz]
      have hf : '\x00' ∉ filename.toList := fun h => hz (.inl h)
      have hm : '\x00' ∉ mode.toList := fun h => hz (.inr h)
      by_cases hn : n < (Packet.request op filename mode).encodedLen
      · rw [if_pos hn]
        refine ⟨fun h => absurd h.2.2 (by omega), ?_⟩
        simp only [Packet.misfit, if_neg hz]
      · rw [if_neg hn]
        refine ⟨⟨hf, hm, by omega⟩, ?_, ?_, ?_⟩
        · simp [wordBytes, Packet.writtenLength, Packet.encodedLen, Utf8.byteLength]
          omega
        · simp only [Packet.encodedLen, Utf8.byteLength] at hn
          simp [wordBytes]
          omega
        · rw [decode_request_bytes op hf hm]
          rfl
  | data block payload =>
    rw [write?_data]
    by_cases hp : payload.length > maxPayload
    · rw [if_pos hp]
      refine ⟨fun h => absurd h.1 (by omega), ?_⟩
      simp only [Packet.misfit, if_pos hp]
    · rw [if_neg hp]
      by_cases hn : n < headerSize + payload.length
      · rw [if_pos hn]
        refine ⟨fun h => absurd h.2 (by omega), ?_⟩
        simp only [Packet.misfit, if_neg hp]
      · rw [if_neg hn]
        refine ⟨⟨by omega, by omega⟩, ?_, ?_, decode_data_bytes block (by omega)⟩
        · simp [wordBytes, Packet.writtenLength, Packet.encodedLen, headerSize]
          omega
        · simp only [headerSize] at hn
          simp [wordBytes]
          omega
  | ack block =>
    rw [write?_ack]
    by_cases hn : n < headerSize
    · rw [if_pos hn]
      exact ⟨fun h => by simp only [Packet.Fits] at h; omega, rfl⟩
    · rw [if_neg hn]
      refine ⟨by simp only [Packet.Fits]; omega, rfl, ?_, decode_ack_bytes block⟩
      simp only [headerSize] at hn
      simp [wordBytes]
      omega
  | error code message =>
    rw [write?_error]
    by_cases hn : n < minErrorSize
    · rw [if_pos hn]
      exact ⟨fun h => by simp only [Packet.Fits] at h; omega, rfl⟩
    · rw [if_neg hn]
      have hz : (0 : UInt8) ∉ (messageBytes message).take (n - minErrorSize) :=
        fun h => zero_not_mem_messageBytes message (List.mem_of_mem_take h)
      refine ⟨by simp only [Packet.Fits]; omega, ?_, ?_, decode_error_bytes code hz⟩
      · simp [wordBytes, Packet.writtenLength, minErrorSize, headerSize]
        omega
      · simp only [minErrorSize, headerSize] at hn
        simp [wordBytes, minErrorSize, headerSize]
        omega

theorem encodeInto_of_write?_ok {p : Packet} {buf w : List UInt8}
    (h : p.write? buf.length = .ok w) :
    p.encodeInto buf = (w ++ buf.drop w.length, .ok w.length) := by
  simp [Packet.encodeInto, h]

theorem encodeInto_of_write?_error {p : Packet} {buf : List UInt8} {e : CodecError}
    (h : p.write? buf.length = .error e) : p.encodeInto buf = (buf, .error e) := by
  simp [Packet.encodeInto, h]

/-- Writing into a buffer: on success the message's bytes come first, the buffer keeps its length
and its later bytes, and the bytes read back as `readBack` says; on failure the buffer is as it
was. -/
theorem encodeInto_spec (p : Packet) (buf : List UInt8) :
    match p.encodeInto buf with
    | (buf', .ok k) => p.Fits buf.length ∧ k = p.writtenLength buf.length ∧
        buf'.length = buf.length ∧ buf'.drop k = buf.drop k ∧
        Packet.decode (buf'.take k) = p.readBack buf.length
    | (buf', .error e) => ¬p.Fits buf.length ∧ e = p.misfit buf.length ∧ buf' = buf := by
  have hs := write?_spec p buf.length
  cases hw : p.write? buf.length with
  | ok w =>
    rw [hw] at hs
    obtain ⟨hfit, hlen, hle, hdec⟩ := hs
    rw [encodeInto_of_write?_ok hw]
    refine ⟨hfit, hlen, ?_, by simp, by simpa using hdec⟩
    simp only [List.length_append, List.length_drop]
    omega
  | error e =>
    rw [hw] at hs
    rw [encodeInto_of_write?_error hw]
    exact ⟨hs.1, hs.2, rfl⟩

/-- A fresh datagram is what writing into a zeroed buffer of `bufferSize` bytes leaves in front
of it. -/
theorem toBytes_eq_encodeInto (p : Packet) :
    p.toBytes = match p.encodeInto (List.replicate p.bufferSize 0) with
      | (buf, .ok k) => .ok (buf.take k)
      | (_, .error e) => .error e := by
  unfold Packet.toBytes
  cases hw : p.write? p.bufferSize with
  | ok w =>
    have h' : p.write? (List.replicate p.bufferSize (0 : UInt8)).length = .ok w := by simpa using hw
    rw [encodeInto_of_write?_ok h']
    simp
  | error e =>
    have h' : p.write? (List.replicate p.bufferSize (0 : UInt8)).length = .error e := by simpa using hw
    rw [encodeInto_of_write?_error h']

/-- The buffer `toBytes` sizes always has room: it fails only on a NUL or an oversized payload. -/
theorem toBytes_ne_bufferTooSmall (p : Packet) (needed available : Nat) :
    p.toBytes ≠ .error (.bufferTooSmall needed available) := by
  intro h
  have hs := write?_spec p p.bufferSize
  rw [← Packet.toBytes, h] at hs
  obtain ⟨hfit, he⟩ := hs
  cases p with
  | request op filename mode =>
    by_cases hz : '\x00' ∈ filename.toList ∨ '\x00' ∈ mode.toList
    · simp [Packet.misfit, hz] at he
    · exact hfit ⟨fun h => hz (.inl h), fun h => hz (.inr h), le_of_eq rfl⟩
  | data block payload =>
    by_cases hp : payload.length > maxPayload
    · simp [Packet.misfit, hp] at he
    · exact hfit ⟨by omega, le_of_eq rfl⟩
  | ack block => exact hfit (le_of_eq rfl)
  | error code message =>
    apply hfit
    simp only [Packet.Fits, Packet.bufferSize, Packet.encodedLen, minErrorSize, headerSize,
      maxPacketSize, maxPayload]
    omega

/-- Writing a message into a buffer succeeds exactly when the message fits, and otherwise reports
`misfit` and leaves the buffer alone; a successful write puts `writtenLength` bytes at the front,
keeps the rest of the buffer, and those bytes decode to `readBack`. A fresh datagram is such a
write into a buffer of `bufferSize` bytes, which always has room. -/
theorem encodeInto_contract (p : Packet) (buf : List UInt8) :
    (match p.encodeInto buf with
      | (buf', .ok k) => p.Fits buf.length ∧ k = p.writtenLength buf.length ∧
          buf'.length = buf.length ∧ buf'.drop k = buf.drop k ∧
          Packet.decode (buf'.take k) = p.readBack buf.length
      | (buf', .error e) => ¬p.Fits buf.length ∧ e = p.misfit buf.length ∧ buf' = buf) ∧
    p.toBytes = (match p.encodeInto (List.replicate p.bufferSize 0) with
      | (buf', .ok k) => .ok (buf'.take k)
      | (_, .error e) => .error e) ∧
    ∀ needed available, p.toBytes ≠ .error (.bufferTooSmall needed available) :=
  ⟨encodeInto_spec p buf, toBytes_eq_encodeInto p, toBytes_ne_bufferTooSmall p⟩

example : (Packet.error .notDefined "no such file").readBack 7 =
    .ok (.error .notDefined "no") := by
  cbv

end Tftp
