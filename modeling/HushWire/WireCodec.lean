import HushWire.Auth
import HushWire.Library.Slice

namespace HushWire

/-!
# The wire codec is a bijection on its image

`decodePacketIndexed` is `decode_packet` with every index and slice of the
source as an access that may fail.  No access fails, so it computes
`decodePacket`.  Encoding and decoding are inverse to each other: what is
encoded decodes to its fields, and what decodes is the encoding of its fields.
-/

namespace Auth

/-- `id.copy_from_slice(slice)`, which fails unless the lengths agree. -/
def copyFromSlice (slice : Bytes) : Except OutOfBounds SessionId :=
  match SessionId.ofBytes? slice with
  | none => .error (.sourceLength slice.length sessionIdSize)
  | some id => .ok id

/-- The `Transport` part of `decode_packet`, with its accesses. -/
def decodeTransportIndexed
    (packet : Bytes)
    (id : SessionId) :
    Except OutOfBounds (Option ParsedPacket) :=
  if packet.length < minTransportPacketSize then
    .ok none
  else do
    let counter ←
      Slice.range packet handshakeHeaderSize transportHeaderSize
    if counter.length ≠ counterSize then
      .ok none
    else
      let ciphertext ← Slice.rangeFrom packet transportHeaderSize
      .ok (some (.transport id (fromBeBytes counter) ciphertext))

/-- `decode_packet`, with its accesses to the packet. -/
def decodePacketIndexed
    (packet : Bytes) :
    Except OutOfBounds (Option ParsedPacket) :=
  if packet.length < handshakeHeaderSize then
    .ok none
  else do
    let version ← Slice.index packet 0
    if version ≠ wireVersion then
      .ok none
    else
      let kindByte ← Slice.index packet 1
      match PacketKind.fromU8 kindByte with
      | none => .ok none
      | some kind =>
          let idBytes ← Slice.range packet 2 handshakeHeaderSize
          let id ← copyFromSlice idBytes
          if kind.isHandshake then
            match Slice.getFrom packet handshakeHeaderSize with
            | none => .ok none
            | some message =>
                if message.isEmpty then
                  .ok none
                else
                  .ok (some (.handshake kind id message))
          else
            decodeTransportIndexed packet id

theorem copyFromSlice_eq
    {slice : Bytes}
    (size : slice.length = sessionIdSize) :
    copyFromSlice slice = .ok ⟨slice, size⟩ := by
  simp only [copyFromSlice, SessionId.ofBytes?, dif_pos size]

/-- The transport accesses stay within a packet that is long enough. -/
theorem decodeTransportIndexed_eq
    (packet : Bytes)
    (id : SessionId) :
    decodeTransportIndexed packet id =
      .ok
        (if packet.length < minTransportPacketSize then
          none
        else
          some
            (.transport id
              (fromBeBytes
                ((packet.drop handshakeHeaderSize).take counterSize))
              (packet.drop transportHeaderSize))) := by
  unfold decodeTransportIndexed
  split
  · rfl
  · rename_i long
    simp only [minTransportPacketSize, transportHeaderSize,
      handshakeHeaderSize, sessionIdSize, counterSize] at long ⊢
    rw [Slice.range_eq (by omega) (by omega),
      Slice.rangeFrom_eq (by omega)]
    have counterLength :
        ((packet.drop (1 + 1 + 8)).take (1 + 1 + 8 + 8 - (1 + 1 + 8))).length
          = 8 := by
      simp only [List.length_take, List.length_drop]
      omega
    simp only [bind, Except.bind, counterLength, ne_eq, not_true_eq_false,
      ↓reduceIte]

/-- No access of `decode_packet` is out of bounds. -/
theorem decodePacketIndexed_eq (packet : Bytes) :
    decodePacketIndexed packet = .ok (decodePacket packet) := by
  unfold decodePacketIndexed decodePacket
  split
  · rfl
  · rename_i long
    have bound : 10 ≤ packet.length := by
      simpa using long
    rw [Slice.index_eq (by omega), Slice.index_eq (by omega)]
    simp only [bind, Except.bind]
    split
    · rfl
    · split
      · rename_i unknown
        simp only [unknown]
      · rename_i kind known
        have inside : handshakeHeaderSize ≤ packet.length := bound
        have idLength :
            ((packet.drop 2).take (handshakeHeaderSize - 2)).length =
              sessionIdSize := by
          simp only [List.length_take, List.length_drop, handshakeHeaderSize,
            sessionIdSize]
          omega
        have ordered : 2 ≤ handshakeHeaderSize := by
          simp
        simp only [known, Slice.range_eq ordered inside,
          copyFromSlice_eq idLength, Slice.getFrom_eq inside,
          decodeTransportIndexed_eq]
        by_cases isHandshake : kind.isHandshake
        · simp only [isHandshake, ↓reduceIte]
          split <;> rfl
        · simp only [isHandshake, Bool.false_eq_true, ↓reduceIte]
          rfl

/-- The fields of a packet in the form the encoders take them. -/
def ParsedPacket.encode : ParsedPacket → Bytes
  | .handshake kind handshakeId message =>
      encodeHandshake kind handshakeId message
  | .transport sessionId counter ciphertext =>
      encodeTransport sessionId counter ciphertext

/-- What the encoders are given: a handshake kind and bodies of full size. -/
inductive ParsedPacket.Encodable : ParsedPacket → Prop where
  | handshake
      {kind : PacketKind}
      {handshakeId : SessionId}
      {message : Bytes} :
      kind.isHandshake = true →
      message ≠ [] →
      Encodable (.handshake kind handshakeId message)
  | transport
      {sessionId : SessionId}
      {counter : UInt64}
      {ciphertext : Bytes} :
      17 ≤ ciphertext.length →
      Encodable (.transport sessionId counter ciphertext)

@[simp] theorem PacketKind.toU8_of_fromU8
    {value : UInt8}
    {kind : PacketKind}
    (known : fromU8 value = some kind) :
    kind.toU8 = value := by
  unfold fromU8 at known
  split at known
  · cases known
    simp_all [toU8]
  · split at known
    · cases known
      simp_all [toU8]
    · split at known
      · cases known
        simp_all [toU8]
      · cases known

theorem MsgType.toU8_of_fromU8
    {value : UInt8}
    {msgType : MsgType}
    (known : fromU8 value = some msgType) :
    msgType.toU8 = value := by
  unfold fromU8 at known
  split at known
  · cases known
    simp_all [toU8]
  · split at known
    · cases known
      simp_all [toU8]
    · cases known

/-- Eight bytes are the encoding of the number they spell. -/
theorem toBeBytes_fromBeBytes
    {bytes : Bytes}
    (size : bytes.length = counterSize) :
    toBeBytes (fromBeBytes bytes) = bytes := by
  match bytes, size with
  | [b7, b6, b5, b4, b3, b2, b1, b0], _ =>
      have h7 := b7.toNat_lt
      have h6 := b6.toNat_lt
      have h5 := b5.toNat_lt
      have h4 := b4.toNat_lt
      have h3 := b3.toNat_lt
      have h2 := b2.toNat_lt
      have h1 := b1.toNat_lt
      have h0 := b0.toNat_lt
      simp only [fromBeBytes, toBeBytes, List.foldl_cons, List.foldl_nil,
        UInt64.toNat_ofNat', List.cons.injEq, and_true, ← UInt8.toNat_inj,
        UInt8.toNat_ofNat']
      omega

/-- What decodes is the encoding of its fields, which are encodable. -/
theorem encode_of_decodePacket
    {packet : Bytes}
    {parsed : ParsedPacket}
    (decoded : decodePacket packet = some parsed) :
    parsed.Encodable ∧ parsed.encode = packet := by
  unfold decodePacket at decoded
  split at decoded
  case isTrue =>
    cases decoded
  case isFalse long =>
    have bound : 10 ≤ packet.length := by
      simpa using long
    have header :
        packet =
          [packet[0]] ++ [packet[1]] ++ (packet.drop 2).take 8 ++
            packet.drop 10 := by
      cases packet with
      | nil => exact absurd bound (by simp)
      | cons version afterVersion =>
          cases afterVersion with
          | nil => exact absurd bound (by simp)
          | cons kind rest =>
              have joined : rest.take 8 ++ rest.drop 8 = rest :=
                List.take_append_drop 8 rest
              simp [joined]
    by_cases isVersion : packet[0] = wireVersion
    case neg =>
      simp [isVersion] at decoded
    case pos =>
      simp only [isVersion, ne_eq, not_true_eq_false, ↓reduceIte] at decoded
      split at decoded
      case h_1 =>
        cases decoded
      case h_2 kind known =>
        have isKind := PacketKind.toU8_of_fromU8 known
        split at decoded
        case isTrue isHandshake =>
          split at decoded
          case isTrue =>
            cases decoded
          case isFalse nonempty =>
            cases decoded
            refine ⟨.handshake isHandshake (by simpa using nonempty), ?_⟩
            rw [isVersion, ← isKind] at header
            exact header.symm
        case isFalse notHandshake =>
          split at decoded
          case isTrue =>
            cases decoded
          case isFalse longEnough =>
            cases decoded
            have isTransport : kind = .transport := by
              cases kind with
              | transport => rfl
              | handshakeInit | handshakeResponse =>
                  exact absurd rfl notHandshake
            subst isTransport
            simp only [minTransportPacketSize, transportHeaderSize,
              handshakeHeaderSize, sessionIdSize, counterSize] at longEnough
            have counterLength :
                ((packet.drop 10).take 8).length = counterSize := by
              simp only [List.length_take, List.length_drop, counterSize]
              omega
            have body :
                toBeBytes (fromBeBytes ((packet.drop 10).take 8)) ++
                    packet.drop 18 =
                  packet.drop 10 := by
              rw [toBeBytes_fromBeBytes counterLength,
                show 18 = 10 + 8 from rfl, ← List.drop_drop,
                List.take_append_drop]
            have long : 17 ≤ (packet.drop transportHeaderSize).length := by
              simp only [List.length_drop, transportHeaderSize,
                handshakeHeaderSize, sessionIdSize, counterSize]
              omega
            refine ⟨.transport long, ?_⟩
            rw [isVersion, ← isKind, ← body, ← List.append_assoc] at header
            exact header.symm

/-- What decodes as a plaintext is the encoding of its fields. -/
theorem encode_of_decodeTransportPlaintext
    {plaintext payload : Bytes}
    {msgType : MsgType}
    (decoded :
      decodeTransportPlaintext plaintext = some (msgType, payload)) :
    encodeTransportPlaintext msgType payload = plaintext := by
  cases plaintext with
  | nil =>
      cases decoded
  | cons first rest =>
      simp only [decodeTransportPlaintext, Option.map_eq_some_iff,
        Prod.mk.injEq] at decoded
      obtain ⟨_, known, rfl, rfl⟩ := decoded
      rw [encodeTransportPlaintext, MsgType.toU8_of_fromU8 known]
      rfl

/--
Both encoders are inverted by the decoder on all they may be given, every
packet the decoder accepts is the encoding of what it returns, and no byte
string takes an access of the decoder out of bounds; likewise for the
plaintext inside a transport packet.
-/
theorem wire_codec_bijective :
    (∀ kind handshakeId message,
        kind.isHandshake = true →
        message ≠ [] →
        decodePacketIndexed (encodeHandshake kind handshakeId message) =
          .ok (some (.handshake kind handshakeId message))) ∧
      (∀ sessionId counter ciphertext,
        17 ≤ ciphertext.length →
        decodePacketIndexed (encodeTransport sessionId counter ciphertext) =
          .ok (some (.transport sessionId counter ciphertext))) ∧
      (∀ packet, ∃ decoded, decodePacketIndexed packet = .ok decoded) ∧
      (∀ packet parsed,
        decodePacketIndexed packet = .ok (some parsed) →
        parsed.Encodable ∧ parsed.encode = packet) ∧
      (∀ msgType payload,
        decodeTransportPlaintext (encodeTransportPlaintext msgType payload) =
          some (msgType, payload)) ∧
      ∀ plaintext msgType payload,
        decodeTransportPlaintext plaintext = some (msgType, payload) →
        encodeTransportPlaintext msgType payload = plaintext := by
  refine ⟨?_, ?_, ?_, ?_, decodeTransportPlaintext_encodeTransportPlaintext,
    fun _ _ _ => encode_of_decodeTransportPlaintext⟩
  · intro kind handshakeId message isHandshake nonempty
    rw [decodePacketIndexed_eq,
      decodePacket_encodeHandshake isHandshake handshakeId nonempty]
  · intro sessionId counter ciphertext long
    rw [decodePacketIndexed_eq,
      decodePacket_encodeTransport sessionId counter long]
  · intro packet
    exact ⟨_, decodePacketIndexed_eq packet⟩
  · intro packet parsed decoded
    rw [decodePacketIndexed_eq, Except.ok.injEq] at decoded
    exact encode_of_decodePacket decoded

/--
The shortest packets of both forms; a truncated one, one of another kind and a
transport packet that holds no byte beside its tag.
-/
theorem wire_codec_bijective_example :
    decodePacketIndexed
        (encodeHandshake .handshakeInit (.fill 7) [0x2a]) =
      .ok (some (.handshake .handshakeInit (.fill 7) [0x2a])) ∧
    decodePacketIndexed
        (encodeTransport (.fill 7) 258 (List.replicate 17 0x2a)) =
      .ok (some (.transport (.fill 7) 258 (List.replicate 17 0x2a))) ∧
    decodePacketIndexed [wireVersion, 0x01] = .ok none ∧
    decodePacketIndexed (wireVersion :: 0x7f :: (SessionId.fill 7).bytes) =
      .ok none ∧
    decodePacketIndexed
        (encodeTransport (.fill 7) 258 (List.replicate 16 0x2a)) =
      .ok none :=
  ⟨wire_codec_bijective.1 .handshakeInit (.fill 7) [0x2a] rfl (by simp),
    wire_codec_bijective.2.1 (.fill 7) 258 (List.replicate 17 0x2a)
      (by simp),
    rfl, rfl, by decide⟩

end Auth

end HushWire
