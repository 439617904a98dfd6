import Mathlib.Algebra.Group.Nat.Defs
import Mathlib.Data.List.Basic
import Mathlib.Tactic.DeriveFintype

namespace HushWire

/-!
# Packet framing

The public header of the v3 wire format: `version || kind || id` for the two
handshake messages and `version || kind || session_id || counter` for
transport packets.  Byte buffers are lists of bytes and the fixed eight-byte
identifiers carry their length.
-/

/-- A byte buffer. -/
abbrev Bytes := List UInt8

namespace Auth

def wireVersion : UInt8 := 0x03

@[simp] def sessionIdSize : Nat := 8

@[simp] def counterSize : Nat := 8

/-- `version || kind || id`. -/
@[simp] def handshakeHeaderSize : Nat := 1 + 1 + sessionIdSize

/-- `version || kind || session_id || counter`. -/
@[simp] def transportHeaderSize : Nat := handshakeHeaderSize + counterSize

/-- A transport ciphertext holds at least the message type and the AEAD tag. -/
@[simp] def minTransportPacketSize : Nat := transportHeaderSize + 1 + 16

def keepaliveProbePayload : Bytes := [0x01]

def keepaliveAckPayload : Bytes := [0x02]

/-- The bytes of `HushWire-v3-handshake`. -/
def handshakeProloguePrefix : Bytes :=
  [0x48, 0x75, 0x73, 0x68, 0x57, 0x69, 0x72, 0x65, 0x2d, 0x76, 0x33, 0x2d,
    0x68, 0x61, 0x6e, 0x64, 0x73, 0x68, 0x61, 0x6b, 0x65]

end Auth

/-- An eight-byte handshake or session identifier. -/
structure SessionId where
  bytes : Bytes
  size : bytes.length = Auth.sessionIdSize
  deriving DecidableEq

namespace SessionId

/-- Identifiers are compared byte by byte, as arrays are. -/
instance : LE SessionId where
  le first second := first.bytes ≤ second.bytes

instance (first second : SessionId) : Decidable (first ≤ second) :=
  inferInstanceAs (Decidable (first.bytes ≤ second.bytes))

theorem ext {first second : SessionId} (same : first.bytes = second.bytes) :
    first = second := by
  cases first
  cases second
  simpa using same

theorem le_antisymm
    {first second : SessionId}
    (firstLe : first ≤ second)
    (secondLe : second ≤ first) :
    first = second :=
  ext (List.le_antisymm firstLe secondLe)

theorem le_total (first second : SessionId) :
    first ≤ second ∨ second ≤ first :=
  List.le_total first.bytes second.bytes

/-- The identifier whose eight bytes are all `byte`. -/
def fill (byte : UInt8) : SessionId where
  bytes := List.replicate Auth.sessionIdSize byte
  size := List.length_replicate

/-- Read an identifier from a buffer of exactly eight bytes. -/
def ofBytes? (bytes : Bytes) : Option SessionId :=
  if size : bytes.length = Auth.sessionIdSize then
    some ⟨bytes, size⟩
  else
    none

@[simp] theorem ofBytes?_bytes (id : SessionId) :
    ofBytes? id.bytes = some id := by
  simp [ofBytes?, id.size]

end SessionId

namespace Auth

inductive PacketKind where
  | transport
  | handshakeInit
  | handshakeResponse
  deriving Repr, DecidableEq

namespace PacketKind

def toU8 : PacketKind → UInt8
  | .transport => 0x00
  | .handshakeInit => 0x01
  | .handshakeResponse => 0x02

def fromU8 (value : UInt8) : Option PacketKind :=
  if value = 0x00 then
    some .transport
  else if value = 0x01 then
    some .handshakeInit
  else if value = 0x02 then
    some .handshakeResponse
  else
    none

def isHandshake : PacketKind → Bool
  | .transport => false
  | .handshakeInit => true
  | .handshakeResponse => true

@[simp] theorem fromU8_toU8 (kind : PacketKind) :
    fromU8 kind.toU8 = some kind := by
  cases kind <;> rfl

end PacketKind

/-- The semantic type, encrypted inside every transport message. -/
inductive MsgType where
  | data
  | keepalive
  deriving Repr, DecidableEq

namespace MsgType

def toU8 : MsgType → UInt8
  | .data => 0x00
  | .keepalive => 0x01

def fromU8 (value : UInt8) : Option MsgType :=
  if value = 0x00 then
    some .data
  else if value = 0x01 then
    some .keepalive
  else
    none

@[simp] theorem fromU8_toU8 (msgType : MsgType) :
    fromU8 msgType.toU8 = some msgType := by
  cases msgType <;> rfl

end MsgType

inductive ParsedPacket where
  | handshake
      (kind : PacketKind)
      (handshakeId : SessionId)
      (message : Bytes)
  | transport
      (sessionId : SessionId)
      (counter : UInt64)
      (ciphertext : Bytes)
  deriving DecidableEq

/-- `u64::to_be_bytes`. -/
def toBeBytes (value : UInt64) : Bytes :=
  [UInt8.ofNat (value.toNat / 256 ^ 7), UInt8.ofNat (value.toNat / 256 ^ 6),
    UInt8.ofNat (value.toNat / 256 ^ 5), UInt8.ofNat (value.toNat / 256 ^ 4),
    UInt8.ofNat (value.toNat / 256 ^ 3), UInt8.ofNat (value.toNat / 256 ^ 2),
    UInt8.ofNat (value.toNat / 256), UInt8.ofNat value.toNat]

/-- `u64::from_be_bytes`, on a buffer of eight bytes. -/
def fromBeBytes (bytes : Bytes) : UInt64 :=
  UInt64.ofNat
    (bytes.foldl (fun value byte => value * 256 + byte.toNat) 0)

@[simp] theorem length_toBeBytes (value : UInt64) :
    (toBeBytes value).length = counterSize :=
  rfl

@[simp] theorem fromBeBytes_toBeBytes (value : UInt64) :
    fromBeBytes (toBeBytes value) = value := by
  have bound : value.toNat < 256 ^ 8 := value.toNat_lt
  apply UInt64.toNat_inj.mp
  simp only [fromBeBytes, toBeBytes, List.foldl_cons, List.foldl_nil,
    UInt8.toNat_ofNat', UInt64.toNat_ofNat']
  omega

def encodeHandshake
    (kind : PacketKind)
    (handshakeId : SessionId)
    (message : Bytes) :
    Bytes :=
  [wireVersion] ++ [kind.toU8] ++ handshakeId.bytes ++ message

def encodeTransport
    (sessionId : SessionId)
    (counter : UInt64)
    (ciphertext : Bytes) :
    Bytes :=
  [wireVersion] ++ [PacketKind.transport.toU8] ++ sessionId.bytes ++
    toBeBytes counter ++ ciphertext

def decodePacket (packet : Bytes) : Option ParsedPacket :=
  if short : packet.length < handshakeHeaderSize then
    none
  else
    have bound : 10 ≤ packet.length := by
      simpa using short
    if packet[0] ≠ wireVersion then
      none
    else
      match PacketKind.fromU8 packet[1] with
      | none => none
      | some kind =>
          let id : SessionId :=
            ⟨(packet.drop 2).take sessionIdSize, by
              simp only [List.length_take, List.length_drop,
                sessionIdSize]
              omega⟩
          if kind.isHandshake then
            let message := packet.drop handshakeHeaderSize
            if message.isEmpty then
              none
            else
              some (.handshake kind id message)
          else if packet.length < minTransportPacketSize then
            none
          else
            let counter :=
              fromBeBytes ((packet.drop handshakeHeaderSize).take counterSize)
            some
              (.transport id counter (packet.drop transportHeaderSize))

def encodeTransportPlaintext (msgType : MsgType) (payload : Bytes) : Bytes :=
  [msgType.toU8] ++ payload

def decodeTransportPlaintext (plaintext : Bytes) : Option (MsgType × Bytes) :=
  match plaintext with
  | [] => none
  | first :: payload =>
      (MsgType.fromU8 first).map fun msgType => (msgType, payload)

def handshakePrologue (handshakeId : SessionId) : Bytes :=
  handshakeProloguePrefix ++ [wireVersion] ++ handshakeId.bytes

/-- A framed handshake message decodes to its own fields. -/
theorem decodePacket_encodeHandshake
    {kind : PacketKind}
    (isHandshake : kind.isHandshake = true)
    (handshakeId : SessionId)
    {message : Bytes}
    (nonempty : message ≠ []) :
    decodePacket (encodeHandshake kind handshakeId message) =
      some (.handshake kind handshakeId message) := by
  have size : handshakeId.bytes.length = 8 := handshakeId.size
  have idBytes :
      (handshakeId.bytes ++ message).take 8 = handshakeId.bytes :=
    List.take_left' size
  have rest :
      (handshakeId.bytes ++ message).drop 8 = message :=
    List.drop_left' size
  simp [decodePacket, encodeHandshake, isHandshake, size, nonempty,
    idBytes, rest]

/-- A framed transport packet decodes to its own fields. -/
theorem decodePacket_encodeTransport
    (sessionId : SessionId)
    (counter : UInt64)
    {ciphertext : Bytes}
    (long : 17 ≤ ciphertext.length) :
    decodePacket (encodeTransport sessionId counter ciphertext) =
      some (.transport sessionId counter ciphertext) := by
  have size : sessionId.bytes.length = 8 := sessionId.size
  have counterLength : (toBeBytes counter).length = 8 := rfl
  have idBytes :
      (sessionId.bytes ++ (toBeBytes counter ++ ciphertext)).take 8 =
        sessionId.bytes :=
    List.take_left' size
  have afterId :
      (sessionId.bytes ++ (toBeBytes counter ++ ciphertext)).drop 8 =
        toBeBytes counter ++ ciphertext :=
    List.drop_left' size
  have counterBytes :
      (toBeBytes counter ++ ciphertext).take 8 = toBeBytes counter :=
    List.take_left' counterLength
  have afterCounter :
      (sessionId.bytes ++ (toBeBytes counter ++ ciphertext)).drop 16 =
        ciphertext := by
    rw [show 16 = 8 + 8 from rfl, ← List.drop_drop, afterId]
    exact List.drop_left' counterLength
  have longEnough : ¬ 8 + (8 + ciphertext.length) + 1 + 1 < 35 := by
    omega
  simp [decodePacket, encodeTransport, PacketKind.isHandshake, size,
    counterLength, idBytes, afterId, counterBytes, afterCounter,
    longEnough]

theorem PacketKind.toU8_inj
    {first second : PacketKind}
    (same : first.toU8 = second.toU8) :
    first = second := by
  have decoded := congrArg PacketKind.fromU8 same
  simpa using decoded

/-- A framed handshake message determines its fields. -/
theorem encodeHandshake_inj
    {firstKind secondKind : PacketKind}
    {firstId secondId : SessionId}
    {firstMessage secondMessage : Bytes}
    (same :
      encodeHandshake firstKind firstId firstMessage =
        encodeHandshake secondKind secondId secondMessage) :
    firstKind = secondKind ∧ firstId = secondId ∧
      firstMessage = secondMessage := by
  simp only [encodeHandshake, List.cons_append, List.nil_append,
    List.cons.injEq, true_and] at same
  obtain ⟨sameKind, rest⟩ := same
  obtain ⟨sameId, sameMessage⟩ :=
    List.append_inj rest (firstId.size.trans secondId.size.symm)
  exact ⟨PacketKind.toU8_inj sameKind, SessionId.ext sameId, sameMessage⟩

/-- A framed transport packet determines its fields. -/
theorem encodeTransport_inj
    {firstId secondId : SessionId}
    {firstCounter secondCounter : UInt64}
    {firstCiphertext secondCiphertext : Bytes}
    (same :
      encodeTransport firstId firstCounter firstCiphertext =
        encodeTransport secondId secondCounter secondCiphertext) :
    firstId = secondId ∧ firstCounter = secondCounter ∧
      firstCiphertext = secondCiphertext := by
  simp only [encodeTransport, List.cons_append, List.nil_append,
    List.cons.injEq, true_and, List.append_assoc] at same
  obtain ⟨sameId, rest⟩ :=
    List.append_inj same (firstId.size.trans secondId.size.symm)
  obtain ⟨sameCounter, sameCiphertext⟩ := List.append_inj rest rfl
  have counterEq := congrArg fromBeBytes sameCounter
  simp only [fromBeBytes_toBeBytes] at counterEq
  exact ⟨SessionId.ext sameId, counterEq, sameCiphertext⟩

/-- The kind byte tells handshake messages and transport packets apart. -/
theorem encodeHandshake_ne_encodeTransport
    {kind : PacketKind}
    (isHandshake : kind.isHandshake = true)
    (handshakeId sessionId : SessionId)
    (message : Bytes)
    (counter : UInt64)
    (ciphertext : Bytes) :
    encodeHandshake kind handshakeId message ≠
      encodeTransport sessionId counter ciphertext := by
  intro same
  simp only [encodeHandshake, encodeTransport, List.cons_append,
    List.nil_append, List.cons.injEq, true_and] at same
  have isTransport := PacketKind.toU8_inj same.1
  rw [isTransport] at isHandshake
  cases isHandshake

/-- The prologue determines the identifier it is made for. -/
theorem handshakePrologue_inj
    {first second : SessionId}
    (same : handshakePrologue first = handshakePrologue second) :
    first = second :=
  SessionId.ext (List.append_cancel_left same)

@[simp] theorem decodeTransportPlaintext_encodeTransportPlaintext
    (msgType : MsgType)
    (payload : Bytes) :
    decodeTransportPlaintext (encodeTransportPlaintext msgType payload) =
      some (msgType, payload) := by
  simp [decodeTransportPlaintext, encodeTransportPlaintext]

end Auth

end HushWire
