import HushWire.Auth
import HushWire.Replay

namespace HushWire

/-!
# Noise sessions

Handshakes and transport sessions over the `snow` state machine.  `snow` and
`x25519_dalek` are parameters: a `Snow` collects the calls this module makes,
with the randomness they draw passed in.  Everything around those calls, the
checks, the counters and the order of the effects, is the module's own.

A point in time is a number of nanoseconds, so that the saturating difference
of two instants is subtraction of natural numbers.
-/

/-- A point in time, in nanoseconds of one monotone clock. -/
abbrev Instant := Nat

/-- `Duration::from_secs`. -/
def fromSecs (seconds : Nat) : Nat :=
  seconds * 1000000000

/-- `u64::MAX`. -/
def u64Max : UInt64 := 0xFFFFFFFFFFFFFFFF

/-- `checked_add(1)`. -/
def checkedSucc (value : UInt64) : Option UInt64 :=
  if value = u64Max then none else some (value + 1)

/-- `saturating_add(1)`. -/
def saturatingSucc (value : UInt64) : UInt64 :=
  if value = u64Max then value else value + 1

/-- A 32-byte private, public or pre-shared key. -/
structure Key where
  bytes : Bytes
  size : bytes.length = 32
  deriving DecidableEq

namespace Key

/-- The key whose bytes are all `byte`. -/
def fill (byte : UInt8) : Key where
  bytes := List.replicate 32 byte
  size := List.length_replicate

/-- Read a key from a buffer of exactly 32 bytes. -/
def ofBytes? (bytes : Bytes) : Option Key :=
  if size : bytes.length = 32 then some ⟨bytes, size⟩ else none

@[simp] theorem ofBytes?_bytes (key : Key) :
    ofBytes? key.bytes = some key := by
  simp [ofBytes?, key.size]

end Key

/-- The calls made into `snow` and `x25519_dalek`. -/
structure Snow where
  Error : Type
  HandshakeState : Type
  StatelessTransportState : Type
  /-- The randomness behind one ephemeral key pair. -/
  Ephemeral : Type
  publicKey : Key → Key
  buildInitiator :
    (localPrivateKey remotePublicKey psk : Key) →
    (prologue : Bytes) →
    Except Error HandshakeState
  buildResponder :
    (localPrivateKey psk : Key) →
    (prologue : Bytes) →
    Except Error HandshakeState
  /-- `write_message` of a handshake, into a buffer of `capacity` bytes. -/
  writeHandshake :
    HandshakeState →
    Ephemeral →
    (payload : Bytes) →
    (capacity : Nat) →
    Except Error (Bytes × HandshakeState)
  /-- `read_message` of a handshake; a failed read leaves the state as it is. -/
  readHandshake :
    HandshakeState →
    (message : Bytes) →
    (capacity : Nat) →
    Except Error (Bytes × HandshakeState)
  getRemoteStatic : HandshakeState → Option Key
  intoStatelessTransportMode :
    HandshakeState → Except Error StatelessTransportState
  /-- `write_message` of a transport, into a buffer of `capacity` bytes. -/
  writeMessage :
    StatelessTransportState →
    (nonce : UInt64) →
    (payload : Bytes) →
    (capacity : Nat) →
    Except Error Bytes
  /-- `read_message` of a transport, into a buffer of `capacity` bytes. -/
  readMessage :
    StatelessTransportState →
    (nonce : UInt64) →
    (message : Bytes) →
    (capacity : Nat) →
    Except Error Bytes

namespace Noise

def rekeyAfterTime : Nat := fromSecs 120

def rejectAfterTime : Nat := fromSecs 180

def rekeyAfterMessages : UInt64 := (1 : UInt64) <<< 32

def aeadTagSize : Nat := 16

def maxNoiseMessageSize : Nat := 65535

inductive NoiseError (snow : Snow) where
  | snow (error : snow.Error)
  | missingRemoteStatic
  | remoteStaticMismatch
  | invalidSessionId
  | wrongSession
  | malformedTransport
  | replay
  | counterExhausted

/-- The text of an error; a `snow` error brings its own text. -/
def NoiseError.message
    {snow : Snow}
    (display : snow.Error → String) :
    NoiseError snow → String
  | .snow error => "Noise operation failed: " ++ display error
  | .missingRemoteStatic =>
      "handshake did not reveal the configured remote static key"
  | .remoteStaticMismatch =>
      "handshake remote static key does not match the configured peer"
  | .invalidSessionId =>
      "handshake response contained an invalid session identifier"
  | .wrongSession => "transport packet belongs to another session"
  | .malformedTransport => "transport packet is malformed"
  | .replay => "transport counter is a replay or outside the receive window"
  | .counterExhausted => "transport sending counter is exhausted"

variable {snow : Snow}

/-- The `?` operator on the result of a `snow` call. -/
def fromSnow {α : Type} :
    Except snow.Error α → Except (NoiseError snow) α
  | .error error => .error (.snow error)
  | .ok value => .ok value

/-- A negotiated bidirectional transport keypair. -/
structure Session (snow : Snow) where
  sessionId : SessionId
  transport : snow.StatelessTransportState
  createdAt : Instant
  sendCounter : UInt64
  receivedMessages : UInt64
  replay : ReplayWindow

namespace Session

/-- `Session::new`, called when the clock shows `clock`. -/
def new
    (sessionId : SessionId)
    (transport : snow.StatelessTransportState)
    (clock : Instant) :
    Session snow where
  sessionId := sessionId
  transport := transport
  createdAt := clock
  sendCounter := 0
  receivedMessages := 0
  replay := ReplayWindow.new

/-- Encrypt and frame a message; the counter is reserved before encryption. -/
def encrypt
    (session : Session snow)
    (msgType : Auth.MsgType)
    (payload : Bytes) :
    Except (NoiseError snow) Bytes × Session snow :=
  let counter := session.sendCounter
  match checkedSucc counter with
  | none => (.error .counterExhausted, session)
  | some next =>
      let session := { session with sendCounter := next }
      let plaintext := Auth.encodeTransportPlaintext msgType payload
      match snow.writeMessage session.transport counter plaintext
          (plaintext.length + aeadTagSize) with
      | .error error => (.error (.snow error), session)
      | .ok ciphertext =>
          (.ok (Auth.encodeTransport session.sessionId counter ciphertext),
            session)

/-- Authenticate, replay-check and decrypt a parsed transport packet. -/
def decrypt
    (session : Session snow)
    (sessionId : SessionId)
    (counter : UInt64)
    (ciphertext : Bytes) :
    Except (NoiseError snow) (Auth.MsgType × Bytes) × Session snow :=
  if sessionId ≠ session.sessionId then
    (.error .wrongSession, session)
  else if session.replay.wouldAccept counter = false then
    (.error .replay, session)
  else if ciphertext.length < aeadTagSize + 1 then
    (.error .malformedTransport, session)
  else
    match snow.readMessage session.transport counter ciphertext
        (ciphertext.length - aeadTagSize) with
    | .error error => (.error (.snow error), session)
    | .ok plaintext =>
        match session.replay.markAuthenticated counter with
        | (false, replay) => (.error .replay, { session with replay })
        | (true, replay) =>
            let session :=
              { session with
                replay
                receivedMessages := saturatingSucc session.receivedMessages }
            match Auth.decodeTransportPlaintext plaintext with
            | none => (.error .malformedTransport, session)
            | some decrypted => (.ok decrypted, session)

def shouldRekey (session : Session snow) (now : Instant) : Bool :=
  decide (rekeyAfterTime ≤ now - session.createdAt) ||
    decide (rekeyAfterMessages ≤ session.sendCounter) ||
    decide (rekeyAfterMessages ≤ session.receivedMessages)

def isExpired (session : Session snow) (now : Instant) : Bool :=
  decide (rejectAfterTime ≤ now - session.createdAt) ||
    decide (session.sendCounter = u64Max)

/-! ### What the two calls change -/

@[simp] theorem encrypt_sessionId
    (session : Session snow)
    (msgType : Auth.MsgType)
    (payload : Bytes) :
    (session.encrypt msgType payload).2.sessionId = session.sessionId := by
  unfold encrypt
  grind

@[simp] theorem encrypt_transport
    (session : Session snow)
    (msgType : Auth.MsgType)
    (payload : Bytes) :
    (session.encrypt msgType payload).2.transport = session.transport := by
  unfold encrypt
  grind

@[simp] theorem encrypt_createdAt
    (session : Session snow)
    (msgType : Auth.MsgType)
    (payload : Bytes) :
    (session.encrypt msgType payload).2.createdAt = session.createdAt := by
  unfold encrypt
  grind

@[simp] theorem encrypt_receivedMessages
    (session : Session snow)
    (msgType : Auth.MsgType)
    (payload : Bytes) :
    (session.encrypt msgType payload).2.receivedMessages =
      session.receivedMessages := by
  unfold encrypt
  grind

@[simp] theorem encrypt_replay
    (session : Session snow)
    (msgType : Auth.MsgType)
    (payload : Bytes) :
    (session.encrypt msgType payload).2.replay = session.replay := by
  unfold encrypt
  grind

/-- An unexhausted counter is reserved whether or not encryption succeeds. -/
theorem encrypt_sendCounter
    {session : Session snow}
    (unexhausted : session.sendCounter ≠ u64Max)
    (msgType : Auth.MsgType)
    (payload : Bytes) :
    (session.encrypt msgType payload).2.sendCounter =
      session.sendCounter + 1 := by
  unfold encrypt
  simp only [checkedSucc, unexhausted, ↓reduceIte]
  split <;> rfl

/-- A returned frame is the framed ciphertext of the reserved counter. -/
theorem encrypt_ok
    {session : Session snow}
    {msgType : Auth.MsgType}
    {payload frame : Bytes}
    (encrypted : (session.encrypt msgType payload).1 = .ok frame) :
    session.sendCounter ≠ u64Max ∧
      ∃ ciphertext,
        snow.writeMessage session.transport session.sendCounter
            (Auth.encodeTransportPlaintext msgType payload)
            ((Auth.encodeTransportPlaintext msgType payload).length +
              aeadTagSize) =
          .ok ciphertext ∧
        frame =
          Auth.encodeTransport session.sessionId session.sendCounter
            ciphertext := by
  unfold encrypt at encrypted
  by_cases exhausted : session.sendCounter = u64Max
  · simp [checkedSucc, exhausted] at encrypted
  · refine ⟨exhausted, ?_⟩
    simp only [checkedSucc, exhausted, ↓reduceIte] at encrypted
    split at encrypted
    case h_1 => cases encrypted
    case h_2 ciphertext written =>
      cases encrypted
      exact ⟨ciphertext, written, rfl⟩

/-- Only an exhausted counter makes `encrypt` report exhaustion. -/
theorem encrypt_ne_counterExhausted
    {session : Session snow}
    (unexhausted : session.sendCounter ≠ u64Max)
    (msgType : Auth.MsgType)
    (payload : Bytes) :
    (session.encrypt msgType payload).1 ≠ .error .counterExhausted := by
  unfold encrypt
  simp only [checkedSucc, unexhausted, ↓reduceIte]
  split <;> simp

@[simp] theorem decrypt_sessionId
    (session : Session snow)
    (sessionId : SessionId)
    (counter : UInt64)
    (ciphertext : Bytes) :
    (session.decrypt sessionId counter ciphertext).2.sessionId =
      session.sessionId := by
  unfold decrypt
  grind

@[simp] theorem decrypt_transport
    (session : Session snow)
    (sessionId : SessionId)
    (counter : UInt64)
    (ciphertext : Bytes) :
    (session.decrypt sessionId counter ciphertext).2.transport =
      session.transport := by
  unfold decrypt
  grind

@[simp] theorem decrypt_createdAt
    (session : Session snow)
    (sessionId : SessionId)
    (counter : UInt64)
    (ciphertext : Bytes) :
    (session.decrypt sessionId counter ciphertext).2.createdAt =
      session.createdAt := by
  unfold decrypt
  grind

@[simp] theorem decrypt_sendCounter
    (session : Session snow)
    (sessionId : SessionId)
    (counter : UInt64)
    (ciphertext : Bytes) :
    (session.decrypt sessionId counter ciphertext).2.sendCounter =
      session.sendCounter := by
  unfold decrypt
  grind

/-- The packet passes the header checks and its AEAD tag under a session. -/
def Authenticates
    (session : Session snow)
    (sessionId : SessionId)
    (counter : UInt64)
    (ciphertext plaintext : Bytes) :
    Prop :=
  sessionId = session.sessionId ∧
    session.replay.wouldAccept counter = true ∧
    aeadTagSize + 1 ≤ ciphertext.length ∧
    snow.readMessage session.transport counter ciphertext
        (ciphertext.length - aeadTagSize) =
      .ok plaintext

/--
A packet that does not authenticate changes nothing; one that does is
recorded in the window and counted before its message type is decoded.
-/
theorem decrypt_cases
    (session : Session snow)
    (sessionId : SessionId)
    (counter : UInt64)
    (ciphertext : Bytes) :
    ((∀ plaintext,
        ¬ session.Authenticates sessionId counter ciphertext plaintext) ∧
      (∃ error,
        session.decrypt sessionId counter ciphertext =
          (.error error, session))) ∨
    (∃ plaintext,
      session.Authenticates sessionId counter ciphertext plaintext ∧
      session.decrypt sessionId counter ciphertext =
        (match Auth.decodeTransportPlaintext plaintext with
          | none => .error .malformedTransport
          | some decrypted => .ok decrypted,
        { session with
          replay := (session.replay.markAuthenticated counter).2
          receivedMessages := saturatingSucc session.receivedMessages })) := by
  unfold decrypt Authenticates
  by_cases sameId : sessionId = session.sessionId
  case neg =>
    exact Or.inl ⟨fun _ opened => sameId opened.1, _, if_pos sameId⟩
  case pos =>
    cases accepts : session.replay.wouldAccept counter with
    | false =>
        exact Or.inl ⟨by simp, .replay, by simp [sameId]⟩
    | true =>
        by_cases short : ciphertext.length < aeadTagSize + 1
        · exact Or.inl
            ⟨fun _ opened => Nat.not_le_of_lt short opened.2.2.1,
              .malformedTransport, by simp [sameId, short]⟩
        · cases opened :
            snow.readMessage session.transport counter ciphertext
              (ciphertext.length - aeadTagSize) with
          | error error =>
              exact Or.inl ⟨by simp, .snow error, by simp [sameId, short]⟩
          | ok plaintext =>
              have marked :
                  session.replay.markAuthenticated counter =
                    (true, (session.replay.markAuthenticated counter).2) :=
                Prod.ext
                  (ReplayWindow.fst_markAuthenticated_of_accepted accepts)
                  rfl
              refine Or.inr
                ⟨plaintext, ⟨sameId, rfl, by omega, rfl⟩, ?_⟩
              simp only [sameId, ne_eq, not_true_eq_false, ↓reduceIte,
                Bool.true_eq_false, short]
              rw [marked]
              cases decoded : Auth.decodeTransportPlaintext plaintext <;>
                simp

end Session

/-- The state needed to process the second handshake message. -/
structure InitiatorState (snow : Snow) where
  handshakeId : SessionId
  state : snow.HandshakeState

/-- The first handshake message plus the state needed to process the second. -/
structure InitiatorHandshake (snow : Snow) where
  handshakeId : SessionId
  message : Bytes
  state : InitiatorState snow

/-- Responder output; the session is a candidate until it is confirmed. -/
structure ResponderHandshake (snow : Snow) where
  message : Bytes
  session : Session snow

/-- The randomness of one handshake step: an identifier and a key pair. -/
structure Draw (snow : Snow) where
  id : SessionId
  ephemeral : snow.Ephemeral

def initiatorStartWithId
    (localStatic remoteStaticPub psk : Key)
    (handshakeId : SessionId)
    (ephemeral : snow.Ephemeral) :
    Except (NoiseError snow) (InitiatorHandshake snow) := do
  let prologue := Auth.handshakePrologue handshakeId
  let state ←
    fromSnow (snow.buildInitiator localStatic remoteStaticPub psk prologue)
  let (message, state) ←
    fromSnow (snow.writeHandshake state ephemeral [] maxNoiseMessageSize)
  return {
    handshakeId
    message
    state := { handshakeId, state }
  }

/-- `initiator_start`, with the identifier and key pair it draws. -/
def initiatorStart
    (localStatic remoteStaticPub psk : Key)
    (draw : Draw snow) :
    Except (NoiseError snow) (InitiatorHandshake snow) :=
  initiatorStartWithId localStatic remoteStaticPub psk draw.id draw.ephemeral

/-- A started handshake wrote its first message under a fresh identifier. -/
theorem initiatorStart_ok
    {localStatic remoteStaticPub psk : Key}
    {draw : Draw snow}
    {handshake : InitiatorHandshake snow}
    (started :
      initiatorStart localStatic remoteStaticPub psk draw = .ok handshake) :
    ∃ fresh message state,
      snow.buildInitiator localStatic remoteStaticPub psk
          (Auth.handshakePrologue draw.id) =
        .ok fresh ∧
      snow.writeHandshake fresh draw.ephemeral [] maxNoiseMessageSize =
        .ok (message, state) ∧
      handshake =
        { handshakeId := draw.id
          message
          state := { handshakeId := draw.id, state } } := by
  unfold initiatorStart initiatorStartWithId at started
  dsimp only at started
  cases built :
      snow.buildInitiator localStatic remoteStaticPub psk
        (Auth.handshakePrologue draw.id) with
  | error error =>
      rw [built] at started
      cases started
  | ok fresh =>
      rw [built] at started
      simp only [fromSnow, bind, Except.bind] at started
      rcases written :
        snow.writeHandshake fresh draw.ephemeral [] maxNoiseMessageSize with
        error | ⟨message, state⟩
      · rw [written] at started
        cases started
      · rw [written] at started
        cases started
        exact ⟨fresh, message, state, rfl, written, rfl⟩

def initiatorFinalize
    (initiator : InitiatorState snow)
    (message : Bytes)
    (clock : Instant) :
    Except (NoiseError snow) (Session snow) := do
  let (payload, state) ←
    fromSnow
      (snow.readHandshake initiator.state message
        (Auth.sessionIdSize + aeadTagSize))
  match SessionId.ofBytes? payload with
  | none => throw .invalidSessionId
  | some sessionId =>
      let transport ← fromSnow (snow.intoStatelessTransportMode state)
      return Session.new sessionId transport clock

/-- A completed handshake yields a new session. -/
theorem initiatorFinalize_ok
    {initiator : InitiatorState snow}
    {response : Bytes}
    {clock : Instant}
    {session : Session snow}
    (completed : initiatorFinalize initiator response clock = .ok session) :
    ∃ payload state sessionId transport,
      snow.readHandshake initiator.state response
          (Auth.sessionIdSize + aeadTagSize) =
        .ok (payload, state) ∧
      SessionId.ofBytes? payload = some sessionId ∧
      snow.intoStatelessTransportMode state = .ok transport ∧
      session = Session.new sessionId transport clock := by
  unfold initiatorFinalize at completed
  cases opened :
      snow.readHandshake initiator.state response
        (Auth.sessionIdSize + aeadTagSize) with
  | error error =>
      rw [opened] at completed
      cases completed
  | ok opening =>
      obtain ⟨payload, state⟩ := opening
      rw [opened] at completed
      simp only [fromSnow, bind, Except.bind] at completed
      cases read : SessionId.ofBytes? payload with
      | none =>
          rw [read] at completed
          cases completed
      | some sessionId =>
          rw [read] at completed
          cases split : snow.intoStatelessTransportMode state with
          | error error =>
              rw [split] at completed
              cases completed
          | ok transport =>
              rw [split] at completed
              cases completed
              exact ⟨payload, state, sessionId, transport, rfl, read, split,
                rfl⟩

/-- `responder_respond`, with the session identifier and key pair it draws. -/
def responderRespond
    (localStatic expectedRemoteStatic psk : Key)
    (handshakeId : SessionId)
    (message : Bytes)
    (draw : Draw snow)
    (clock : Instant) :
    Except (NoiseError snow) (ResponderHandshake snow) := do
  let prologue := Auth.handshakePrologue handshakeId
  let state ← fromSnow (snow.buildResponder localStatic psk prologue)
  let (payload, state) ←
    fromSnow (snow.readHandshake state message maxNoiseMessageSize)
  if payload.length ≠ 0 then
    throw .malformedTransport
  match snow.getRemoteStatic state with
  | none => throw .missingRemoteStatic
  | some remoteStatic =>
      if remoteStatic ≠ expectedRemoteStatic then
        throw .remoteStaticMismatch
      let (response, state) ←
        fromSnow
          (snow.writeHandshake state draw.ephemeral draw.id.bytes
            maxNoiseMessageSize)
      let transport ← fromSnow (snow.intoStatelessTransportMode state)
      return {
        message := response
        session := Session.new draw.id transport clock
      }

/-- An answered handshake passed every check and yields a new session. -/
theorem responderRespond_ok
    {localStatic expectedRemoteStatic psk : Key}
    {handshakeId : SessionId}
    {message : Bytes}
    {draw : Draw snow}
    {clock : Instant}
    {answer : ResponderHandshake snow}
    (answered :
      responderRespond localStatic expectedRemoteStatic psk handshakeId
        message draw clock = .ok answer) :
    ∃ fresh opened final response transport,
      snow.buildResponder localStatic psk
          (Auth.handshakePrologue handshakeId) =
        .ok fresh ∧
      snow.readHandshake fresh message maxNoiseMessageSize =
        .ok ([], opened) ∧
      snow.getRemoteStatic opened = some expectedRemoteStatic ∧
      snow.writeHandshake opened draw.ephemeral draw.id.bytes
          maxNoiseMessageSize =
        .ok (response, final) ∧
      snow.intoStatelessTransportMode final = .ok transport ∧
      answer =
        { message := response
          session := Session.new draw.id transport clock } := by
  unfold responderRespond at answered
  dsimp only at answered
  cases built :
      snow.buildResponder localStatic psk
        (Auth.handshakePrologue handshakeId) with
  | error error =>
      rw [built] at answered
      cases answered
  | ok fresh =>
      rw [built] at answered
      simp only [fromSnow, bind, Except.bind] at answered
      rcases opened :
        snow.readHandshake fresh message maxNoiseMessageSize with
        error | ⟨payload, state⟩
      · rw [opened] at answered
        cases answered
      · rw [opened] at answered
        by_cases empty : payload = []
        case neg =>
          simp [empty, throw, throwThe, MonadExceptOf.throw] at answered
        case pos =>
          subst empty
          simp only [List.length_nil, ne_eq, not_true_eq_false,
            ↓reduceIte] at answered
          cases remote : snow.getRemoteStatic state with
          | none =>
              rw [remote] at answered
              cases answered
          | some remoteStatic =>
              rw [remote] at answered
              by_cases expected : remoteStatic = expectedRemoteStatic
              case neg =>
                simp [expected, throw, throwThe, MonadExceptOf.throw]
                  at answered
              case pos =>
                subst expected
                simp only [not_true_eq_false, ↓reduceIte] at answered
                rcases written :
                  snow.writeHandshake state draw.ephemeral draw.id.bytes
                    maxNoiseMessageSize with
                  error | ⟨response, final⟩
                · rw [written] at answered
                  cases answered
                · rw [written] at answered
                  cases split : snow.intoStatelessTransportMode final with
                  | error error =>
                      simp [split] at answered
                  | ok transport =>
                      simp only [split, pure, Except.pure,
                        Except.ok.injEq] at answered
                      exact ⟨fresh, state, final, response, transport, rfl,
                        opened, remote, written, split, answered.symm⟩

end Noise

end HushWire
