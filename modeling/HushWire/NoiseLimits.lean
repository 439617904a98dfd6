import HushWire.ManagerEvents
import HushWire.PlainNoise

namespace HushWire

open Noise

/-!
# What the Noise layer refuses

A transport message may have 65535 bytes with its tag, and nothing else keeps
`snow` from writing one; writing the first message of a handshake does not fail
either.  Both are assumptions on `snow`, and `PlainNoise` meets them.
-/

variable {snow : Snow}

/-- A transport message is written exactly if it is not too long. -/
structure NoiseLimits (snow : Snow) : Prop where
  writesMessage :
    ∀ transport {nonce payload},
      nonce ≠ u64Max →
      payload.length + aeadTagSize ≤ maxNoiseMessageSize →
      ∃ message,
        snow.writeMessage transport nonce payload
            (payload.length + aeadTagSize) =
          .ok message ∧
        message.length = payload.length + aeadTagSize
  rejectsMessage :
    ∀ transport nonce {payload},
      maxNoiseMessageSize < payload.length + aeadTagSize →
      ∃ error,
        snow.writeMessage transport nonce payload
            (payload.length + aeadTagSize) =
          .error error

/-- Starting a handshake does not fail. -/
def Snow.StartsHandshakes (snow : Snow) : Prop :=
  ∀ (localStatic remoteStaticPub psk : Key) (draw : Draw snow),
    ∃ handshake,
      initiatorStart localStatic remoteStaticPub psk draw = .ok handshake

/-- The frame of a message has a header and a tag. -/
theorem Auth.encodeTransport_length
    (sessionId : SessionId)
    (counter : UInt64)
    (ciphertext : Bytes) :
    (encodeTransport sessionId counter ciphertext).length =
      transportHeaderSize + ciphertext.length := by
  simp [encodeTransport, sessionId.size, toBeBytes, transportHeaderSize,
    sessionIdSize]
  omega

/-- A plaintext has one byte more than its payload. -/
theorem plaintext_length (msgType : Auth.MsgType) (payload : Bytes) :
    (Auth.encodeTransportPlaintext msgType payload).length =
      payload.length + 1 := by
  simp [Auth.encodeTransportPlaintext]

namespace NoiseLimits

/-- A payload that fits is encrypted, and the frame is as long as expected. -/
theorem encrypts
    (limits : NoiseLimits snow)
    {session : Session snow}
    {payload : Bytes}
    (msgType : Auth.MsgType)
    (unexhausted : session.sendCounter ≠ u64Max)
    (fits : payload.length + 1 + aeadTagSize ≤ maxNoiseMessageSize) :
    ∃ frame,
      (session.encrypt msgType payload).1 = .ok frame ∧
        frame.length =
          Auth.transportHeaderSize + (payload.length + 1 + aeadTagSize) := by
  obtain ⟨ciphertext, written, ciphertextSize⟩ :=
    limits.writesMessage session.transport unexhausted
      (plaintext_length msgType payload ▸ fits)
  refine ⟨Auth.encodeTransport session.sessionId session.sendCounter
    ciphertext, ?_, ?_⟩
  · simp [Session.encrypt, checkedSucc, unexhausted, written]
  · rw [Auth.encodeTransport_length, ciphertextSize, plaintext_length]

/-- A payload that does not fit is refused. -/
theorem refuses
    (limits : NoiseLimits snow)
    (session : Session snow)
    (msgType : Auth.MsgType)
    {payload : Bytes}
    (tooLong : maxNoiseMessageSize < payload.length + 1 + aeadTagSize) :
    ∃ error, (session.encrypt msgType payload).1 = .error error := by
  cases sealed : (session.encrypt msgType payload).1 with
  | error error =>
      exact ⟨error, rfl⟩
  | ok frame =>
      obtain ⟨_, ciphertext, written, _⟩ := Session.encrypt_ok sealed
      obtain ⟨error, rejected⟩ :=
        limits.rejectsMessage session.transport session.sendCounter
          (plaintext_length msgType payload ▸ tooLong)
      rw [rejected] at written
      cases written

/-- Encrypting for a peer does not fail if the payload fits. -/
theorem encryptForPeer_isOk
    (limits : NoiseLimits snow)
    (state : SessionState snow)
    (peerName : PeerName)
    (msgType : Auth.MsgType)
    {payload : Bytes}
    (fits : payload.length + 1 + aeadTagSize ≤ maxNoiseMessageSize)
    (now : Instant) :
    ∃ frame,
      (state.encryptForPeer peerName msgType payload now).1 = .ok frame := by
  obtain ⟨_, _, _, _, outcome⟩ :=
    state.encryptForPeer_execution peerName msgType payload now
  rcases outcome with ⟨_, _, noFrame⟩ | ⟨session, _, unexpired, _, sealed⟩
  · exact ⟨none, noFrame⟩
  · have unexhausted : session.sendCounter ≠ u64Max := by
      intro exhausted
      simp [Session.isExpired, exhausted] at unexpired
    obtain ⟨frame, encrypted, _⟩ := limits.encrypts msgType unexhausted fits
    rw [encrypted] at sealed
    exact ⟨some frame, sealed⟩

end NoiseLimits

namespace PlainNoise

theorem limits : NoiseLimits PlainNoise.snow where
  writesMessage := by
    intro transport nonce payload _ fits
    have written :
        writeMessage transport nonce payload (payload.length + aeadTagSize) =
          .ok (payload ++ tag transport nonce) :=
      if_pos ⟨le_refl _, fits⟩
    exact ⟨_, written, by simp⟩
  rejectsMessage := by
    intro transport nonce payload tooLong
    have rejected :
        writeMessage transport nonce payload (payload.length + aeadTagSize) =
          .error .input :=
      if_neg fun fits => absurd fits.2 (Nat.not_le.mpr tooLong)
    exact ⟨_, rejected⟩

theorem startsHandshakes : PlainNoise.snow.StartsHandshakes := by
  intro localStatic remoteStaticPub psk draw
  cases started : initiatorStart localStatic remoteStaticPub psk draw with
  | ok handshake =>
      exact ⟨handshake, rfl⟩
  | error error =>
      have short :
          localStatic.bytes.length +
                (binding remoteStaticPub psk
                  (Auth.handshakePrologue draw.id)).length +
              1 ≤
            maxNoiseMessageSize := by
        simp [binding, localStatic.size, remoteStaticPub.size, psk.size,
          Auth.handshakePrologue, draw.id.size]
        decide
      simp [initiatorStart, initiatorStartWithId, PlainNoise.snow, fromSnow,
        buildInitiator, writeHandshake, bind, Except.bind, short, pure,
        Except.pure] at started

end PlainNoise

end HushWire
