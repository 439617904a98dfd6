import HushWire.Noise

namespace HushWire

open Noise

/-!
# A transparent stand-in for the Noise layer

`PlainNoise.snow` is a `Snow` without cryptography on which the model can be
evaluated.  Handshake messages spell out the keys, the pre-shared key and the
prologue they are bound to, a response repeats the message it answers, and an
authentication tag names its sender, the key pair and the nonce.  Sizes and
size limits are those of the real messages' transport part.
-/

namespace PlainNoise

inductive Error where
  | input
  | state
  | decrypt
  deriving Repr, DecidableEq

structure Handshake where
  isInitiator : Bool
  localStatic : Key
  remoteStatic : Option Key
  psk : Key
  prologue : Bytes
  initiatorEphemeral : Option UInt8
  responderEphemeral : Option UInt8
  request : Bytes
  deriving DecidableEq

structure Transport where
  isInitiator : Bool
  initiatorEphemeral : UInt8
  responderEphemeral : UInt8
  deriving DecidableEq

/-- The other end of a transport. -/
def Transport.flip (transport : Transport) : Transport :=
  { transport with isInitiator := !transport.isInitiator }

@[simp] theorem Transport.flip_flip (transport : Transport) :
    transport.flip.flip = transport := by
  simp [Transport.flip]

def buildInitiator
    (localPrivateKey remotePublicKey psk : Key)
    (prologue : Bytes) :
    Except Error Handshake :=
  .ok
    { isInitiator := true
      localStatic := localPrivateKey
      remoteStatic := some remotePublicKey
      psk
      prologue
      initiatorEphemeral := none
      responderEphemeral := none
      request := [] }

def buildResponder
    (localPrivateKey psk : Key)
    (prologue : Bytes) :
    Except Error Handshake :=
  .ok
    { isInitiator := false
      localStatic := localPrivateKey
      remoteStatic := none
      psk
      prologue
      initiatorEphemeral := none
      responderEphemeral := none
      request := [] }

/-- What the first message is bound to besides the two ends' keys. -/
def binding (responder psk : Key) (prologue : Bytes) : Bytes :=
  responder.bytes ++ psk.bytes ++ prologue

def writeHandshake
    (state : Handshake)
    (ephemeral : UInt8)
    (payload : Bytes)
    (capacity : Nat) :
    Except Error (Bytes × Handshake) :=
  if state.isInitiator then
    match state.remoteStatic with
    | none => .error .state
    | some remoteStatic =>
        let message :=
          [ephemeral] ++ state.localStatic.bytes ++
            binding remoteStatic state.psk state.prologue ++ payload
        if message.length ≤ capacity then
          .ok (message,
            { state with
              initiatorEphemeral := some ephemeral
              request := message })
        else
          .error .input
  else if state.initiatorEphemeral.isNone then
    .error .state
  else
    let message := [ephemeral] ++ state.request ++ payload
    if message.length ≤ capacity then
      .ok (message, { state with responderEphemeral := some ephemeral })
    else
      .error .input

def readHandshake
    (state : Handshake)
    (message : Bytes)
    (capacity : Nat) :
    Except Error (Bytes × Handshake) :=
  match message with
  | [] => .error .input
  | ephemeral :: rest =>
      if state.isInitiator then
        let payload := rest.drop state.request.length
        if state.request.isPrefixOf rest ∧ payload.length ≤ capacity then
          .ok (payload, { state with responderEphemeral := some ephemeral })
        else
          .error .decrypt
      else
        let bound := binding state.localStatic state.psk state.prologue
        let payload := (rest.drop 32).drop bound.length
        if bound.isPrefixOf (rest.drop 32) ∧ payload.length ≤ capacity then
          .ok (payload,
            { state with
              remoteStatic := Key.ofBytes? (rest.take 32)
              initiatorEphemeral := some ephemeral
              request := message })
        else
          .error .decrypt

def intoStatelessTransportMode (state : Handshake) :
    Except Error Transport :=
  match state.initiatorEphemeral, state.responderEphemeral with
  | some initiatorEphemeral, some responderEphemeral =>
      .ok
        { isInitiator := state.isInitiator
          initiatorEphemeral
          responderEphemeral }
  | _, _ => .error .state

/-- Sixteen bytes that name the sender, the key pair and the nonce. -/
def tag (sender : Transport) (nonce : UInt64) : Bytes :=
  [if sender.isInitiator then 1 else 0, sender.initiatorEphemeral,
    sender.responderEphemeral] ++ Auth.toBeBytes nonce ++ [0, 0, 0, 0, 0]

def writeMessage
    (transport : Transport)
    (nonce : UInt64)
    (payload : Bytes)
    (capacity : Nat) :
    Except Error Bytes :=
  if payload.length + aeadTagSize ≤ capacity ∧
      payload.length + aeadTagSize ≤ maxNoiseMessageSize then
    .ok (payload ++ tag transport nonce)
  else
    .error .input

def readMessage
    (transport : Transport)
    (nonce : UInt64)
    (message : Bytes)
    (capacity : Nat) :
    Except Error Bytes :=
  let size := message.length - aeadTagSize
  if message.drop size = tag transport.flip nonce ∧ size ≤ capacity then
    .ok (message.take size)
  else
    .error .decrypt

/-- The stand-in as a `Snow`. -/
abbrev snow : Snow where
  Error := Error
  HandshakeState := Handshake
  StatelessTransportState := Transport
  Ephemeral := UInt8
  publicKey := id
  buildInitiator := buildInitiator
  buildResponder := buildResponder
  writeHandshake := writeHandshake
  readHandshake := readHandshake
  getRemoteStatic := Handshake.remoteStatic
  intoStatelessTransportMode := intoStatelessTransportMode
  writeMessage := writeMessage
  readMessage := readMessage

@[simp] theorem length_tag (sender : Transport) (nonce : UInt64) :
    (tag sender nonce).length = aeadTagSize :=
  rfl

/-- A tag determines its sender, its key pair and its nonce. -/
theorem tag_inj
    {first second : Transport}
    {firstNonce secondNonce : UInt64}
    (same : tag first firstNonce = tag second secondNonce) :
    first = second ∧ firstNonce = secondNonce := by
  obtain ⟨firstRole, firstInitiator, firstResponder⟩ := first
  obtain ⟨secondRole, secondInitiator, secondResponder⟩ := second
  simp only [tag, List.cons_append, List.nil_append, List.cons.injEq,
    List.append_cancel_right_eq] at same
  obtain ⟨sameRole, rfl, rfl, sameNonce⟩ := same
  have nonceEq := congrArg Auth.fromBeBytes sameNonce
  rw [Auth.fromBeBytes_toBeBytes, Auth.fromBeBytes_toBeBytes] at nonceEq
  cases firstRole <;> cases secondRole <;> simp_all

/-- What one end writes the other end reads, at the same nonce. -/
theorem readMessage_writeMessage
    {transport : Transport}
    {nonce : UInt64}
    {payload ciphertext : Bytes}
    {capacity : Nat}
    (written :
      writeMessage transport nonce payload capacity = .ok ciphertext) :
    ciphertext.length = payload.length + aeadTagSize ∧
      readMessage transport.flip nonce ciphertext
          (ciphertext.length - aeadTagSize) =
        .ok payload := by
  unfold writeMessage at written
  split at written
  case isFalse => cases written
  case isTrue =>
    cases written
    simp [readMessage]

/-- A ciphertext opens at the other end, at its nonce, as its payload. -/
theorem writeMessage_of_readMessage
    {transport : Transport}
    {nonce : UInt64}
    {ciphertext plaintext : Bytes}
    {capacity : Nat}
    (opened :
      readMessage transport nonce ciphertext capacity = .ok plaintext) :
    ciphertext = plaintext ++ tag transport.flip nonce := by
  simp only [readMessage] at opened
  split at opened
  case isFalse => cases opened
  case isTrue matched =>
    cases opened
    rw [← matched.1]
    exact (List.take_append_drop _ _).symm

/-- Encryption succeeds exactly when the message fits one Noise message. -/
theorem encrypt_isOk
    {session : Session snow}
    (unexhausted : session.sendCounter ≠ u64Max)
    (msgType : Auth.MsgType)
    (payload : Bytes) :
    (∃ frame, (session.encrypt msgType payload).1 = .ok frame) ↔
      payload.length + 1 + aeadTagSize ≤ maxNoiseMessageSize := by
  have size :
      (Auth.encodeTransportPlaintext msgType payload).length =
        payload.length + 1 := by
    simp [Auth.encodeTransportPlaintext]
  unfold Session.encrypt
  simp only [checkedSucc, unexhausted, ↓reduceIte, writeMessage, size,
    le_refl, true_and]
  by_cases fits : payload.length + 1 + aeadTagSize ≤ maxNoiseMessageSize
  · simp [fits]
  · simp [fits]

end PlainNoise

end HushWire
