import HushWire.PlainNoise

namespace HushWire

open Noise

/-!
# Ideal Noise

What two honest ends rely on.  A completed handshake binds both ends to the
same identifier, the same first message, the same session identifier and
opposite ends of one transport.  A ciphertext opens only at the other end of
the transport that wrote it, at its own nonce and as its own plaintext.
-/

/-- The two ends of a transport and what verification tells about them. -/
structure IdealNoise (snow : Snow) where
  /-- The transport state of the other end. -/
  flip : snow.StatelessTransportState → snow.StatelessTransportState
  /-- Which of the two ends started the handshake. -/
  isInitiator : snow.StatelessTransportState → Bool
  flip_flip : ∀ transport, flip (flip transport) = transport
  isInitiator_flip :
    ∀ transport, isInitiator (flip transport) = !isInitiator transport
  /-- Answering a handshake makes an end its responder. -/
  isInitiator_respond :
    ∀ {localStatic remoteStatic psk handshakeId request draw clock answer},
      responderRespond localStatic remoteStatic psk handshakeId request draw
          clock = .ok answer →
      isInitiator answer.session.transport = false
  /-- A response completes only the handshake that it answers. -/
  response_binds :
    ∀ {localStatic remoteStaticPub psk draw handshake
        responderStatic expectedStatic responderPsk handshakeId request
        responderDraw responderClock answer clock session},
      initiatorStart localStatic remoteStaticPub psk draw = .ok handshake →
      responderRespond responderStatic expectedStatic responderPsk handshakeId
          request responderDraw responderClock = .ok answer →
      initiatorFinalize handshake.state answer.message clock = .ok session →
      handshakeId = handshake.handshakeId ∧
        request = handshake.message ∧
        session.sessionId = answer.session.sessionId ∧
        session.transport = flip answer.session.transport
  /-- A ciphertext opens only at the other end and as it was written. -/
  message_binds :
    ∀ {writer nonce payload capacity ciphertext reader readNonce
        readCapacity plaintext},
      snow.writeMessage writer nonce payload capacity = .ok ciphertext →
      snow.readMessage reader readNonce ciphertext readCapacity =
        .ok plaintext →
      reader = flip writer ∧ readNonce = nonce ∧ plaintext = payload
  /-- What one end writes the other end reads. -/
  message_opens :
    ∀ {writer nonce payload capacity ciphertext},
      snow.writeMessage writer nonce payload capacity = .ok ciphertext →
      ciphertext.length = payload.length + aeadTagSize ∧
        snow.readMessage (flip writer) nonce ciphertext
            (ciphertext.length - aeadTagSize) =
          .ok payload

namespace PlainNoise

/-- The first message that a draw leads to. -/
def request
    (localStatic remoteStatic psk : Key)
    (draw : Draw snow) :
    Bytes :=
  [draw.ephemeral] ++ localStatic.bytes ++
    binding remoteStatic psk (Auth.handshakePrologue draw.id)

@[simp] theorem length_request
    (localStatic remoteStatic psk : Key)
    (draw : Draw snow) :
    (request localStatic remoteStatic psk draw).length = 127 := by
  simp [request, binding, Auth.handshakePrologue, localStatic.size,
    remoteStatic.size, psk.size, draw.id.size, Auth.sessionIdSize,
    Auth.handshakeProloguePrefix]

/-- Starting a handshake writes the request and remembers it. -/
theorem initiatorStart_request
    {localStatic remoteStatic psk : Key}
    {draw : Draw snow}
    {handshake : InitiatorHandshake snow}
    (started :
      initiatorStart localStatic remoteStatic psk draw = .ok handshake) :
    handshake.handshakeId = draw.id ∧
      handshake.message = request localStatic remoteStatic psk draw ∧
      handshake.state.state.isInitiator = true ∧
      handshake.state.state.request = handshake.message ∧
      handshake.state.state.initiatorEphemeral = some draw.ephemeral := by
  obtain ⟨fresh, message, state, built, written, rfl⟩ :=
    initiatorStart_ok started
  cases built
  have fits :
      ([draw.ephemeral] ++ localStatic.bytes ++
          binding remoteStatic psk (Auth.handshakePrologue draw.id) ++
          []).length ≤ maxNoiseMessageSize := by
    rw [List.append_nil]
    exact (length_request localStatic remoteStatic psk draw).le.trans
      (by decide)
  simp only [writeHandshake, ↓reduceIte, fits, Except.ok.injEq,
    Prod.mk.injEq] at written
  obtain ⟨rfl, rfl⟩ := written
  simp [request]

/-- The bytes of a request determine its key pair and its identifier. -/
theorem request_binds
    {localStatic remoteStatic psk responderStatic responderPsk : Key}
    {draw : Draw snow}
    {handshakeId : SessionId}
    {ephemeral : UInt8}
    {rest : Bytes}
    (shape :
      ephemeral :: rest = request localStatic remoteStatic psk draw)
    (bound :
      rest.drop 32 =
        binding responderStatic responderPsk
          (Auth.handshakePrologue handshakeId)) :
    ephemeral = draw.ephemeral ∧ handshakeId = draw.id := by
  simp only [request, List.cons_append, List.nil_append,
    List.cons.injEq] at shape
  obtain ⟨rfl, rfl⟩ := shape
  rw [List.drop_left' localStatic.size, binding, binding] at bound
  obtain ⟨_, samePrologue⟩ :=
    List.append_inj bound (by simp [Key.size])
  exact ⟨rfl, (Auth.handshakePrologue_inj samePrologue).symm⟩

/-- An answered request is bound to the responder and carries no payload. -/
theorem responderRespond_request
    {localStatic remoteStatic psk : Key}
    {handshakeId : SessionId}
    {message : Bytes}
    {draw : Draw snow}
    {clock : Instant}
    {answer : ResponderHandshake snow}
    (answered :
      responderRespond localStatic remoteStatic psk handshakeId message draw
        clock = .ok answer) :
    ∃ ephemeral rest,
      message = ephemeral :: rest ∧
        rest.drop 32 =
          binding localStatic psk (Auth.handshakePrologue handshakeId) ∧
        answer.message = [draw.ephemeral] ++ message ++ draw.id.bytes ∧
        answer.session =
          @Session.new snow draw.id
            { isInitiator := false
              initiatorEphemeral := ephemeral
              responderEphemeral := draw.ephemeral } clock := by
  obtain ⟨fresh, opened, final, response, transport, built, read, _, written,
    split, rfl⟩ := responderRespond_ok answered
  cases built
  cases message with
  | nil =>
      cases read
  | cons ephemeral rest =>
      refine ⟨ephemeral, rest, rfl, ?_⟩
      simp only [readHandshake, Bool.false_eq_true, ↓reduceIte] at read
      split at read
      case isFalse =>
        cases read
      case isTrue matched =>
        simp only [Except.ok.injEq, Prod.mk.injEq,
          List.drop_eq_nil_iff] at read
        obtain ⟨noPayload, rfl⟩ := read
        have bound :=
          (List.isPrefixOf_iff_prefix.mp matched.1).eq_of_length_le noPayload
        simp only [writeHandshake, Bool.false_eq_true, ↓reduceIte,
          Option.isNone_some] at written
        split at written
        case isFalse =>
          cases written
        case isTrue =>
          cases written
          cases split
          exact ⟨bound.symm, rfl, rfl⟩

/-- A completed handshake took its response after its own request. -/
theorem initiatorFinalize_request
    {initiator : InitiatorState snow}
    {response : Bytes}
    {clock : Instant}
    {session : Session snow}
    {ephemeral : UInt8}
    (role : initiator.state.isInitiator = true)
    (drawn : initiator.state.initiatorEphemeral = some ephemeral)
    (completed : initiatorFinalize initiator response clock = .ok session) :
    ∃ responderEphemeral,
      response =
          [responderEphemeral] ++ initiator.state.request ++
            session.sessionId.bytes ∧
        session.transport =
          ({ isInitiator := true
             initiatorEphemeral := ephemeral
             responderEphemeral } : Transport) := by
  obtain ⟨payload, state, sessionId, transport, read, named, split, rfl⟩ :=
    initiatorFinalize_ok completed
  cases response with
  | nil =>
      cases read
  | cons responderEphemeral rest =>
      refine ⟨responderEphemeral, ?_⟩
      simp only [readHandshake, role, ↓reduceIte] at read
      split at read
      case isFalse =>
        cases read
      case isTrue matched =>
        simp only [Except.ok.injEq, Prod.mk.injEq] at read
        obtain ⟨rfl, rfl⟩ := read
        obtain ⟨payload, rfl⟩ := List.isPrefixOf_iff_prefix.mp matched.1
        simp only [List.drop_left] at named
        have sameBytes : sessionId.bytes = payload := by
          unfold SessionId.ofBytes? at named
          split at named
          · cases named
            rfl
          · cases named
        simp only [intoStatelessTransportMode, drawn,
          Except.ok.injEq] at split
        subst split
        exact ⟨by simp [Session.new, sameBytes], rfl⟩

/-- The stand-in is ideal. -/
def ideal : IdealNoise snow where
  flip := Transport.flip
  isInitiator := Transport.isInitiator
  flip_flip := Transport.flip_flip
  isInitiator_flip _ := rfl
  isInitiator_respond answered := by
    obtain ⟨ephemeral, rest, _, _, _, session⟩ :=
      responderRespond_request answered
    rw [session]
    rfl
  response_binds started answered completed := by
    obtain ⟨drawnId, message, role, remembered, ephemeral⟩ :=
      initiatorStart_request started
    obtain ⟨initiatorEphemeral, rest, requestShape, bound, response, session⟩ :=
      responderRespond_request answered
    obtain ⟨responderEphemeral, responseShape, transport⟩ :=
      initiatorFinalize_request role ephemeral completed
    rw [response, remembered] at responseShape
    obtain ⟨front, sameBytes⟩ :=
      List.append_inj' responseShape
        (SessionId.size _ |>.trans (SessionId.size _).symm)
    simp only [List.cons_append, List.nil_append, List.cons.injEq] at front
    obtain ⟨sameResponder, sameRequest⟩ := front
    obtain ⟨sameEphemeral, sameId⟩ :=
      request_binds (sameRequest.symm.trans requestShape ▸ message) bound
    refine ⟨sameId.trans drawnId.symm, sameRequest, ?_, ?_⟩
    · rw [session]
      exact SessionId.ext sameBytes.symm
    · rw [session, transport]
      simp [Session.new, Transport.flip, sameEphemeral, sameResponder]
  message_binds written opened := by
    have shape := writeMessage_of_readMessage opened
    simp only [writeMessage] at written
    split at written
    case isFalse =>
      cases written
    case isTrue =>
      cases written
      obtain ⟨samePayload, sameTag⟩ := List.append_inj' shape rfl
      obtain ⟨sameWriter, sameNonce⟩ := tag_inj sameTag
      exact ⟨by simp [sameWriter], sameNonce.symm, samePayload.symm⟩
  message_opens written := readMessage_writeMessage written

end PlainNoise

end HushWire
