import HushWire.FlowDelivery

namespace HushWire.PacketTunnel

/-!
# The answers to the senders

Every call of `send` is answered at most once, and once the queue is empty and
no flow owes an answer every call was.  What is sent is sent in the order of
the calls, each frame on a flow of its own endpoint.
-/

namespace NetworkTransport

variable
  {foundation : Foundation}
  {transport before after : NetworkTransport}
  {flow : FlowId}

/-- The frame and the endpoint of a call of `send`. -/
def Event.sent? : Event → Option (Bytes × Endpoint)
  | .send frame endpoint => some (frame, endpoint)
  | _ => none

/-- The calls of `send`, in order. -/
def sends (events : List Event) : List (Bytes × Endpoint) :=
  events.filterMap Event.sent?

def Output.answer? : Output → Option (SendId × Bool)
  | .completion id accepted => some (id, accepted)
  | _ => none

/-- The answers to calls of `send`. -/
def answers (events : List Event) : List (SendId × Bool) :=
  (events.flatMap Event.outputs).filterMap Output.answer?

/-- What an output sends, and for which call. -/
def Output.transmission? : Output → Option (FlowId × SendId × Bytes)
  | .transmit flow id content => some (flow, id, content)
  | _ => none

/-- What was sent on the flows, in order. -/
def transmissions (events : List Event) : List (FlowId × SendId × Bytes) :=
  (events.flatMap Event.outputs).filterMap Output.transmission?

/-- A numbered call in a block of the queue. -/
def Item.sent? : Item → Option ((Bytes × Endpoint) × SendId)
  | .send id frame endpoint => some ((frame, endpoint), id)
  | _ => none

/-- The call that a block answers. -/
def Item.sendId? : Item → Option SendId
  | .send id _ _ => some id
  | .contentProcessed _ id _ => some id
  | _ => none

/-- How a frame is written on a flow. -/
def onWire (mode : TransportKind) (frame : Bytes) : Bytes :=
  match mode with
  | .tcp => tcpFrame frame
  | .udp => frame

/-- The endpoint of a flow. -/
def endpointOf
    (transport : NetworkTransport)
    (flow : FlowId) :
    Option Endpoint :=
  transport.stored[flow]?.map Prod.fst

theorem remove_sending :
    (transport.remove flow).sending = transport.sending := by
  unfold remove
  split <;> rfl

theorem receiveNext_sending :
    (transport.receiveNext flow).sending = transport.sending := by
  unfold receiveNext
  split <;> rfl

theorem connectionFor_sending (endpoint : Endpoint) :
    (transport.connectionFor endpoint).2.sending = transport.sending := by
  unfold connectionFor
  split
  · rfl
  · exact receiveNext_sending

/-- What a block does about the calls of `send`. -/
inductive Sent
    (before : NetworkTransport)
    (item : Item)
    (outputs : List Output)
    (after : NetworkTransport) :
    Prop where
  /-- The block is about no call. -/
  | unrelated :
      item.sendId? = none →
      outputs.filterMap Output.answer? = [] →
      outputs.filterMap Output.transmission? = [] →
      after.sending = before.sending →
      Sent before item outputs after
  | answered
      {id : SendId}
      {accepted : Bool} :
      item.sendId? = some id →
      (accepted = true →
        ∃ flow error, item = .contentProcessed flow id error) →
      outputs.filterMap Output.answer? = [(id, accepted)] →
      outputs.filterMap Output.transmission? = [] →
      after.sending = before.sending →
      Sent before item outputs after
  | transmitted
      {id : SendId}
      {frame : Bytes}
      {endpoint : Endpoint} :
      item = .send id frame endpoint →
      outputs =
        [.transmit (before.connectionFor endpoint).1 id
          (onWire before.mode frame)] →
      after =
        { (before.connectionFor endpoint).2 with
          sending :=
            before.sending ++ [((before.connectionFor endpoint).1, id)] } →
      Sent before item outputs after

theorem run_sent (item : Item) :
    Sent transport item (transport.run foundation item).1
      (transport.run foundation item).2 := by
  cases item with
  | send id frame endpoint =>
      rw [run]
      unfold runSend
      split
      · exact .answered rfl (fun isTrue => by cases isTrue) rfl rfl rfl
      · split
        · exact .answered rfl (fun isTrue => by cases isTrue) rfl rfl rfl
        · split
          · exact .answered rfl (fun isTrue => by cases isTrue) rfl rfl rfl
          · refine .transmitted rfl ?_ ?_
            · exact
                congrArg
                  (fun mode =>
                    [Output.transmit (transport.connectionFor endpoint).1 id
                      (onWire mode frame)])
                  (connectionFor_framed endpoint).mode
            · dsimp only
              rw [connectionFor_sending]
  | received flow content isComplete error =>
      have silent (state : Flow) (frames : List Bytes) (message : String) :
          (frames.map (Output.frame flow state.endpoint) ++
              [Output.event message]).filterMap Output.answer? = [] ∧
            (frames.map (Output.frame flow state.endpoint) ++
              [Output.event message]).filterMap Output.transmission? = [] := by
        simp [List.filterMap_map, Output.answer?, Output.transmission?,
          Function.comp_def]
      rw [run]
      unfold runReceived
      split
      next state running isCurrent =>
        cases error with
        | some error =>
            exact .unrelated rfl (silent _ _ _).1 (silent _ _ _).2
              remove_sending
        | none =>
            dsimp only
            split
            · exact .unrelated rfl (silent _ _ _).1 (silent _ _ _).2
                remove_sending
            · refine .unrelated rfl ?_ ?_ receiveNext_sending <;>
                simp [List.filterMap_map, Output.answer?,
                  Output.transmission?, Function.comp_def]
      · exact .unrelated rfl rfl rfl rfl
  | rebindUDP | reset | stop =>
      rw [run]
      split <;> exact .unrelated rfl rfl rfl rfl
  | contentProcessed flow id error =>
      rw [run]
      unfold runContentProcessed
      split
      · exact .answered rfl (fun _ => ⟨_, _, rfl⟩) rfl rfl remove_sending
      · exact .answered rfl (fun _ => ⟨_, _, rfl⟩) rfl rfl rfl
  | stateUpdate flow update =>
      rw [run]
      unfold runStateUpdate
      split
      · exact .unrelated rfl rfl rfl remove_sending
      · exact .unrelated rfl rfl rfl rfl
      · exact .unrelated rfl rfl rfl remove_sending
      · exact .unrelated rfl rfl rfl rfl

section Answering

/-- What holds of the calls of `send` and their answers. -/
structure Answering
    (events : List Event)
    (transport : NetworkTransport) :
    Prop where
  kept : Kept transport
  sendCount : transport.sendCount = (sends events).length
  /-- A call waits, is out, or was answered, and only one of these. -/
  counted :
    ∀ id,
      (answers events).countP (fun answer => answer.1 = id) +
          transport.sending.countP (fun entry => entry.2 = id) +
          transport.queue.countP (fun item => item.sendId? = some id) =
        if id < transport.sendCount then 1 else 0
  /-- What was sent are some of the calls whose blocks were run. -/
  inOrder :
    ∃ made,
      (sends events).zipIdx = made ++ transport.queue.filterMap Item.sent? ∧
        ((transmissions events).map fun sent =>
            (transport.endpointOf sent.1, sent.2)).Sublist
          (made.map fun call =>
            (some call.1.2, call.2, onWire transport.mode call.1.1))
  sending :
    ∀ flow id,
      (flow, id) ∈ transport.sending →
      ∃ content, (flow, id, content) ∈ transmissions events
  processed :
    ∀ flow id error,
      .contentProcessed flow id error ∈ transport.queue →
      ∃ content, (flow, id, content) ∈ transmissions events
  accepted :
    ∀ id,
      (id, true) ∈ answers events →
      ∃ flow content, (flow, id, content) ∈ transmissions events

theorem answers_snoc (events : List Event) (event : Event) :
    answers (events ++ [event]) =
      answers events ++ event.outputs.filterMap Output.answer? := by
  rw [answers, List.flatMap_append, List.filterMap_append,
    List.flatMap_singleton]
  rfl

theorem transmissions_snoc (events : List Event) (event : Event) :
    transmissions (events ++ [event]) =
      transmissions events ++
        event.outputs.filterMap Output.transmission? := by
  rw [transmissions, List.flatMap_append, List.filterMap_append,
    List.flatMap_singleton]
  rfl

theorem sends_snoc (events : List Event) (event : Event) :
    sends (events ++ [event]) = sends events ++ event.sent?.toList := by
  rw [sends, List.filterMap_append, List.filterMap_cons]
  cases event.sent? <;> rfl

/-- The endpoint of a flow never changes. -/
theorem run_endpointOf
    {endpoint : Endpoint}
    (item : Item)
    (isOpen : transport.endpointOf flow = some endpoint) :
    (transport.run foundation item).2.endpointOf flow = some endpoint := by
  have sameEndpoints :
      (transport.storedAfter item).map Prod.fst =
        transport.stored.map Prod.fst := by
    unfold storedAfter
    split
    · rfl
    next other state content isTaken =>
      have follows := @map_modify (Endpoint × Bytes) Endpoint Prod.fst
        (fun entry =>
          (entry.1, (deliver transport.mode state.tcpReadBuffer content).2))
        id fun _ => rfl
      exact (follows transport.stored other).trans (List.modify_id _ _)
  have wasOpen :
      ((transport.storedAfter item).map Prod.fst)[flow]? = some endpoint := by
    rw [sameEndpoints, List.getElem?_map]
    exact isOpen
  rw [endpointOf, ← List.getElem?_map]
  rcases @run_stored foundation transport item with same | ⟨opened, isStarted⟩
  · rw [same]
    exact wasOpen
  · have isListed := (List.getElem?_eq_some_iff.mp wasOpen).1
    rw [isStarted, List.map_append, List.getElem?_append_left isListed]
    exact wasOpen

/-- The flow that a sender gets is one to its endpoint. -/
theorem connectionFor_endpointOf
    (sound : transport.table.Sound)
    (endpoint : Endpoint) :
    (transport.connectionFor endpoint).2.endpointOf
        (transport.connectionFor endpoint).1 =
      some endpoint := by
  cases isCurrent : transport.connections.lookup endpoint with
  | some existing =>
      have isStarted := sound.stored isCurrent
      rw [table, List.getElem?_map, Option.map_eq_some_iff] at isStarted
      obtain ⟨state, isListed, isIdentity⟩ := isStarted
      unfold connectionFor
      rw [isCurrent]
      dsimp only
      rw [endpointOf, stored, List.getElem?_map, isListed]
      exact congrArg (fun entry => some (Prod.fst entry)) isIdentity
  | none =>
      unfold connectionFor
      rw [isCurrent]
      dsimp only
      rw [endpointOf, stored_receiveNext, stored, List.map_append,
        List.getElem?_append_right (by simp)]
      simp [entry]

/-- Earlier transmissions keep their endpoints. -/
theorem map_endpointOf
    {sent : List (FlowId × SendId × Bytes)}
    {calls : List (Option Endpoint × SendId × Bytes)}
    (isSent :
      (sent.map fun entry =>
        (before.endpointOf entry.1, entry.2)).Sublist calls)
    (isOpen : ∀ call ∈ calls, call.1.isSome)
    (keeps :
      ∀ flow endpoint,
        before.endpointOf flow = some endpoint →
        after.endpointOf flow = some endpoint) :
    (sent.map fun entry => (after.endpointOf entry.1, entry.2)) =
      sent.map fun entry => (before.endpointOf entry.1, entry.2) := by
  refine List.map_congr_left fun entry member => ?_
  have isCall := isSent.subset (List.mem_map_of_mem member)
  obtain ⟨endpoint, isEndpoint⟩ :=
    Option.isSome_iff_exists.mp (isOpen _ isCall)
  rw [keeps _ _ isEndpoint]
  exact congrArg (fun found => (found, entry.2)) isEndpoint.symm

/-- A block about a call counts for that call only. -/
theorem countP_sendId
    {item : Item}
    {call : SendId}
    (isCall : item.sendId? = some call)
    (items : List Item)
    (id : SendId) :
    (items ++ [item]).countP (fun item => item.sendId? = some id) =
      items.countP (fun item => item.sendId? = some id) +
        if call = id then 1 else 0 := by
  rw [List.countP_append, List.countP_singleton, isCall]
  simp only [Option.some.injEq, decide_eq_true_eq]

theorem Answering.new (mode : TransportKind) :
    Answering [] (.new mode) where
  kept := .new mode
  sendCount := rfl
  counted := fun _ => rfl
  inOrder := ⟨[], rfl, .slnil⟩
  sending := fun _ _ member => absurd member List.not_mem_nil
  processed := fun _ _ _ member => absurd member List.not_mem_nil
  accepted := fun _ member => absurd member List.not_mem_nil

/-- Blocks that are about no call are put behind the queue. -/
theorem Answering.enqueued
    {events : List Event}
    {event : Event}
    (answering : Answering events before)
    (kept : Kept after)
    (items : List Item)
    (isEnqueued :
      after.queue = before.queue ++ items ∧
        after.mode = before.mode ∧
        after.sending = before.sending ∧
        after.sendCount = before.sendCount)
    (sameStored : after.stored = before.stored)
    (unrelated : ∀ item ∈ items, item.sendId? = none)
    (silent : event.sent? = none ∧ event.outputs = []) :
    Answering (events ++ [event]) after := by
  obtain ⟨isQueue, sameMode, sameSending, sameCount⟩ := isEnqueued
  have sameAnswers : answers (events ++ [event]) = answers events := by
    rw [answers_snoc, silent.2]
    exact List.append_nil _
  have sameSent : transmissions (events ++ [event]) = transmissions events := by
    rw [transmissions_snoc, silent.2]
    exact List.append_nil _
  have sameCalls : sends (events ++ [event]) = sends events := by
    rw [sends_snoc, silent.1]
    exact List.append_nil _
  have noCall : items.filterMap Item.sent? = [] := by
    refine List.filterMap_eq_nil_iff.mpr fun item member => ?_
    have isUnrelated := unrelated item member
    cases item with
    | send =>
        cases isUnrelated
    | _ =>
        rfl
  have sameEndpoint (flow : FlowId) :
      after.endpointOf flow = before.endpointOf flow := by
    rw [endpointOf, endpointOf, sameStored]
  refine ⟨kept, ?_, ?_, ?_, ?_, ?_, ?_⟩
  · rw [sameCount, sameCalls, answering.sendCount]
  · intro id
    have noneCounted :
        items.countP (fun item => item.sendId? = some id) = 0 := by
      refine List.countP_eq_zero.mpr fun item member isCounted => ?_
      rw [unrelated item member] at isCounted
      simp at isCounted
    rw [sameAnswers, sameSending, sameCount, isQueue, List.countP_append,
      noneCounted]
    exact answering.counted id
  · obtain ⟨made, isMade, isSent⟩ := answering.inOrder
    refine ⟨made, ?_, ?_⟩
    · rw [sameCalls, isQueue, List.filterMap_append, noCall,
        List.append_nil]
      exact isMade
    · simp only [sameSent, sameEndpoint, sameMode]
      exact isSent
  · rw [sameSent, sameSending]
    exact answering.sending
  · intro flow id error member
    rw [isQueue, List.mem_append] at member
    rw [sameSent]
    rcases member with waited | isNew
    · exact answering.processed flow id error waited
    · have isUnrelated := unrelated _ isNew
      cases isUnrelated
  · rw [sameAnswers, sameSent]
    exact answering.accepted

/-- A call of `send` waits behind the queue. -/
theorem Answering.send
    {events : List Event}
    (answering : Answering events before)
    (kept : Kept after)
    (frame : Bytes)
    (endpoint : Endpoint)
    (isCall :
      after =
        { before.enqueue (.send before.sendCount frame endpoint) with
          sendCount := before.sendCount + 1 }) :
    Answering (events ++ [.send frame endpoint]) after := by
  subst isCall
  have sameAnswers :
      answers (events ++ [.send frame endpoint]) = answers events := by
    rw [answers_snoc]
    exact List.append_nil _
  have sameSent :
      transmissions (events ++ [.send frame endpoint]) =
        transmissions events := by
    rw [transmissions_snoc]
    exact List.append_nil _
  have isLast :
      sends (events ++ [.send frame endpoint]) =
        sends events ++ [(frame, endpoint)] :=
    sends_snoc events _
  refine ⟨kept, ?_, ?_, ?_, ?_, ?_, ?_⟩
  · rw [isLast, List.length_append, ← answering.sendCount]
    rfl
  · intro id
    have counted := answering.counted id
    have isCounted :=
      @countP_sendId (.send before.sendCount frame endpoint) _ rfl before.queue
        id
    rw [sameAnswers]
    change _ + _ + (before.queue ++ [_]).countP _ =
      if id < before.sendCount + 1 then 1 else 0
    rw [isCounted]
    change _ + before.sending.countP _ + _ = _
    rcases Nat.lt_trichotomy id before.sendCount with
      isOld | rfl | isLate
    · rw [if_pos isOld] at counted
      rw [if_neg (Nat.ne_of_gt isOld), if_pos (Nat.lt_succ_of_lt isOld)]
      exact counted
    · rw [if_neg (Nat.lt_irrefl _)] at counted
      rw [if_pos rfl, if_pos (Nat.lt_succ_self _)]
      omega
    · rw [if_neg (Nat.lt_asymm isLate)] at counted
      rw [if_neg (Nat.ne_of_lt isLate), if_neg (Nat.not_lt.mpr isLate)]
      exact counted
  · obtain ⟨made, isMade, isSent⟩ := answering.inOrder
    refine ⟨made, ?_, ?_⟩
    · rw [isLast, List.zipIdx_append, isMade, Nat.zero_add,
        ← answering.sendCount, enqueue, List.filterMap_append,
        List.append_assoc]
      rfl
    · rw [sameSent]
      exact isSent
  · rw [sameSent]
    exact answering.sending
  · intro flow id error member
    rw [sameSent]
    rcases List.mem_append.mp member with waited | isNew
    · exact answering.processed flow id error waited
    · cases List.mem_singleton.mp isNew
  · rw [sameAnswers, sameSent]
    exact answering.accepted

/-- A flow answers a call: its block waits, or the flow is gone. -/
theorem Answering.returned
    {events : List Event}
    {event : Event}
    {id : SendId}
    (answering : Answering events before)
    (kept : Kept after)
    (wasOut : (flow, id) ∈ before.sending)
    (isReturned :
      after.mode = before.mode ∧
        after.sending = before.sending.erase (flow, id) ∧
        after.sendCount = before.sendCount ∧
        after.stored = before.stored)
    (isSilent :
      event.sent? = none ∧
        event.outputs.filterMap Output.transmission? = [])
    (isAnswer :
      (∃ error,
        after.queue = before.queue ++ [.contentProcessed flow id error] ∧
          event.outputs.filterMap Output.answer? = []) ∨
        (after.queue = before.queue ∧
          event.outputs.filterMap Output.answer? = [(id, false)])) :
    Answering (events ++ [event]) after := by
  obtain ⟨sameMode, isErased, sameCount, sameStored⟩ := isReturned
  have sameSent : transmissions (events ++ [event]) = transmissions events := by
    rw [transmissions_snoc, isSilent.2]
    exact List.append_nil _
  have sameCalls : sends (events ++ [event]) = sends events := by
    rw [sends_snoc, isSilent.1]
    exact List.append_nil _
  have sameEndpoint (flow : FlowId) :
      after.endpointOf flow = before.endpointOf flow := by
    rw [endpointOf, endpointOf, sameStored]
  have counts (other : SendId) :
      before.sending.countP (fun entry => entry.2 = other) =
        after.sending.countP (fun entry => entry.2 = other) +
          if id = other then 1 else 0 := by
    rw [isErased, (List.perm_cons_erase wasOut).countP_eq, List.countP_cons]
    simp only [decide_eq_true_eq]
  refine ⟨kept, ?_, ?_, ?_, ?_, ?_, ?_⟩
  · rw [sameCount, sameCalls, answering.sendCount]
  · intro other
    have counted := answering.counted other
    rw [counts other] at counted
    rw [answers_snoc, sameCount]
    rcases isAnswer with ⟨error, isQueue, noAnswer⟩ | ⟨sameQueue, isAnswer⟩
    · rw [noAnswer, isQueue, List.append_nil, countP_sendId rfl]
      omega
    · rw [isAnswer, sameQueue, List.countP_append, List.countP_singleton]
      simp only [decide_eq_true_eq]
      omega
  · obtain ⟨made, isMade, isSent⟩ := answering.inOrder
    refine ⟨made, ?_, ?_⟩
    · rw [sameCalls, isMade]
      rcases isAnswer with ⟨error, isQueue, _⟩ | ⟨sameQueue, _⟩
      · rw [isQueue, List.filterMap_append]
        exact congrArg _ (List.append_nil _).symm
      · rw [sameQueue]
    · simp only [sameSent, sameEndpoint, sameMode]
      exact isSent
  · intro other call member
    rw [sameSent]
    rw [isErased] at member
    exact answering.sending other call (List.mem_of_mem_erase member)
  · intro other call error member
    rw [sameSent]
    rcases isAnswer with ⟨error, isQueue, _⟩ | ⟨sameQueue, _⟩
    · rw [isQueue, List.mem_append, List.mem_singleton] at member
      rcases member with waited | isNew
      · exact answering.processed other call _ waited
      · cases isNew
        exact answering.sending flow id wasOut
    · rw [sameQueue] at member
      exact answering.processed other call _ member
  · intro call isAccepted
    rw [sameSent]
    rw [answers_snoc] at isAccepted
    rcases isAnswer with ⟨error, _, noAnswer⟩ | ⟨_, isAnswer⟩
    · rw [noAnswer, List.append_nil] at isAccepted
      exact answering.accepted call isAccepted
    · rw [isAnswer, List.mem_append, List.mem_singleton] at isAccepted
      rcases isAccepted with earlier | isNew
      · exact answering.accepted call earlier
      · cases isNew

theorem Answering.ran
    {events : List Event}
    {item : Item}
    {rest : List Item}
    (answering : Answering events before)
    (isQueue : before.queue = item :: rest) :
    Answering
      (events ++
        [.ran item (run foundation { before with queue := rest } item).1])
      (run foundation { before with queue := rest } item).2 := by
  have ran : Step foundation before _ _ := .ran isQueue
  have framed :
      Framed { before with queue := rest }
        (run foundation { before with queue := rest } item).2 :=
    run_framed item
  have sent :
      Sent { before with queue := rest } item
        (run foundation { before with queue := rest } item).1
        (run foundation { before with queue := rest } item).2 :=
    run_sent item
  have keeps (flow : FlowId) (endpoint : Endpoint)
      (isOpen : before.endpointOf flow = some endpoint) :
      (run foundation { before with queue := rest } item).2.endpointOf flow =
        some endpoint :=
    run_endpointOf item isOpen
  have kept := answering.kept.step ran
  generalize run foundation { before with queue := rest } item = result at *
  obtain ⟨outputs, after⟩ := result
  dsimp only at *
  have sameCalls :
      sends (events ++ [.ran item outputs]) = sends events := by
    rw [sends_snoc]
    exact List.append_nil _
  have isLast :
      transmissions (events ++ [.ran item outputs]) =
        transmissions events ++ outputs.filterMap Output.transmission? :=
    transmissions_snoc events _
  have isAnswered :
      answers (events ++ [.ran item outputs]) =
        answers events ++ outputs.filterMap Output.answer? :=
    answers_snoc events _
  obtain ⟨made, isMade, isSent⟩ := answering.inOrder
  have isOpen :
      ∀ call ∈ made.map fun call =>
          (some call.1.2, call.2, onWire before.mode call.1.1),
        call.1.isSome := by
    intro call member
    obtain ⟨_, _, rfl⟩ := List.mem_map.mp member
    rfl
  have sameEndpoints := map_endpointOf isSent isOpen keeps
  have processed :
      ∀ flow id error,
        .contentProcessed flow id error ∈ after.queue →
        ∃ content, (flow, id, content) ∈ transmissions events := by
    intro flow id error member
    rw [framed.queue] at member
    refine answering.processed flow id error ?_
    rw [isQueue]
    exact List.mem_cons_of_mem _ member
  have earlier {flow : FlowId} {id : SendId}
      (isEarlier : ∃ content, (flow, id, content) ∈ transmissions events) :
      ∃ content,
        (flow, id, content) ∈
          transmissions (events ++ [.ran item outputs]) := by
    obtain ⟨content, member⟩ := isEarlier
    rw [isLast]
    exact ⟨content, List.mem_append_left _ member⟩
  cases sent with
  | unrelated isUnrelated noAnswer noTransmission sameSending =>
      have noCall : item.sent? = none := by
        cases item with
        | send =>
            cases isUnrelated
        | _ =>
            rfl
      rw [noTransmission, List.append_nil] at isLast
      rw [noAnswer, List.append_nil] at isAnswered
      refine ⟨kept, ?_, ?_, ?_, ?_, ?_, ?_⟩
      · rw [framed.sendCount, sameCalls]
        exact answering.sendCount
      · intro id
        have counted := answering.counted id
        rw [isQueue, List.countP_cons, isUnrelated] at counted
        rw [isAnswered, sameSending, framed.queue, framed.sendCount]
        exact counted
      · refine ⟨made, ?_, ?_⟩
        · rw [sameCalls, isMade, isQueue, framed.queue,
            List.filterMap_cons_none noCall]
        · rw [isLast, sameEndpoints, framed.mode]
          exact isSent
      · rw [isLast, sameSending]
        exact answering.sending
      · rw [isLast]
        exact processed
      · rw [isLast, isAnswered]
        exact answering.accepted
  | @answered id accepted isAbout isProcessed isAnswer noTransmission
      sameSending =>
      rw [noTransmission, List.append_nil] at isLast
      rw [isAnswer] at isAnswered
      refine ⟨kept, ?_, ?_, ?_, ?_, ?_, ?_⟩
      · rw [framed.sendCount, sameCalls]
        exact answering.sendCount
      · intro other
        have counted := answering.counted other
        rw [isQueue, List.countP_cons, isAbout] at counted
        rw [isAnswered, sameSending, framed.queue, framed.sendCount,
          List.countP_append, List.countP_singleton]
        simp only [decide_eq_true_eq, Option.some.injEq] at counted ⊢
        change _ + _ + before.sending.countP _ + rest.countP _ = _
        omega
      · refine ⟨made ++ item.sent?.toList, ?_, ?_⟩
        · rw [sameCalls, isMade, isQueue, framed.queue, List.append_assoc,
            List.filterMap_cons]
          cases item.sent? <;> rfl
        · rw [isLast, sameEndpoints, framed.mode, List.map_append]
          exact isSent.trans (List.sublist_append_left _ _)
      · rw [isLast, sameSending]
        exact answering.sending
      · rw [isLast]
        exact processed
      · intro call isAccepted
        rw [isLast]
        rw [isAnswered, List.mem_append, List.mem_singleton] at isAccepted
        rcases isAccepted with wasAccepted | isNew
        · exact answering.accepted call wasAccepted
        · cases isNew
          obtain ⟨flow, error, rfl⟩ := isProcessed rfl
          refine ⟨flow, answering.processed flow _ error ?_⟩
          rw [isQueue]
          exact List.mem_cons_self
  | @transmitted id frame endpoint isItem isOutput isAfter =>
      subst isItem isOutput
      have foundFlow :=
        @connectionFor_endpointOf { before with queue := rest }
          answering.kept.sound endpoint
      generalize connectionFor { before with queue := rest } endpoint = found
        at *
      obtain ⟨flow, next⟩ := found
      dsimp only at *
      have sameSending : after.sending = before.sending ++ [(flow, id)] := by
        rw [isAfter]
      have isOpenFlow : after.endpointOf flow = some endpoint := by
        rw [isAfter]
        exact foundFlow
      refine ⟨kept, ?_, ?_, ?_, ?_, ?_, ?_⟩
      · rw [framed.sendCount, sameCalls]
        exact answering.sendCount
      · intro other
        have counted := answering.counted other
        rw [isQueue, List.countP_cons, Item.sendId?] at counted
        have noAnswer :
            [Output.transmit flow id (onWire before.mode frame)].filterMap
              Output.answer? = [] :=
          rfl
        rw [isAnswered, noAnswer, List.append_nil, sameSending, framed.queue,
          framed.sendCount, List.countP_append, List.countP_singleton]
        simp only [decide_eq_true_eq, Option.some.injEq] at counted ⊢
        change _ + (before.sending.countP _ + _) + rest.countP _ = _
        omega
      · refine ⟨made ++ [((frame, endpoint), id)], ?_, ?_⟩
        · rw [sameCalls, isMade, isQueue, framed.queue, List.append_assoc]
          rfl
        · rw [isLast, List.map_append, sameEndpoints, framed.mode,
            List.map_append]
          refine isSent.append ?_
          simp [Output.transmission?, isOpenFlow]
      · intro other call member
        rw [sameSending, List.mem_append, List.mem_singleton] at member
        rcases member with wasOut | isNew
        · exact earlier (answering.sending other call wasOut)
        · cases isNew
          rw [isLast]
          exact ⟨_, List.mem_append_right _ List.mem_cons_self⟩
      · intro other call error member
        exact earlier (processed other call error member)
      · intro call isAccepted
        rw [isAnswered] at isAccepted
        rcases List.mem_append.mp isAccepted with wasAccepted | isNew
        · obtain ⟨other, isEarlier⟩ := answering.accepted call wasAccepted
          exact ⟨other, earlier isEarlier⟩
        · cases isNew

theorem Answering.step
    {events : List Event}
    {event : Event}
    (answering : Answering events before)
    (step : Step foundation before event after) :
    Answering (events ++ [event]) after := by
  have kept := answering.kept.step step
  cases step with
  | send =>
      exact answering.send kept _ _ rfl
  | @call item isCall =>
      refine answering.enqueued kept [item] ⟨rfl, rfl, rfl, rfl⟩ rfl ?_
        ⟨rfl, rfl⟩
      rcases isCall with rfl | rfl | rfl <;>
        exact List.forall_mem_singleton.mpr rfl
  | ran isQueue =>
      exact answering.ran isQueue
  | @received other state content isComplete error isListed isOut =>
      have sameStored :
          (before.receiveReturned other).stored = before.stored :=
        stored_modifyFlow fun _ => rfl
      exact answering.enqueued kept
        [.received other content isComplete error] ⟨rfl, rfl, rfl, rfl⟩
        sameStored (List.forall_mem_singleton.mpr rfl) ⟨rfl, rfl⟩
  | @receivedLate other state isListed isOut isGone =>
      have sameStored :
          (before.receiveReturned other).stored = before.stored :=
        stored_modifyFlow fun _ => rfl
      exact answering.enqueued kept []
        ⟨(List.append_nil _).symm, rfl, rfl, rfl⟩ sameStored
        (fun _ member => absurd member List.not_mem_nil) ⟨rfl, rfl⟩
  | contentProcessed isOut =>
      exact answering.returned kept isOut ⟨rfl, rfl, rfl, rfl⟩ ⟨rfl, rfl⟩
        (.inl ⟨_, rfl, rfl⟩)
  | contentProcessedLate isOut isGone =>
      exact answering.returned kept isOut ⟨rfl, rfl, rfl, rfl⟩ ⟨rfl, rfl⟩
        (.inr ⟨rfl, rfl⟩)
  | stateUpdate =>
      exact answering.enqueued kept [.stateUpdate _ _] ⟨rfl, rfl, rfl, rfl⟩
        rfl (List.forall_mem_singleton.mpr rfl) ⟨rfl, rfl⟩

theorem Answering.of_execution
    {mode : TransportKind}
    {events : List Event}
    (execution : Execution (Step foundation) (.new mode) events transport) :
    Answering events transport :=
  execution.invariant Answering (.new mode) fun _ holds step =>
    holds.step step

/--
Every call of `send` is answered at most once, and exactly once when nothing
waits and no flow owes an answer; only what was sent is accepted.  What is sent
are calls in the order in which they were made, each on a flow to its endpoint.
-/
theorem sends_answered_once
    {mode : TransportKind}
    {events : List Event}
    (execution : Execution (Step foundation) (.new mode) events transport) :
    (∀ id,
      (answers events).countP (fun answer => answer.1 = id) ≤
        if id < (sends events).length then 1 else 0) ∧
    (transport.queue = [] →
      transport.sending = [] →
      ∀ id < (sends events).length,
        (answers events).countP (fun answer => answer.1 = id) = 1) ∧
    (∀ id,
      (id, true) ∈ answers events →
      ∃ flow content, (flow, id, content) ∈ transmissions events) ∧
    ((transmissions events).map fun sent =>
        (transport.endpointOf sent.1, sent.2)).Sublist
      ((sends events).zipIdx.map fun call =>
        (some call.1.2, call.2, onWire transport.mode call.1.1)) := by
  have answering := Answering.of_execution execution
  refine ⟨?_, ?_, answering.accepted, ?_⟩
  · intro id
    have counted := answering.counted id
    rw [answering.sendCount] at counted
    omega
  · intro noneQueued noneOut id isCall
    have counted := answering.counted id
    rw [answering.sendCount, noneQueued, noneOut, if_pos isCall] at counted
    exact counted
  · obtain ⟨made, isMade, isSent⟩ := answering.inOrder
    rw [isMade, List.map_append]
    exact isSent.trans (List.sublist_append_left _ _)

theorem sends_answered_once_example :
    (answers
        [.send [1] peerEndpoint,
          .ran (.send 0 [1] peerEndpoint) [.transmit 0 0 [1]],
          .contentProcessed 0 0 none,
          .ran (.contentProcessed 0 0 none) [.completion 0 true]]).countP
        (fun answer => answer.1 = 0) =
      1 := by
  have answered :
      Step PlainFoundation.foundation
        { peerOpen with
          queue := [.contentProcessed 0 0 none], sending := [] }
        (.ran (.contentProcessed 0 0 none) [.completion 0 true])
        { peerOpen with sending := [] } :=
    .ran rfl
  have execution :=
    (peerOpen_execution.snoc (.contentProcessed List.mem_cons_self)).snoc
      answered
  exact (sends_answered_once execution).2.1 rfl rfl 0 Nat.zero_lt_one

end Answering

end NetworkTransport

end HushWire.PacketTunnel
