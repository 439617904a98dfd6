import HushWire.NetworkFlows

namespace HushWire.PacketTunnel

/-!
# What the flows deliver

A flow hands up the whole frames of what its receives brought, in order, and a
flow that is still in use has left out nothing.  The calls of `send` are sent
in the order in which they were made, and each is answered at most once.
-/

namespace NetworkTransport

variable
  {foundation : Foundation}
  {transport before after : NetworkTransport}
  {flow : FlowId}

section Contents

/-- What a block of a flow's receive brings. -/
def Item.content? (flow : FlowId) : Item → Option (Option Bytes)
  | .received other content _ _ => if other = flow then some content else none
  | _ => none

/-- What a callback of a flow's receive brings. -/
def Event.content? (flow : FlowId) : Event → Option (Option Bytes)
  | .received other content _ _ => if other = flow then some content else none
  | _ => none

/-- What the receives of a flow brought, in order. -/
def contents (events : List Event) (flow : FlowId) : List (Option Bytes) :=
  events.filterMap (Event.content? flow)

/-- The frame that an output hands up from a flow. -/
def Output.frame? (flow : FlowId) : Output → Option (Endpoint × Bytes)
  | .frame other endpoint bytes =>
      if other = flow then some (endpoint, bytes) else none
  | _ => none

/-- The frames that were handed up from a flow, with their endpoints. -/
def handedUp (events : List Event) (flow : FlowId) : List (Endpoint × Bytes) :=
  (events.flatMap Event.outputs).filterMap (Output.frame? flow)

/-- The whole frames of what was received. -/
def framesOf
    (mode : TransportKind)
    (contents : List (Option Bytes)) :
    List Bytes :=
  match mode with
  | .udp =>
      contents.flatMap fun content =>
        (content.filter fun bytes => !bytes.isEmpty).toList
  | .tcp => completeFrames (contents.flatMap (·.getD []))

/-- The buffer holds what is left of a stream behind its whole frames. -/
def Leftover
    (mode : TransportKind)
    (contents : List (Option Bytes))
    (tcpReadBuffer : Bytes) :
    Prop :=
  mode = .tcp →
    tcpFraming.Frames (contents.flatMap (·.getD []))
      (framesOf mode contents) tcpReadBuffer

theorem framesOf_nil (mode : TransportKind) : framesOf mode [] = [] := by
  cases mode with
  | udp =>
      rfl
  | tcp =>
      exact completeFrames_eq_nil rfl

theorem Leftover.nil (mode : TransportKind) : Leftover mode [] [] := by
  intro isTcp
  rw [framesOf_nil]
  exact ⟨fun _ member => absurd member List.not_mem_nil, rfl, rfl⟩

/-- A callback hands up what its content completes. -/
theorem Leftover.deliver
    {mode : TransportKind}
    {contents : List (Option Bytes)}
    {tcpReadBuffer : Bytes}
    (leftover : Leftover mode contents tcpReadBuffer)
    (content : Option Bytes) :
    framesOf mode (contents ++ [content]) =
        framesOf mode contents ++
          (NetworkTransport.deliver mode tcpReadBuffer content).1 ∧
      Leftover mode (contents ++ [content])
        (NetworkTransport.deliver mode tcpReadBuffer content).2 := by
  cases mode with
  | udp =>
      refine ⟨?_, fun isTcp => by cases isTcp⟩
      simp [framesOf, NetworkTransport.deliver]
  | tcp =>
      obtain ⟨valid, isStream, drained⟩ := leftover rfl
      have delivered := receiveContent_frames drained content
      have whole :
          tcpFraming.Frames
            ((contents ++ [content]).flatMap (·.getD []))
            (framesOf .tcp contents ++
              (receiveContent tcpReadBuffer content).1)
            (receiveContent tcpReadBuffer content).2 := by
        have behind := delivered.behind valid
        rw [← List.append_assoc, isStream] at behind
        simpa using behind
      have same :
          framesOf .tcp (contents ++ [content]) =
            framesOf .tcp contents ++
              (receiveContent tcpReadBuffer content).1 :=
        ((frames_completeFrames _).unique whole).1
      refine ⟨same, fun _ => ?_⟩
      rw [same]
      exact whole

/-- More contents bring more frames behind the earlier ones. -/
theorem framesOf_extends
    (mode : TransportKind)
    (contents later : List (Option Bytes)) :
    framesOf mode contents <+: framesOf mode (contents ++ later) := by
  cases mode with
  | udp =>
      rw [framesOf, framesOf, List.flatMap_append]
      exact List.prefix_append _ _
  | tcp =>
      have whole := frames_completeFrames (contents.flatMap (·.getD []))
      simp only [framesOf]
      rw [List.flatMap_append]
      generalize contents.flatMap (·.getD []) = stream at whole ⊢
      have longer :=
        completeFrames_append whole.valid
          ((deliverTcpFrames stream).2 ++ later.flatMap (·.getD []))
      rw [← List.append_assoc, whole.same] at longer
      rw [longer]
      exact List.prefix_append _ _

end Contents

section Stored

/-- The endpoint and the buffer of a flow. -/
def entry (state : Flow) : Endpoint × Bytes :=
  (state.endpoint, state.tcpReadBuffer)

/-- What is stored of the flows. -/
def stored (transport : NetworkTransport) : List (Endpoint × Bytes) :=
  transport.flows.map entry

/-- Changing what else a flow knows leaves what is stored alone. -/
theorem stored_modifyFlow
    {update : Flow → Flow}
    (keeps : ∀ state, entry (update state) = entry state) :
    (transport.modifyFlow flow update).stored = transport.stored := by
  have follows := @map_modify Flow _ entry update id keeps
  exact (follows transport.flows flow).trans (List.modify_id _ _)

theorem stored_remove : (transport.remove flow).stored = transport.stored := by
  unfold remove
  cases transport.current flow with
  | none =>
      rfl
  | some state =>
      exact @stored_modifyFlow transport flow
        (fun state => { state with cancelled := true }) fun _ => rfl

theorem stored_resetConnections :
    transport.resetConnections.stored = transport.stored := by
  have same (objects : List FlowId) (flows : List Flow) :
      ({ transport with
          flows := objects.foldl cancel flows } : NetworkTransport).stored =
        ({ transport with flows } : NetworkTransport).stored := by
    induction objects generalizing flows with
    | nil =>
        rfl
    | cons object later inductionHypothesis =>
        rw [List.foldl_cons, inductionHypothesis]
        exact @stored_modifyFlow { transport with flows } object
          (fun state => { state with cancelled := true }) fun _ => rfl
  exact same _ _

theorem stored_receiveNext :
    (transport.receiveNext flow).stored = transport.stored := by
  unfold receiveNext
  split
  · exact stored_modifyFlow fun _ => rfl
  · rfl

theorem stored_connectionFor (endpoint : Endpoint) :
    (transport.connectionFor endpoint).2.stored = transport.stored ∨
      (transport.connectionFor endpoint).2.stored =
        transport.stored ++ [(endpoint, [])] := by
  unfold connectionFor
  split
  · exact .inl rfl
  · refine .inr ?_
    dsimp only
    rw [stored_receiveNext, stored, List.map_append]
    rfl

/-- The flow whose receive a block looks at, and what it brought. -/
def taken? (transport : NetworkTransport) :
    Item → Option (FlowId × Flow × Option Bytes)
  | .received flow content _ _ =>
      if transport.running then
        (transport.current flow).map fun state => (flow, state, content)
      else
        none
  | _ => none

theorem taken?_received
    {state : Flow}
    {content : Option Bytes}
    {isComplete : Bool}
    {error : Option String}
    (running : transport.running = true)
    (isCurrent : transport.current flow = some state) :
    transport.taken? (.received flow content isComplete error) =
      some (flow, state, content) := by
  rw [taken?, if_pos running, isCurrent, Option.map_some]

theorem taken?_eq_none
    {content : Option Bytes}
    {isComplete : Bool}
    {error : Option String}
    (notCurrent :
      ∀ state,
        transport.running = true → transport.current flow ≠ some state) :
    transport.taken? (.received flow content isComplete error) = none := by
  rw [taken?]
  split
  next running =>
    rw [Option.map_eq_none_iff, Option.eq_none_iff_forall_ne_some]
    exact fun state => notCurrent state running
  · rfl

/-- What is stored after a block has looked at a receive. -/
def storedAfter
    (transport : NetworkTransport)
    (item : Item) :
    List (Endpoint × Bytes) :=
  match transport.taken? item with
  | none => transport.stored
  | some (flow, state, content) =>
      transport.stored.modify flow fun entry =>
        (entry.1, (deliver transport.mode state.tcpReadBuffer content).2)

/-- A block stores what its receive leaves, or starts a flow. -/
theorem run_stored (item : Item) :
    (transport.run foundation item).2.stored = transport.storedAfter item ∨
      ∃ endpoint,
        (transport.run foundation item).2.stored =
          transport.storedAfter item ++ [(endpoint, [])] := by
  cases item with
  | send id frame endpoint =>
      rw [run]
      unfold runSend
      split
      · exact .inl rfl
      · split
        · exact .inl rfl
        · split
          · exact .inl rfl
          · exact (stored_connectionFor endpoint).imp_right
              fun isStarted => ⟨endpoint, isStarted⟩
  | received flow content isComplete error =>
      refine .inl ?_
      rw [run]
      unfold runReceived
      split
      next state running isCurrent =>
        rw [storedAfter, taken?_received running isCurrent]
        have follows (other : Flow) :
            entry
                { other with
                  tcpReadBuffer :=
                    (deliver transport.mode state.tcpReadBuffer content).2 } =
              ((entry other).1,
                (deliver transport.mode state.tcpReadBuffer content).2) :=
          rfl
        have delivered :
            (transport.modifyFlow flow fun other =>
                { other with
                  tcpReadBuffer :=
                    (deliver transport.mode state.tcpReadBuffer
                      content).2 }).stored =
              transport.stored.modify flow fun entry =>
                (entry.1,
                  (deliver transport.mode state.tcpReadBuffer content).2) :=
          map_modify follows transport.flows flow
        cases error with
        | some error =>
            exact stored_remove.trans delivered
        | none =>
            dsimp only
            split
            · exact stored_remove.trans delivered
            · exact stored_receiveNext.trans delivered
      next notCurrent =>
        rw [storedAfter, taken?_eq_none notCurrent]
  | rebindUDP | reset | stop =>
      refine .inl ?_
      rw [run]
      split
      · exact stored_resetConnections
      · rfl
  | contentProcessed flow id error =>
      refine .inl ?_
      rw [run]
      unfold runContentProcessed
      split
      · exact stored_remove
      · rfl
  | stateUpdate flow update =>
      refine .inl ?_
      rw [run]
      unfold runStateUpdate
      split
      · exact stored_remove
      · rfl
      · exact stored_remove
      · rfl

end Stored

section Reading

/-- A block that looks at a receive is the block of that receive. -/
theorem taken?_eq_some
    {item : Item}
    {state : Flow}
    {content : Option Bytes}
    (isTaken : transport.taken? item = some (flow, state, content)) :
    (∃ isComplete error, item = .received flow content isComplete error) ∧
      transport.current flow = some state := by
  cases item with
  | received other brought isComplete error =>
      rw [taken?] at isTaken
      split at isTaken
      · obtain ⟨found, isCurrent, same⟩ := Option.map_eq_some_iff.mp isTaken
        cases same
        exact ⟨⟨isComplete, error, rfl⟩, isCurrent⟩
      · cases isTaken
  | _ =>
      cases isTaken

/-- The frames of a flow that a block hands up. -/
def handedUpBy
    (transport : NetworkTransport)
    (item : Item)
    (flow : FlowId) :
    List (Endpoint × Bytes) :=
  match transport.taken? item with
  | none => []
  | some (other, state, content) =>
      if other = flow then
        (deliver transport.mode state.tcpReadBuffer content).1.map
          (Prod.mk state.endpoint)
      else
        []

theorem filterMap_frame?
    (other : FlowId)
    (endpoint : Endpoint)
    (frames : List Bytes) :
    (frames.map (Output.frame other endpoint)).filterMap
        (Output.frame? flow) =
      if other = flow then frames.map (Prod.mk endpoint) else [] := by
  rw [List.filterMap_map]
  split
  next same =>
    subst same
    exact List.filterMap_eq_map_iff_forall_eq_some.mpr (by simp [Output.frame?])
  next different =>
    exact List.filterMap_eq_nil_iff.mpr (by simp [Output.frame?, different])

theorem run_handedUp (item : Item) :
    (transport.run foundation item).1.filterMap (Output.frame? flow) =
      transport.handedUpBy item flow := by
  cases item with
  | send id frame endpoint =>
      rw [run]
      unfold runSend
      split
      · rfl
      · split
        · rfl
        · split <;> rfl
  | received other content isComplete error =>
      rw [run]
      unfold runReceived
      split
      next state running isCurrent =>
        rw [handedUpBy, taken?_received running isCurrent]
        have isHandedUp := @filterMap_frame? flow other state.endpoint
          (deliver transport.mode state.tcpReadBuffer content).1
        cases error with
        | some error =>
            exact (List.filterMap_append ..).trans
              ((List.append_nil _).trans isHandedUp)
        | none =>
            dsimp only
            split
            · exact (List.filterMap_append ..).trans
                ((List.append_nil _).trans isHandedUp)
            · exact isHandedUp
      next notCurrent =>
        rw [handedUpBy, taken?_eq_none notCurrent]
        rfl
  | rebindUDP | reset | stop =>
      rw [run]
      split <;> rfl
  | contentProcessed flow id error =>
      rw [run]
      unfold runContentProcessed
      split <;> rfl
  | stateUpdate flow update =>
      rw [run]
      unfold runStateUpdate
      split <;> rfl

/-- A flow of the table was in it before, or has just been started. -/
theorem Moves.lookup
    {endpoint : Endpoint}
    (moves : Moves before after)
    (isCurrent : after.connections.lookup endpoint = some flow) :
    before.connections.lookup endpoint = some flow ∨
      flow = before.flows.length := by
  cases moves with
  | same sameTable _ =>
      have sameConnections : after.connections = before.connections :=
        congrArg GenerationTable.current sameTable
      exact .inl (sameConnections ▸ isCurrent)
  | @started key _ _ isStarted _ =>
      have isInserted :
          after.connections =
            before.connections.insert key before.flows.length := by
        have inserted := congrArg GenerationTable.current isStarted
        simpa [table, GenerationTable.start] using inserted
      rw [isInserted] at isCurrent
      by_cases same : endpoint = key
      · subst same
        rw [AList.lookup_insert] at isCurrent
        exact .inr (Option.some.inj isCurrent).symm
      · rw [AList.lookup_insert_ne same] at isCurrent
        exact .inl isCurrent
  | @removed key _ _ isRemoved _ =>
      have isErased : after.connections = before.connections.erase key :=
        congrArg GenerationTable.current isRemoved
      rw [isErased] at isCurrent
      by_cases same : endpoint = key
      · subst same
        rw [AList.lookup_erase] at isCurrent
        cases isCurrent
      · rw [AList.lookup_erase_ne same] at isCurrent
        exact .inl isCurrent
  | cleared _ isCleared =>
      have isEmpty : after.connections = ∅ :=
        congrArg GenerationTable.current isCleared
      rw [isEmpty, AList.lookup_empty] at isCurrent
      cases isCurrent

/-- What of a flow's receives was looked at, and what waits. -/
def Reading
    (events : List Event)
    (transport : NetworkTransport)
    (flow : FlowId)
    (endpoint : Endpoint)
    (tcpReadBuffer : Bytes) :
    Prop :=
  ∃ processed waiting,
    contents events flow = processed ++ waiting ∧
      handedUp events flow =
        (framesOf transport.mode processed).map (Prod.mk endpoint) ∧
      (transport.connections.lookup endpoint = some flow →
        waiting = transport.queue.filterMap (Item.content? flow) ∧
          Leftover transport.mode processed tcpReadBuffer)

/-- What holds of the receives of all flows. -/
structure Delivering
    (events : List Event)
    (transport : NetworkTransport) :
    Prop where
  kept : Kept transport
  unstarted :
    ∀ flow,
      transport.stored.length ≤ flow →
      contents events flow = [] ∧
        handedUp events flow = [] ∧
        transport.queue.filterMap (Item.content? flow) = []
  started :
    ∀ flow endpoint tcpReadBuffer,
      transport.stored[flow]? = some (endpoint, tcpReadBuffer) →
      Reading events transport flow endpoint tcpReadBuffer

theorem Delivering.new (mode : TransportKind) :
    Delivering [] (.new mode) where
  kept := .new mode
  unstarted := fun _ _ => ⟨rfl, rfl, rfl⟩
  started := fun _ _ _ isStored => by cases isStored

theorem contents_snoc (events : List Event) (event : Event) :
    contents (events ++ [event]) flow =
      contents events flow ++ (event.content? flow).toList := by
  rw [contents, List.filterMap_append, List.filterMap_cons]
  cases event.content? flow <;> rfl

theorem handedUp_snoc (events : List Event) (event : Event) :
    handedUp (events ++ [event]) flow =
      handedUp events flow ++
        event.outputs.filterMap (Output.frame? flow) := by
  rw [handedUp, List.flatMap_append, List.filterMap_append,
    List.flatMap_singleton]
  rfl

/-- A block that looks at no receive of the flow changes nothing for it. -/
theorem Reading.other_taken
    {events : List Event}
    {endpoint : Endpoint}
    {tcpReadBuffer : Bytes}
    {item : Item}
    {rest : List Item}
    (isQueue : before.queue = item :: rest)
    (reading : Reading events before flow endpoint tcpReadBuffer)
    (sameMode : after.mode = before.mode)
    (isRest : after.queue = rest)
    (wasCurrent :
      after.connections.lookup endpoint = some flow →
        before.connections.lookup endpoint = some flow ∧
          item.content? flow = none)
    (event : Event)
    (isSilent :
      event.content? flow = none ∧
        event.outputs.filterMap (Output.frame? flow) = []) :
    Reading (events ++ [event]) after flow endpoint tcpReadBuffer := by
  obtain ⟨processed, waiting, isContents, isHandedUp, current⟩ := reading
  refine ⟨processed, waiting, ?_, ?_, fun isCurrent => ?_⟩
  · rw [contents_snoc, isSilent.1, isContents]
    exact List.append_nil _
  · rw [handedUp_snoc, isSilent.2, isHandedUp, sameMode]
    exact List.append_nil _
  · obtain ⟨wasIn, isOther⟩ := wasCurrent isCurrent
    obtain ⟨isWaiting, leftover⟩ := current wasIn
    rw [sameMode, isRest, isWaiting, isQueue]
    exact ⟨List.filterMap_cons_none isOther, leftover⟩

/-- The block of a receive hands up the frames that its content completes. -/
theorem Reading.taken
    {events : List Event}
    {state : Flow}
    {content : Option Bytes}
    {item : Item}
    {rest : List Item}
    (isQueue : before.queue = item :: rest)
    (reading :
      Reading events before flow state.endpoint state.tcpReadBuffer)
    (sameMode : after.mode = before.mode)
    (isRest : after.queue = rest)
    (isTaken : before.taken? item = some (flow, state, content))
    (event : Event)
    (isOutput :
      event.content? flow = none ∧
        event.outputs.filterMap (Output.frame? flow) =
          before.handedUpBy item flow) :
    Reading (events ++ [event]) after flow state.endpoint
      (deliver before.mode state.tcpReadBuffer content).2 := by
  obtain ⟨processed, waiting, isContents, isHandedUp, current⟩ := reading
  obtain ⟨⟨isComplete, error, rfl⟩, isCurrent⟩ := taken?_eq_some isTaken
  obtain ⟨isWaiting, leftover⟩ := current (current_eq_some_iff.mp isCurrent).2
  obtain ⟨isWhole, next⟩ := leftover.deliver content
  have isFirst :
      waiting = content :: rest.filterMap (Item.content? flow) := by
    rw [isWaiting, isQueue]
    exact List.filterMap_cons_some (if_pos rfl)
  refine
    ⟨processed ++ [content], rest.filterMap (Item.content? flow), ?_, ?_,
      fun _ => ?_⟩
  · rw [contents_snoc, isOutput.1, isContents, isFirst]
    simp
  · rw [handedUp_snoc, isOutput.2, handedUpBy, isTaken, isHandedUp, sameMode,
      isWhole, List.map_append]
    exact congrArg _ (if_pos rfl)
  · rw [sameMode, isRest]
    exact ⟨rfl, next⟩

section Ran

variable
  {events : List Event}
  {item : Item}
  {rest : List Item}
  {endpoint : Endpoint}
  {tcpReadBuffer : Bytes}

theorem length_storedAfter (transport : NetworkTransport) (item : Item) :
    (transport.storedAfter item).length = transport.stored.length := by
  unfold storedAfter
  split
  · rfl
  · exact List.length_modify ..

/-- No block looks at a receive of a flow that was not started. -/
theorem handedUpBy_eq_nil
    (isLate : transport.stored.length ≤ flow) :
    transport.handedUpBy item flow = [] := by
  unfold handedUpBy
  split
  · rfl
  next other state content isTaken =>
    have isCurrent := (taken?_eq_some isTaken).2
    have isListed :=
      (List.getElem?_eq_some_iff.mp (current_eq_some_iff.mp isCurrent).1).1
    rw [stored, List.length_map] at isLate
    exact if_neg (Nat.ne_of_lt (isListed.trans_le isLate))

/-- A block that does not look at a receive of the flow. -/
theorem taken?_other
    (kept : Kept transport)
    (isStored : transport.stored[flow]? = some (endpoint, tcpReadBuffer))
    (notTaken :
      ∀ state content,
        transport.taken? item ≠ some (flow, state, content)) :
    transport.handedUpBy item flow = [] ∧
      (transport.connections.lookup endpoint = some flow →
        item.content? flow = none) := by
  constructor
  · unfold handedUpBy
    split
    · rfl
    next other state content isTaken =>
      refine if_neg ?_
      rintro rfl
      exact notTaken state content isTaken
  · intro isCurrent
    cases item with
    | received other content isComplete error =>
        refine if_neg ?_
        rintro rfl
        rw [stored, List.getElem?_map, Option.map_eq_some_iff] at isStored
        obtain ⟨state, isListed, isEntry⟩ := isStored
        have isEndpoint : state.endpoint = endpoint :=
          congrArg Prod.fst isEntry
        have running : transport.running = true := by
          rw [← Bool.not_eq_false]
          intro isStopped
          rw [kept.stopped isStopped, AList.lookup_empty] at isCurrent
          cases isCurrent
        exact notTaken state content
          (taken?_received running
            (current_eq_some_iff.mpr ⟨isListed, isEndpoint ▸ isCurrent⟩))
    | _ =>
        rfl

/-- What is stored of a flow that a block does not look at. -/
theorem getElem?_storedAfter
    (notTaken :
      ∀ state content,
        transport.taken? item ≠ some (flow, state, content)) :
    (transport.storedAfter item)[flow]? = transport.stored[flow]? := by
  unfold storedAfter
  split
  · rfl
  next other state content isTaken =>
    refine List.getElem?_modify_ne _ _ ?_
    rintro rfl
    exact notTaken state content isTaken

theorem Delivering.ran
    (delivering : Delivering events before)
    (isQueue : before.queue = item :: rest) :
    Delivering
      (events ++
        [.ran item (run foundation { before with queue := rest } item).1])
      (run foundation { before with queue := rest } item).2 := by
  have ran : Step foundation before _ _ := .ran isQueue
  have framed :
      Framed { before with queue := rest }
        (run foundation { before with queue := rest } item).2 :=
    run_framed item
  have outputs (flow : FlowId) :
      Event.content? flow
          (.ran item (run foundation { before with queue := rest } item).1) =
            none ∧
        (run foundation { before with queue := rest } item).1.filterMap
            (Output.frame? flow) =
          before.handedUpBy item flow :=
    ⟨rfl, run_handedUp item⟩
  have isStored :
      (run foundation { before with queue := rest } item).2.stored =
          before.storedAfter item ∨
        ∃ endpoint,
          (run foundation { before with queue := rest } item).2.stored =
            before.storedAfter item ++ [(endpoint, [])] :=
    run_stored item
  have unstarted {flow : FlowId} (isLate : before.stored.length ≤ flow) :
      contents
            (events ++
              [.ran item
                (run foundation { before with queue := rest } item).1])
            flow = [] ∧
        handedUp
            (events ++
              [.ran item
                (run foundation { before with queue := rest } item).1])
            flow = [] ∧
        rest.filterMap (Item.content? flow) = [] := by
    obtain ⟨noContents, noFrames, noneQueued⟩ :=
      delivering.unstarted flow isLate
    rw [isQueue] at noneQueued
    refine ⟨?_, ?_, ?_⟩
    · rw [contents_snoc, noContents]
      rfl
    · rw [handedUp_snoc, noFrames, Event.outputs, (outputs flow).2,
        handedUpBy_eq_nil isLate]
      rfl
    · have inQueue :=
        List.Sublist.filterMap (Item.content? flow)
          (List.sublist_cons_self item rest)
      rw [noneQueued] at inQueue
      exact List.sublist_nil.mp inQueue
  -- A flow that was started before.
  have isOld
      {flow : FlowId}
      {endpoint : Endpoint}
      {tcpReadBuffer : Bytes}
      (isIn :
        (before.storedAfter item)[flow]? = some (endpoint, tcpReadBuffer)) :
      Reading
        (events ++
          [.ran item (run foundation { before with queue := rest } item).1])
        (run foundation { before with queue := rest } item).2 flow endpoint
        tcpReadBuffer := by
    by_cases isTaken :
        ∃ state content, before.taken? item = some (flow, state, content)
    · obtain ⟨state, content, isTaken⟩ := isTaken
      have isListed :=
        (current_eq_some_iff.mp (taken?_eq_some isTaken).2).1
      have wasStored : before.stored[flow]? = some (entry state) := by
        rw [stored, List.getElem?_map, isListed]
        rfl
      have isEntry :
          (endpoint, tcpReadBuffer) =
            (state.endpoint,
              (deliver before.mode state.tcpReadBuffer content).2) := by
        rw [storedAfter, isTaken] at isIn
        dsimp only at isIn
        rw [List.getElem?_modify_eq, wasStored] at isIn
        exact (Option.some.inj isIn).symm
      cases isEntry
      exact (delivering.started flow _ _ wasStored).taken isQueue
        framed.mode framed.queue isTaken _ (outputs flow)
    · have notTaken :
          ∀ state content,
            before.taken? item ≠ some (flow, state, content) :=
        fun state content taken => isTaken ⟨state, content, taken⟩
      rw [getElem?_storedAfter notTaken] at isIn
      obtain ⟨isSilent, isOther⟩ := taken?_other delivering.kept isIn notTaken
      have isEarlier : flow < before.flows.length := by
        have isListed := (List.getElem?_eq_some_iff.mp isIn).1
        rwa [stored, List.length_map] at isListed
      refine (delivering.started flow _ _ isIn).other_taken isQueue
        framed.mode framed.queue (fun isCurrent => ?_) _
        ⟨rfl, (outputs flow).2.trans isSilent⟩
      have wasCurrent :=
        (ran.moves.lookup isCurrent).resolve_right (Nat.ne_of_lt isEarlier)
      exact ⟨wasCurrent, isOther wasCurrent⟩
  refine ⟨delivering.kept.step ran, ?_, ?_⟩
  · intro flow isLate
    rw [framed.queue]
    apply unstarted
    rw [← length_storedAfter before item]
    rcases isStored with same | ⟨endpoint, isStarted⟩
    · exact same ▸ isLate
    · rw [isStarted, List.length_append] at isLate
      exact (Nat.le_add_right _ _).trans isLate
  · intro flow endpoint tcpReadBuffer isIn
    rcases isStored with same | ⟨opened, isStarted⟩
    · exact isOld (same ▸ isIn)
    · rw [isStarted] at isIn
      rcases Nat.lt_or_ge flow (before.storedAfter item).length with
        isEarlier | isLate
      · rw [List.getElem?_append_left isEarlier] at isIn
        exact isOld isIn
      · rw [List.getElem?_append_right isLate,
          List.getElem?_singleton] at isIn
        split at isIn
        · cases isIn
          obtain ⟨noContents, noFrames, noneQueued⟩ :=
            unstarted ((length_storedAfter before item) ▸ isLate)
          refine ⟨[], [], noContents, ?_, fun _ => ⟨?_, .nil _⟩⟩
          · rw [noFrames, framesOf_nil]
            rfl
          · rw [framed.queue]
            exact noneQueued.symm
        · cases isIn

end Ran

/-- What comes back for a flow waits behind what came back before. -/
theorem Delivering.arrived
    {events : List Event}
    {event : Event}
    (delivering : Delivering events before)
    (kept : Kept after)
    (sameMode : after.mode = before.mode)
    (sameConnections : after.connections = before.connections)
    (sameStored : after.stored = before.stored)
    (items : List Item)
    (isQueue : after.queue = before.queue ++ items)
    (isContent :
      ∀ flow,
        (event.content? flow).toList = items.filterMap (Item.content? flow))
    (isStarted :
      ∀ flow, before.stored.length ≤ flow → event.content? flow = none)
    (isSilent :
      ∀ flow, event.outputs.filterMap (Output.frame? flow) = []) :
    Delivering (events ++ [event]) after := by
  refine ⟨kept, ?_, ?_⟩
  · intro flow isLate
    rw [sameStored] at isLate
    obtain ⟨noContents, noFrames, noneQueued⟩ :=
      delivering.unstarted flow isLate
    rw [contents_snoc, handedUp_snoc, isQueue, List.filterMap_append,
      ← isContent, isStarted flow isLate, isSilent, noContents, noFrames,
      noneQueued]
    exact ⟨rfl, rfl, rfl⟩
  · intro flow endpoint tcpReadBuffer isIn
    rw [sameStored] at isIn
    obtain ⟨processed, waiting, isContents, isHandedUp, current⟩ :=
      delivering.started flow endpoint tcpReadBuffer isIn
    refine
      ⟨processed, waiting ++ (event.content? flow).toList, ?_, ?_, ?_⟩
    · rw [contents_snoc, isContents, List.append_assoc]
    · rw [handedUp_snoc, isSilent, isHandedUp, sameMode, List.append_nil]
    · intro isCurrent
      rw [sameConnections] at isCurrent
      obtain ⟨isWaiting, leftover⟩ := current isCurrent
      rw [sameMode, isQueue, List.filterMap_append, ← isContent, isWaiting]
      exact ⟨rfl, leftover⟩

theorem Delivering.step
    {events : List Event}
    {event : Event}
    (delivering : Delivering events before)
    (step : Step foundation before event after) :
    Delivering (events ++ [event]) after := by
  have kept := delivering.kept.step step
  have none_silent (flow : FlowId) :
      ([] : List Output).filterMap (Output.frame? flow) = [] :=
    rfl
  cases step with
  | send =>
      exact delivering.arrived kept rfl rfl rfl [.send _ _ _] rfl
        (fun _ => rfl) (fun _ _ => rfl) none_silent
  | call isCall =>
      refine delivering.arrived kept rfl rfl rfl [_] rfl
        (fun _ => ?_) (fun _ _ => rfl) none_silent
      rcases isCall with rfl | rfl | rfl <;> rfl
  | ran isQueue =>
      exact delivering.ran isQueue
  | @received other state content isComplete error isListed isOut =>
      have sameStored :
          (before.receiveReturned other).stored = before.stored :=
        stored_modifyFlow fun _ => rfl
      refine delivering.arrived kept rfl rfl sameStored
        [.received other content isComplete error] rfl (fun flow => ?_)
        (fun flow isLate => ?_) none_silent
      · by_cases same : other = flow <;>
          simp [Event.content?, Item.content?, same]
      · refine if_neg ?_
        rintro rfl
        rw [stored, List.length_map] at isLate
        rw [List.getElem?_eq_none isLate] at isListed
        cases isListed
  | @receivedLate other state isListed isOut isGone =>
      have sameStored :
          (before.receiveReturned other).stored = before.stored :=
        stored_modifyFlow fun _ => rfl
      exact delivering.arrived kept rfl rfl sameStored []
        (List.append_nil _).symm (fun _ => rfl) (fun _ _ => rfl) none_silent
  | contentProcessed =>
      exact delivering.arrived kept rfl rfl rfl [.contentProcessed _ _ _] rfl
        (fun _ => rfl) (fun _ _ => rfl) none_silent
  | contentProcessedLate =>
      exact delivering.arrived kept rfl rfl rfl []
        (List.append_nil _).symm (fun _ => rfl) (fun _ _ => rfl)
        (fun _ => rfl)
  | stateUpdate =>
      exact delivering.arrived kept rfl rfl rfl [.stateUpdate _ _] rfl
        (fun _ => rfl) (fun _ _ => rfl) none_silent

theorem Delivering.of_execution
    {mode : TransportKind}
    {events : List Event}
    (execution : Execution (Step foundation) (.new mode) events transport) :
    Delivering events transport :=
  execution.invariant Delivering (.new mode) fun _ holds step =>
    holds.step step

/--
What is handed up from a flow are the first frames of what its receives
brought, in order and under the endpoint that the flow was opened for.  A flow
that is still in use has handed up all of them, once no receive waits.
-/
theorem flow_delivers_in_order
    {mode : TransportKind}
    {events : List Event}
    (execution : Execution (Step foundation) (.new mode) events transport) :
    (∀ flow,
      transport.flows[flow]? = none →
      contents events flow = [] ∧ handedUp events flow = []) ∧
    ∀ flow state,
      transport.flows[flow]? = some state →
      handedUp events flow <+:
          (framesOf transport.mode (contents events flow)).map
            (Prod.mk state.endpoint) ∧
        (state.cancelled = false →
          (∀ item ∈ transport.queue, item.receivedOn ≠ some flow) →
          handedUp events flow =
            (framesOf transport.mode (contents events flow)).map
              (Prod.mk state.endpoint)) := by
  have delivering := Delivering.of_execution execution
  constructor
  · intro flow unstarted
    have isLate : transport.stored.length ≤ flow := by
      rw [stored, List.length_map]
      exact List.getElem?_eq_none_iff.mp unstarted
    obtain ⟨noContents, noFrames, _⟩ := delivering.unstarted flow isLate
    exact ⟨noContents, noFrames⟩
  · intro flow state isListed
    have isStored : transport.stored[flow]? = some (entry state) := by
      rw [stored, List.getElem?_map, isListed]
      rfl
    obtain ⟨processed, waiting, isContents, isHandedUp, current⟩ :=
      delivering.started flow _ _ isStored
    constructor
    · rw [isHandedUp, isContents]
      exact (framesOf_extends _ processed waiting).map _
    · intro notCancelled noneWaits
      have isStarted :
          transport.table.started[flow]? = some (state.endpoint, false) := by
        rw [table, List.getElem?_map, isListed]
        exact congrArg (fun cancelled => some (state.endpoint, cancelled))
          notCancelled
      obtain ⟨isWaiting, _⟩ := current (delivering.kept.sound.current isStarted)
      have noneQueued :
          transport.queue.filterMap (Item.content? flow) = [] := by
        refine List.filterMap_eq_nil_iff.mpr fun item member => ?_
        have notHere := noneWaits item member
        cases item with
        | received other content isComplete error =>
            exact if_neg fun same => notHere (congrArg some same)
        | _ =>
            rfl
      rw [isHandedUp, isContents, isWaiting, noneQueued, List.append_nil]

theorem flow_delivers_in_order_example :
    handedUp
        [.send [1] peerEndpoint,
          .ran (.send 0 [1] peerEndpoint) [.transmit 0 0 [1]],
          .received 0 (some []) false none,
          .ran (.received 0 (some []) false none) [],
          .received 0 (some [7]) true none,
          .ran (.received 0 (some [7]) true none)
            [.frame 0 peerEndpoint [7]]]
        0 =
      [(peerEndpoint, [7])] := by
  have empty :
      Step PlainFoundation.foundation
        { peerOpen with
          queue := [.received 0 (some []) false none]
          flows := [⟨peerEndpoint, [], 0, false⟩] }
        (.ran (.received 0 (some []) false none) []) peerOpen :=
    .ran rfl
  have filled :
      Step PlainFoundation.foundation
        { peerOpen with
          queue := [.received 0 (some [7]) true none]
          flows := [⟨peerEndpoint, [], 0, false⟩] }
        (.ran (.received 0 (some [7]) true none)
          [.frame 0 peerEndpoint [7]])
        peerOpen :=
    .ran rfl
  have execution :=
    (((peerOpen_execution.snoc (.received rfl Nat.zero_lt_one)).snoc
      empty).snoc (.received rfl Nat.zero_lt_one)).snoc filled
  exact ((flow_delivers_in_order execution).2 0 _ rfl).2 rfl
    (fun _ member => absurd member List.not_mem_nil)

end Reading

end NetworkTransport

end HushWire.PacketTunnel
