import HushWire.Library.Execution
import HushWire.Library.GenerationTable
import HushWire.NetworkTransport
import HushWire.PlainFoundation
import Mathlib.Logic.Relation

namespace HushWire.PacketTunnel

/-!
# The flows of the transport

The flows form a table of current objects: a flow is the one of its endpoint
until it is cancelled, and no cancelled flow is one again.  Everything a flow
hands up it hands up while it is in the table, so that nothing comes from a
flow after the transport was stopped, reset or rebound.
-/

namespace NetworkTransport

variable
  {foundation : Foundation}
  {transport before after : NetworkTransport}
  {flow : FlowId}

/-- What of a flow the table of current flows knows. -/
def identity (state : Flow) : Endpoint × Bool :=
  (state.endpoint, state.cancelled)

/-- The flows as current objects of their endpoints. -/
def table (transport : NetworkTransport) : GenerationTable Endpoint where
  current := transport.connections
  started := transport.flows.map identity

theorem current_eq_some_iff {state : Flow} :
    transport.current flow = some state ↔
      transport.flows[flow]? = some state ∧
        transport.connections.lookup state.endpoint = some flow := by
  simp [current, Option.filter_eq_some_iff]

section Table

/-- A view of the elements follows when one of them is changed. -/
theorem map_modify
    {Element View : Type}
    {view : Element → View}
    {update : Element → Element}
    {change : View → View}
    (follows : ∀ element, view (update element) = change (view element))
    (elements : List Element)
    (index : Nat) :
    (elements.modify index update).map view =
      (elements.map view).modify index change := by
  refine List.ext_getElem? fun other => ?_
  rw [List.getElem?_map, List.getElem?_modify, List.getElem?_modify,
    List.getElem?_map]
  cases elements[other]? with
  | none =>
      rfl
  | some element =>
      by_cases same : index = other
      · simp [same, follows]
      · simp [same]

/-- Changing what else a flow knows leaves the table alone. -/
theorem table_modifyFlow
    {update : Flow → Flow}
    (keeps : ∀ state, identity (update state) = identity state) :
    (transport.modifyFlow flow update).table = transport.table := by
  refine congrArg (GenerationTable.mk transport.connections) ?_
  have follows := @map_modify Flow _ identity update id keeps
  exact (follows transport.flows flow).trans (List.modify_id _ _)

/-- Cancelling a flow retires it. -/
theorem map_cancel (flows : List Flow) (flow : FlowId) :
    (cancel flows flow).map identity =
      GenerationTable.retire (flows.map identity) flow := by
  have follows (state : Flow) :
      identity { state with cancelled := true } =
        ((identity state).1, true) :=
    rfl
  exact map_modify follows flows flow

theorem table_resetConnections :
    transport.resetConnections.table = transport.table.clear := by
  have commutes (objects : List FlowId) (flows : List Flow) :
      (objects.foldl cancel flows).map identity =
        objects.foldl GenerationTable.retire (flows.map identity) := by
    induction objects generalizing flows with
    | nil =>
        rfl
    | cons object later inductionHypothesis =>
        rw [List.foldl_cons, List.foldl_cons, inductionHypothesis, map_cancel]
  exact congrArg (GenerationTable.mk ∅) (commutes _ _)

theorem table_receiveNext :
    (transport.receiveNext flow).table = transport.table := by
  unfold receiveNext
  split
  · exact table_modifyFlow fun _ => rfl
  · rfl

end Table

/-- What a step may do to the table of flows. -/
inductive Moves (before after : NetworkTransport) : Prop where
  | same :
      after.table = before.table →
      after.running = before.running →
      Moves before after
  | started
      {endpoint : Endpoint} :
      before.running = true →
      before.connections.lookup endpoint = none →
      after.table = before.table.start endpoint →
      after.running = before.running →
      Moves before after
  | removed
      {endpoint : Endpoint}
      {flow : FlowId} :
      before.connections.lookup endpoint = some flow →
      after.table = before.table.remove endpoint flow →
      after.running = before.running →
      Moves before after
  | cleared :
      before.running = true →
      after.table = before.table.clear →
      Moves before after

namespace Moves

/-- Every move of the table is one that a table of current objects makes. -/
theorem tableStep (moves : Moves before after) :
    Relation.ReflGen GenerationTable.Step before.table after.table := by
  cases moves with
  | same sameTable _ =>
      rw [sameTable]
  | started _ absent isStarted _ =>
      rw [isStarted]
      exact .single (.start absent)
  | removed isCurrent isRemoved _ =>
      rw [isRemoved]
      exact .single (.remove isCurrent)
  | cleared _ isCleared =>
      rw [isCleared]
      exact .single .clear

theorem sound
    (moves : Moves before after)
    (sound : before.table.Sound) :
    after.table.Sound := by
  rcases (Relation.reflGen_iff ..).mp moves.tableStep with same | step
  · exact same ▸ sound
  · exact sound.step step

theorem length_le (moves : Moves before after) :
    before.flows.length ≤ after.flows.length := by
  have lengths :
      before.table.started.length ≤ after.table.started.length := by
    rcases (Relation.reflGen_iff ..).mp moves.tableStep with same | step
    · rw [same]
    · exact step.length_le
  simpa [table] using lengths

/-- Flows that are gone stay gone. -/
theorem closed
    (moves : Moves before after)
    {count : Nat}
    (closed : before.table.Closed count)
    (early : count ≤ before.flows.length) :
    after.table.Closed count := by
  rcases (Relation.reflGen_iff ..).mp moves.tableStep with same | step
  · exact same ▸ closed
  · exact closed.step (by simpa [table] using early) step

/-- A transport that stopped has no flows, and gets none. -/
theorem stopped
    (moves : Moves before after)
    (empty : before.running = false → before.connections = ∅)
    (stopped : after.running = false) :
    after.connections = ∅ := by
  cases moves with
  | same sameTable sameRunning =>
      rw [sameRunning] at stopped
      exact (congrArg GenerationTable.current sameTable).trans
        (empty stopped)
  | started running _ _ sameRunning =>
      rw [sameRunning, running] at stopped
      cases stopped
  | removed isCurrent _ sameRunning =>
      rw [sameRunning] at stopped
      rw [empty stopped, AList.lookup_empty] at isCurrent
      cases isCurrent
  | cleared _ isCleared =>
      exact congrArg GenerationTable.current isCleared

/-- What leaves the table alone, before or after, does not matter. -/
theorem between
    {first last : NetworkTransport}
    (moves : Moves first last)
    (sameTable : first.table = before.table)
    (sameRunning : first.running = before.running)
    (lastTable : after.table = last.table)
    (lastRunning : after.running = last.running) :
    Moves before after := by
  have sameCurrent : first.connections = before.connections :=
    congrArg GenerationTable.current sameTable
  cases moves with
  | same isSame isRunning =>
      exact .same (lastTable.trans (isSame.trans sameTable))
        (lastRunning.trans (isRunning.trans sameRunning))
  | started running absent isStarted isRunning =>
      exact .started (sameRunning ▸ running) (sameCurrent ▸ absent)
        (lastTable.trans (sameTable ▸ isStarted))
        (lastRunning.trans (isRunning.trans sameRunning))
  | removed isCurrent isRemoved isRunning =>
      exact .removed (sameCurrent ▸ isCurrent)
        (lastTable.trans (sameTable ▸ isRemoved))
        (lastRunning.trans (isRunning.trans sameRunning))
  | cleared running isCleared =>
      exact .cleared (sameRunning ▸ running)
        (lastTable.trans (sameTable ▸ isCleared))

end Moves

section Blocks

theorem remove_moves : Moves transport (transport.remove flow) := by
  unfold remove
  cases isCurrent : transport.current flow with
  | none =>
      exact .same rfl rfl
  | some state =>
      refine .removed (current_eq_some_iff.mp isCurrent).2 ?_ rfl
      exact congrArg (GenerationTable.mk _) (map_cancel _ _)

theorem connectionFor_moves
    (running : transport.running = true)
    (endpoint : Endpoint) :
    Moves transport (transport.connectionFor endpoint).2 := by
  unfold connectionFor
  cases absent : transport.connections.lookup endpoint with
  | some existing =>
      exact .same rfl rfl
  | none =>
      refine .started running absent ?_ ?_
      · dsimp only
        rw [table_receiveNext, table, table, GenerationTable.start,
          List.map_append, List.length_map]
        rfl
      · dsimp only
        unfold receiveNext
        split <;> rfl

theorem resetConnections_moves
    (running : transport.running = true) :
    Moves transport transport.resetConnections :=
  .cleared running table_resetConnections

theorem runSend_moves
    (id : SendId)
    (frame : Bytes)
    (endpoint : Endpoint) :
    Moves transport (transport.runSend foundation id frame endpoint).2 := by
  unfold runSend
  split
  · exact .same rfl rfl
  next notStopped =>
    split
    · exact .same rfl rfl
    · split
      · exact .same rfl rfl
      · have running : transport.running = true :=
          Bool.not_eq_false _ |>.mp notStopped
        exact (connectionFor_moves running endpoint).between rfl rfl rfl rfl

theorem runReceived_moves
    (content : Option Bytes)
    (isComplete : Bool)
    (error : Option String) :
    Moves transport
      (transport.runReceived foundation flow content isComplete error).2 := by
  unfold runReceived
  split
  next state running isCurrent =>
    obtain ⟨frames, tcpReadBuffer⟩ :=
      deliver transport.mode state.tcpReadBuffer content
    have sameTable :
        (transport.modifyFlow flow fun state =>
          { state with tcpReadBuffer }).table = transport.table :=
      table_modifyFlow fun _ => rfl
    cases error with
    | some error =>
        exact remove_moves.between sameTable rfl rfl rfl
    | none =>
        dsimp only
        split
        · exact remove_moves.between sameTable rfl rfl rfl
        · refine .same (table_receiveNext.trans sameTable) ?_
          unfold receiveNext
          split <;> rfl
  · exact .same rfl rfl

/-- What a block does to the table of flows. -/
theorem run_moves (item : Item) :
    Moves transport (transport.run foundation item).2 := by
  cases item with
  | send id frame endpoint =>
      exact runSend_moves id frame endpoint
  | received flow content isComplete error =>
      exact runReceived_moves content isComplete error
  | rebindUDP =>
      rw [run]
      split
      next mayReset =>
        exact resetConnections_moves mayReset.1
      · exact .same rfl rfl
  | reset =>
      rw [run]
      split
      next running =>
        exact resetConnections_moves running
      · exact .same rfl rfl
  | stop =>
      rw [run]
      split
      next running =>
        exact .cleared running table_resetConnections
      · exact .same rfl rfl
  | contentProcessed flow id error =>
      rw [run]
      unfold runContentProcessed
      split
      · exact remove_moves
      · exact .same rfl rfl
  | stateUpdate flow update =>
      rw [run]
      unfold runStateUpdate
      split
      · exact remove_moves
      · exact .same rfl rfl
      · exact remove_moves
      · exact .same rfl rfl

end Blocks

/-- What a step does to the table of flows. -/
theorem Step.moves
    {event : Event}
    (step : Step foundation before event after) :
    Moves before after := by
  cases step with
  | @ran item rest isQueue =>
      have moves :
          Moves { before with queue := rest }
            (run foundation { before with queue := rest } item).2 :=
        run_moves item
      exact moves.between rfl rfl rfl rfl
  | received | receivedLate =>
      refine .same ?_ rfl
      exact @table_modifyFlow before _
        (fun state => { state with receives := state.receives - 1 })
        fun _ => rfl
  | _ =>
      exact .same rfl rfl

/-- The calls of `receive` on a flow that have not come back. -/
def owed (transport : NetworkTransport) (flow : FlowId) : Nat :=
  transport.flows[flow]?.elim 0 Flow.receives

/-- The flow whose receive came back with a block. -/
def Item.receivedOn : Item → Option FlowId
  | .received flow _ _ _ => some flow
  | _ => none

/-- The receives of a flow that are out, or that came back and wait. -/
def pendingReceives (transport : NetworkTransport) (flow : FlowId) : Nat :=
  transport.owed flow +
    transport.queue.countP fun item => item.receivedOn = some flow

section Owed

variable {other : FlowId}

theorem owed_modifyFlow
    {update : Flow → Flow}
    (keeps : ∀ state, (update state).receives = state.receives) :
    (transport.modifyFlow other update).owed flow = transport.owed flow := by
  rw [owed, owed, modifyFlow, List.getElem?_modify]
  cases transport.flows[flow]? with
  | none =>
      rfl
  | some state =>
      by_cases same : other = flow <;> simp [same, keeps]

theorem owed_remove :
    (transport.remove other).owed flow = transport.owed flow := by
  unfold remove
  cases transport.current other with
  | none =>
      rfl
  | some state =>
      exact @owed_modifyFlow transport flow other
        (fun state => { state with cancelled := true }) fun _ => rfl

theorem owed_resetConnections :
    transport.resetConnections.owed flow = transport.owed flow := by
  have same (objects : List FlowId) (flows : List Flow) :
      ((objects.foldl cancel flows)[flow]?.elim 0 Flow.receives) =
        flows[flow]?.elim 0 Flow.receives := by
    induction objects generalizing flows with
    | nil =>
        rfl
    | cons object later inductionHypothesis =>
        rw [List.foldl_cons, inductionHypothesis]
        exact @owed_modifyFlow { transport with flows } flow object
          (fun state => { state with cancelled := true }) fun _ => rfl
  exact same _ _

/-- A receive is begun on one flow. -/
theorem owed_receiveNext_le :
    (transport.receiveNext other).owed flow ≤
      transport.owed flow + if other = flow then 1 else 0 := by
  unfold receiveNext
  split
  · rw [owed, owed, modifyFlow, List.getElem?_modify]
    cases transport.flows[flow]? with
    | none =>
        exact Nat.zero_le _
    | some state =>
        by_cases same : other = flow <;> simp [same]
  · exact Nat.le_add_right _ _

/-- A receive that comes back is no longer out. -/
theorem owed_receiveReturned :
    (transport.receiveReturned other).owed flow =
      transport.owed flow - if other = flow then 1 else 0 := by
  rw [owed, owed, receiveReturned, modifyFlow, List.getElem?_modify]
  cases transport.flows[flow]? with
  | none =>
      exact (Nat.zero_sub _).symm
  | some state =>
      by_cases same : other = flow <;> simp [same]

/-- One more receive is out only on a flow that was just started. -/
theorem owed_connectionFor (endpoint : Endpoint) :
    (transport.connectionFor endpoint).2.owed flow ≤ transport.owed flow ∨
      (flow = transport.flows.length ∧
        flow < (transport.connectionFor endpoint).2.flows.length ∧
        (transport.connectionFor endpoint).2.owed flow ≤ 1) := by
  unfold connectionFor
  cases transport.connections.lookup endpoint with
  | some existing =>
      exact .inl (Nat.le_refl _)
  | none =>
      dsimp only
      refine (Nat.lt_trichotomy flow transport.flows.length).elim
        (fun isOld => .inl ?_) fun notOld => ?_
      · refine owed_receiveNext_le.trans ?_
        rw [if_neg (Nat.ne_of_gt isOld), Nat.add_zero, owed, owed,
          List.getElem?_append_left isOld]
      · rcases notOld with rfl | isLate
        · refine .inr ⟨rfl, ?_, ?_⟩
          · unfold receiveNext
            split <;> simp [modifyFlow]
          · refine owed_receiveNext_le.trans ?_
            simp [owed]
        · refine .inl (owed_receiveNext_le.trans ?_)
          rw [if_neg (Nat.ne_of_lt isLate), Nat.add_zero, owed,
            List.getElem?_eq_none
              (by rw [List.length_append]; exact isLate)]
          exact Nat.zero_le _

end Owed

section Waiting

/-- What a block leaves alone. -/
structure Framed (before after : NetworkTransport) : Prop where
  mode : after.mode = before.mode
  queue : after.queue = before.queue
  sendCount : after.sendCount = before.sendCount

theorem Framed.trans
    {middle : NetworkTransport}
    (first : Framed before middle)
    (second : Framed middle after) :
    Framed before after where
  mode := second.mode.trans first.mode
  queue := second.queue.trans first.queue
  sendCount := second.sendCount.trans first.sendCount

theorem remove_framed : Framed transport (transport.remove flow) := by
  unfold remove
  split <;> exact ⟨rfl, rfl, rfl⟩

theorem receiveNext_framed : Framed transport (transport.receiveNext flow) := by
  unfold receiveNext
  split <;> exact ⟨rfl, rfl, rfl⟩

theorem connectionFor_framed (endpoint : Endpoint) :
    Framed transport (transport.connectionFor endpoint).2 := by
  unfold connectionFor
  split
  · exact ⟨rfl, rfl, rfl⟩
  · obtain ⟨mode, queue, sendCount⟩ := @receiveNext_framed
      { transport with
        connections :=
          transport.connections.insert endpoint transport.flows.length
        flows := transport.flows ++ [⟨endpoint, [], 0, false⟩] }
      transport.flows.length
    exact ⟨mode, queue, sendCount⟩

/-- A block neither adds blocks nor calls `send`. -/
theorem run_framed (item : Item) :
    Framed transport (transport.run foundation item).2 := by
  cases item with
  | send id frame endpoint =>
      rw [run]
      unfold runSend
      split
      · exact ⟨rfl, rfl, rfl⟩
      · split
        · exact ⟨rfl, rfl, rfl⟩
        · split
          · exact ⟨rfl, rfl, rfl⟩
          · exact (connectionFor_framed endpoint).trans ⟨rfl, rfl, rfl⟩
  | received flow content isComplete error =>
      rw [run]
      unfold runReceived
      split
      next state running isCurrent =>
        obtain ⟨frames, tcpReadBuffer⟩ :=
          deliver transport.mode state.tcpReadBuffer content
        have delivered :
            Framed transport
              (transport.modifyFlow flow fun state =>
                { state with tcpReadBuffer }) :=
          ⟨rfl, rfl, rfl⟩
        cases error with
        | some error =>
            exact delivered.trans remove_framed
        | none =>
            dsimp only
            split
            · exact delivered.trans remove_framed
            · exact delivered.trans receiveNext_framed
      · exact ⟨rfl, rfl, rfl⟩
  | rebindUDP | reset | stop =>
      rw [run]
      split <;> exact ⟨rfl, rfl, rfl⟩
  | contentProcessed flow id error =>
      rw [run]
      unfold runContentProcessed
      split
      · exact remove_framed
      · exact ⟨rfl, rfl, rfl⟩
  | stateUpdate flow update =>
      rw [run]
      unfold runStateUpdate
      split
      · exact remove_framed
      · exact ⟨rfl, rfl, rfl⟩
      · exact remove_framed
      · exact ⟨rfl, rfl, rfl⟩

/--
The block of a receive begins the next one, and a block of `send` the first.
-/
theorem run_owed (item : Item) :
    (transport.run foundation item).2.owed flow ≤
        transport.owed flow +
          (if item.receivedOn = some flow then 1 else 0) ∨
      (flow = transport.flows.length ∧
        flow < (transport.run foundation item).2.flows.length ∧
        (transport.run foundation item).2.owed flow ≤ 1) := by
  have same
      {next : NetworkTransport}
      (isSame : next.owed flow = transport.owed flow)
      (extra : Nat) :
      next.owed flow ≤ transport.owed flow + extra :=
    isSame.le.trans (Nat.le_add_right _ _)
  cases item with
  | send id frame endpoint =>
      rw [run]
      unfold runSend
      split
      · exact .inl (same rfl _)
      · split
        · exact .inl (same rfl _)
        · split
          · exact .inl (same rfl _)
          · rcases @owed_connectionFor transport flow endpoint with
              notMore | isFirst
            · exact .inl (notMore.trans (Nat.le_add_right _ _))
            · exact .inr isFirst
  | received other content isComplete error =>
      refine .inl ?_
      rw [run]
      unfold runReceived
      split
      next state running isCurrent =>
        obtain ⟨frames, tcpReadBuffer⟩ :=
          deliver transport.mode state.tcpReadBuffer content
        have sameOwed :
            (transport.modifyFlow other fun state =>
              { state with tcpReadBuffer }).owed flow =
                transport.owed flow :=
          owed_modifyFlow fun _ => rfl
        cases error with
        | some error =>
            exact same (owed_remove.trans sameOwed) _
        | none =>
            dsimp only
            split
            · exact same (owed_remove.trans sameOwed) _
            · refine owed_receiveNext_le.trans ?_
              rw [sameOwed]
              simp [Item.receivedOn]
      · exact same rfl _
  | rebindUDP | reset | stop =>
      refine .inl ?_
      rw [run]
      split
      · exact same owed_resetConnections _
      · exact same rfl _
  | contentProcessed other id error =>
      refine .inl ?_
      rw [run]
      unfold runContentProcessed
      split
      · exact same owed_remove _
      · exact same rfl _
  | stateUpdate other update =>
      refine .inl ?_
      rw [run]
      unfold runStateUpdate
      split
      · exact same owed_remove _
      · exact same rfl _
      · exact same owed_remove _
      · exact same rfl _

/-- A receive comes back as a block, and the block begins the next one. -/
theorem Step.pendingReceives
    {event : Event}
    (step : Step foundation before event after)
    (flow : FlowId) :
    after.pendingReceives flow ≤ before.pendingReceives flow ∨
      (flow = before.flows.length ∧
        flow < after.flows.length ∧
        after.pendingReceives flow ≤ before.pendingReceives flow + 1) := by
  have enqueued (item : Item) (other : NetworkTransport) :
      (other.enqueue item).pendingReceives flow =
        other.pendingReceives flow +
          if item.receivedOn = some flow then 1 else 0 := by
    simp only [NetworkTransport.pendingReceives, enqueue, owed,
      List.countP_append, List.countP_singleton, decide_eq_true_eq,
      Nat.add_assoc]
  have waits {other : FlowId} {state : Flow}
      (stored : before.flows[other]? = some state)
      (isOut : 0 < state.receives) :
      (before.receiveReturned other).owed flow +
          (if other = flow then 1 else 0) =
        before.owed flow := by
    rw [owed_receiveReturned]
    by_cases same : other = flow
    · subst same
      rw [if_pos rfl, owed, stored]
      exact Nat.sub_add_cancel isOut
    · rw [if_neg same, Nat.sub_zero, Nat.add_zero]
  cases step with
  | send =>
      refine .inl (enqueued (.send _ _ _) before).le
  | call isCall =>
      refine .inl ?_
      rw [enqueued]
      rcases isCall with rfl | rfl | rfl <;> exact Nat.le_refl _
  | @ran item rest isQueue =>
      have isSum :
          before.pendingReceives flow =
            before.owed flow +
                (if item.receivedOn = some flow then 1 else 0) +
              rest.countP fun item => item.receivedOn = some flow := by
        simp only [NetworkTransport.pendingReceives, isQueue,
          List.countP_cons, decide_eq_true_eq]
        omega
      have isOwed : ({ before with queue := rest } : NetworkTransport).owed
          flow = before.owed flow := rfl
      have ran :=
        @run_owed foundation { before with queue := rest } flow item
      rw [isOwed] at ran
      rw [isSum, NetworkTransport.pendingReceives, (run_framed item).queue]
      rcases ran with notMore | ⟨isNew, isListed, isFirst⟩
      · exact .inl (Nat.add_le_add_right notMore _)
      · refine .inr ⟨isNew, isListed, ?_⟩
        change _ + rest.countP _ ≤ _
        omega
  | @received other state content isComplete error stored isOut =>
      refine .inl ?_
      rw [enqueued]
      have isSame := waits stored isOut
      simp only [NetworkTransport.pendingReceives, Item.receivedOn,
        Option.some.injEq]
      change _ + before.queue.countP _ + _ ≤ _
      omega
  | @receivedLate other state stored isOut isGone =>
      refine .inl ?_
      have isSame := waits stored isOut
      simp only [NetworkTransport.pendingReceives]
      change _ + before.queue.countP _ ≤ _
      omega
  | contentProcessed =>
      exact
        .inl (enqueued (.contentProcessed _ _ _) (before.sendReturned _ _)).le
  | contentProcessedLate =>
      exact .inl (Nat.le_refl _)
  | stateUpdate =>
      exact .inl (enqueued (.stateUpdate _ _) before).le

end Waiting

/-- What holds of the flows in every state. -/
structure Kept (transport : NetworkTransport) : Prop where
  sound : transport.table.Sound
  stopped : transport.running = false → transport.connections = ∅
  single : ∀ flow, transport.pendingReceives flow ≤ 1
  unstarted :
    ∀ flow,
      transport.flows.length ≤ flow →
      transport.pendingReceives flow = 0

theorem Kept.new (mode : TransportKind) : Kept (.new mode) where
  sound := .empty
  stopped := fun isStopped => by cases isStopped
  single := fun flow => Nat.zero_le 1
  unstarted := fun flow _ => rfl

theorem Kept.step
    {event : Event}
    (kept : Kept before)
    (step : Step foundation before event after) :
    Kept after where
  sound := step.moves.sound kept.sound
  stopped := step.moves.stopped kept.stopped
  single := by
    intro flow
    rcases step.pendingReceives flow with notMore | ⟨isNew, _, oneMore⟩
    · exact notMore.trans (kept.single flow)
    · rw [kept.unstarted flow isNew.ge] at oneMore
      exact oneMore
  unstarted := by
    intro flow isUnstarted
    have wasUnstarted := step.moves.length_le.trans isUnstarted
    rcases step.pendingReceives flow with notMore | ⟨_, isStarted, _⟩
    · rw [kept.unstarted flow wasUnstarted] at notMore
      exact Nat.le_zero.mp notMore
    · exact absurd isStarted (Nat.not_lt.mpr isUnstarted)

theorem Kept.of_execution
    {mode : TransportKind}
    {events : List Event}
    (execution : Execution (Step foundation) (.new mode) events transport) :
    Kept transport :=
  execution.preserves Kept (.new mode) fun _ kept step => kept.step step

/--
In every state, the flows that were not cancelled are those in the table, one
for each endpoint; none is left once the transport has stopped.  On each flow
at most one receive is out or waits to be looked at.
-/
theorem flows_current_or_cancelled
    {mode : TransportKind}
    {events : List Event}
    (execution : Execution (Step foundation) (.new mode) events transport) :
    (∀ flow state,
      transport.flows[flow]? = some state →
      (state.cancelled = false ↔
        transport.connections.lookup state.endpoint = some flow)) ∧
    (∀ endpoint flow,
      transport.connections.lookup endpoint = some flow →
      ∃ state,
        transport.flows[flow]? = some state ∧ state.endpoint = endpoint) ∧
    (transport.running = false →
      ∀ state ∈ transport.flows, state.cancelled = true) ∧
    ∀ flow, transport.pendingReceives flow ≤ 1 := by
  have kept := Kept.of_execution execution
  have started
      {flow : FlowId}
      {state : Flow}
      (stored : transport.flows[flow]? = some state) :
      transport.table.started[flow]? =
        some (state.endpoint, state.cancelled) := by
    simp [table, stored, identity]
  have isOpen :
      ∀ flow state,
        transport.flows[flow]? = some state →
        (state.cancelled = false ↔
          transport.connections.lookup state.endpoint = some flow) := by
    intro flow state stored
    constructor
    · intro notCancelled
      exact kept.sound.current (notCancelled ▸ started stored)
    · intro isCurrent
      have isStarted :=
        (started stored).symm.trans (kept.sound.stored isCurrent)
      simpa using isStarted
  refine ⟨isOpen, ?_, ?_, kept.single⟩
  · intro endpoint flow isCurrent
    have isStarted := kept.sound.stored isCurrent
    rw [table, List.getElem?_map, Option.map_eq_some_iff] at isStarted
    obtain ⟨state, stored, isIdentity⟩ := isStarted
    exact ⟨state, stored, congrArg Prod.fst isIdentity⟩
  · intro isStopped state member
    obtain ⟨flow, stored⟩ := List.mem_iff_getElem?.mp member
    rw [← Bool.not_eq_false]
    intro notCancelled
    have isCurrent := (isOpen flow state stored).mp notCancelled
    rw [kept.stopped isStopped, AList.lookup_empty] at isCurrent
    cases isCurrent

/-- A peer's endpoint. -/
def peerEndpoint : Endpoint where
  family := 4
  addressBytes := .replicate 16 10
  port := 51820
  scopeID := 0

/-- The peer's flow is open, and nothing waits. -/
def peerOpen : NetworkTransport where
  mode := .udp
  queue := []
  connections := AList.insert peerEndpoint 0 ∅
  running := true
  flows := [⟨peerEndpoint, [], 1, false⟩]
  sending := [(0, 0)]
  sendCount := 1

theorem peerOpen_execution :
    Execution (Step PlainFoundation.foundation) (.new .udp)
      [.send [1] peerEndpoint,
        .ran (.send 0 [1] peerEndpoint) [.transmit 0 0 [1]]]
      peerOpen := by
  have calls :
      Execution (Step PlainFoundation.foundation) (.new .udp)
        [.send [1] peerEndpoint]
        { NetworkTransport.new .udp with
          queue := [.send 0 [1] peerEndpoint], sendCount := 1 } :=
    .single .send
  exact calls.snoc (.ran rfl)

theorem flows_current_or_cancelled_example :
    peerOpen.connections.lookup peerEndpoint = some 0 :=
  ((flows_current_or_cancelled peerOpen_execution).1 0 _ rfl).mp rfl

/-- An event after which no earlier flow is used. -/
def Event.Fences : Event → Prop
  | .ran .stop _ => True
  | .ran .reset outputs => .returned true ∈ outputs
  | .ran .rebindUDP outputs => .returned true ∈ outputs
  | _ => False

/-- Once flows were given up, none is left. -/
theorem Step.connections_of_fences
    {event : Event}
    (kept : Kept before)
    (step : Step foundation before event after)
    (fences : event.Fences) :
    after.connections = ∅ := by
  cases step with
  | @ran item rest isQueue =>
      cases item with
      | stop =>
          rw [run]
          split
          · rfl
          next isStopped =>
            exact kept.stopped (Bool.not_eq_true _ |>.mp isStopped)
      | rebindUDP | reset =>
          rw [run] at fences ⊢
          split at fences
          next mayReset =>
            rw [if_pos mayReset]
            rfl
          · simp [Event.Fences] at fences
      | _ =>
          cases fences
  | _ =>
      cases fences

/-- Where no flow is left, all flows are gone. -/
theorem Kept.closed_of_empty
    (kept : Kept transport)
    (isEmpty : transport.connections = ∅) :
    transport.table.Closed transport.flows.length := by
  intro flow endpoint isStarted
  have isCurrent := kept.sound.current isStarted
  rw [table, isEmpty, AList.lookup_empty] at isCurrent
  cases isCurrent

/-- An output of a flow. -/
def Output.flow? : Output → Option FlowId
  | .frame flow _ _ => some flow
  | .transmit flow _ _ => some flow
  | _ => none

/-- The flow that a sender gets is in the table. -/
theorem connectionFor_current (endpoint : Endpoint) :
    (transport.connectionFor endpoint).2.connections.lookup endpoint =
      some (transport.connectionFor endpoint).1 := by
  unfold connectionFor
  split
  next existing isCurrent =>
    exact isCurrent
  · dsimp only
    unfold receiveNext
    split <;> exact AList.lookup_insert _

/-- A block has outputs only of flows in the table, and none when stopped. -/
theorem run_flow
    {item : Item}
    {output : Output}
    (member : output ∈ (transport.run foundation item).1)
    (isFlow : output.flow? = some flow) :
    transport.running = true ∧
      ∃ endpoint,
        transport.connections.lookup endpoint = some flow ∨
          (transport.run foundation item).2.connections.lookup endpoint =
            some flow := by
  cases item with
  | send id frame endpoint =>
      rw [run] at member ⊢
      unfold runSend at member ⊢
      split at member
      · rw [List.mem_singleton.mp member] at isFlow
        cases isFlow
      next notStopped =>
        have running : transport.running = true :=
          Bool.not_eq_false _ |>.mp notStopped
        split at member
        · simp only [List.mem_cons, List.not_mem_nil, or_false] at member
          rcases member with rfl | rfl <;> cases isFlow
        next valid =>
          split at member
          · simp only [List.mem_cons, List.not_mem_nil, or_false] at member
            rcases member with rfl | rfl <;> cases isFlow
          next fits =>
            rw [List.mem_singleton.mp member] at isFlow
            cases isFlow
            refine ⟨running, endpoint, .inr ?_⟩
            rw [if_neg notStopped, if_neg valid, if_neg fits]
            exact connectionFor_current endpoint
  | received other content isComplete error =>
      rw [run] at member
      unfold runReceived at member
      split at member
      next state running isCurrent =>
        refine ⟨running, state.endpoint, .inl ?_⟩
        have isStored := (current_eq_some_iff.mp isCurrent).2
        have isFrame
            (inFrames :
              output ∈
                (deliver transport.mode state.tcpReadBuffer content).1.map
                  (Output.frame other state.endpoint)) :
            other = flow := by
          obtain ⟨frame, _, rfl⟩ := List.mem_map.mp inFrames
          exact Option.some.inj isFlow
        have isOther : other = flow := by
          cases error with
          | some error =>
              rcases List.mem_append.mp member with inFrames | inEvents
              · exact isFrame inFrames
              · rw [List.mem_singleton.mp inEvents] at isFlow
                cases isFlow
          | none =>
              dsimp only at member
              split at member
              · rcases List.mem_append.mp member with inFrames | inEvents
                · exact isFrame inFrames
                · rw [List.mem_singleton.mp inEvents] at isFlow
                  cases isFlow
              · exact isFrame member
        rw [← isOther]
        exact isStored
      · cases member
  | rebindUDP | reset | stop =>
      rw [run] at member
      split at member <;>
        simp only [List.mem_cons, List.not_mem_nil, or_false] at member
      all_goals
        rcases member with rfl | rfl <;> cases isFlow
  | contentProcessed other id error =>
      rw [run] at member
      unfold runContentProcessed at member
      split at member <;>
        simp only [List.mem_cons, List.not_mem_nil, or_false] at member
      all_goals
        rcases member with rfl | rfl <;> cases isFlow
  | stateUpdate other update =>
      rw [run] at member
      unfold runStateUpdate at member
      split at member <;>
        simp only [List.mem_cons, List.not_mem_nil, or_false] at member
      all_goals
        rw [member] at isFlow
        cases isFlow

/-- A transport that has stopped stays stopped. -/
theorem Moves.running
    (moves : Moves before after)
    (running : after.running = true) :
    before.running = true := by
  cases moves with
  | same _ sameRunning | started _ _ _ sameRunning | removed _ _ sameRunning =>
      exact sameRunning ▸ running
  | cleared wasRunning _ =>
      exact wasRunning

/-- A step has outputs only of flows that were started late enough. -/
theorem Step.outputs_late
    {event : Event}
    {output : Output}
    {count : Nat}
    (kept : Kept before)
    (closed : before.table.Closed count)
    (early : count ≤ before.flows.length)
    (step : Step foundation before event after)
    (member : output ∈ event.outputs)
    (isFlow : output.flow? = some flow) :
    before.running = true ∧ count ≤ flow := by
  cases step with
  | @ran item rest isQueue =>
      obtain ⟨running, endpoint, isCurrent⟩ := run_flow member isFlow
      refine ⟨running, ?_⟩
      have ran : Step foundation before _ _ := .ran isQueue
      rcases isCurrent with isCurrent | isCurrent
      · exact closed flow endpoint (kept.sound.stored isCurrent)
      · exact ran.moves.closed closed early flow endpoint
          ((kept.step ran).sound.stored isCurrent)
  | contentProcessedLate =>
      rw [Event.outputs, List.mem_singleton] at member
      rw [member] at isFlow
      cases isFlow
  | _ =>
      cases member

/--
Once the transport was stopped, reset or rebound, nothing is received from a
flow that was started before, and nothing is sent on it.  After a stop nothing
is received or sent at all.
-/
theorem no_flow_crosses_fence
    {mode : TransportKind}
    {earlier later : List Event}
    {event : Event}
    (execution : Execution (Step foundation) (.new mode) earlier before)
    (step : Step foundation before event after)
    (fences : event.Fences)
    (afterwards : Execution (Step foundation) after later transport) :
    ∀ output ∈ later.flatMap Event.outputs, ∀ flow,
      output.flow? = some flow →
      (∀ outputs, event ≠ .ran .stop outputs) ∧
        before.flows.length ≤ flow := by
  have kept := Kept.of_execution execution
  have keptAfter := kept.step step
  have notStopped (running : after.running = true) (outputs : List Output) :
      event ≠ .ran .stop outputs := by
    rintro rfl
    cases step with
    | @ran _ rest isQueue =>
        rw [run] at running
        split at running
        · cases running
        next isStopped =>
          exact isStopped running
  have lengths := step.moves.length_le
  have late :=
    afterwards.invariant
      (fun events state =>
        Kept state ∧
          state.table.Closed before.flows.length ∧
          before.flows.length ≤ state.flows.length ∧
          (state.running = true → after.running = true) ∧
          ∀ output ∈ events.flatMap Event.outputs, ∀ flow,
            output.flow? = some flow →
            after.running = true ∧ before.flows.length ≤ flow)
      ⟨keptAfter,
        fun flow endpoint isStarted =>
          lengths.trans
            (keptAfter.closed_of_empty
              (step.connections_of_fences kept fences) flow endpoint
              isStarted),
        lengths, id, fun _ member => absurd member List.not_mem_nil⟩
      (by
        intro events middle event next _ holds taken
        obtain ⟨keptMiddle, closed, early, running, outputs⟩ := holds
        refine ⟨keptMiddle.step taken, taken.moves.closed closed early,
          early.trans taken.moves.length_le,
          fun isRunning => running (taken.moves.running isRunning), ?_⟩
        intro output member flow isFlow
        rw [List.flatMap_append, List.mem_append] at member
        rcases member with before | isLast
        · exact outputs output before flow isFlow
        · rw [List.flatMap_singleton] at isLast
          obtain ⟨isRunning, isLate⟩ :=
            taken.outputs_late keptMiddle closed early isLast isFlow
          exact ⟨running isRunning, isLate⟩)
  intro output member flow isFlow
  obtain ⟨running, isLate⟩ := late.2.2.2.2 output member flow isFlow
  exact ⟨notStopped running, isLate⟩

/--
After a reset of the connections the flow that was open is in no output, while
another one is opened and transmits.
-/
theorem no_flow_crosses_fence_example :
    (∃ later final,
      Execution (Step PlainFoundation.foundation)
          { peerOpen.resetConnections with queue := [] } later final ∧
        .transmit 1 1 [2] ∈ later.flatMap Event.outputs) ∧
      ∀ later final,
        Execution (Step PlainFoundation.foundation)
          { peerOpen.resetConnections with queue := [] } later final →
        ∀ output ∈ later.flatMap Event.outputs, output.flow? ≠ some 0 := by
  constructor
  · have again :
        Execution (Step PlainFoundation.foundation)
          { peerOpen.resetConnections with queue := [] }
          ([.send [2] peerEndpoint] ++
            [.ran (.send 1 [2] peerEndpoint) [.transmit 1 1 [2]]])
          _ :=
      (Execution.single .send).snoc (.ran rfl)
    exact ⟨_, _, again, List.mem_cons_self⟩
  · intro later final afterwards output member isFirst
    have asked := peerOpen_execution.snoc (.call (.inr (.inl rfl)))
    have crossed :=
      no_flow_crosses_fence asked (.ran rfl)
        (List.mem_cons_of_mem _ List.mem_cons_self) afterwards output member
        0 isFirst
    exact absurd crossed.2 (by decide)

end NetworkTransport

end HushWire.PacketTunnel
