import HushWire.PeerEntry
import Mathlib.Logic.Function.Basic

namespace HushWire

open Noise

/-!
# The table of all peers

A manager state is a table of peer entries and every method call is a finite
execution of peer events on that table.  The methods that look across peers
do so through session identifiers only: a session enters the table when no
stored session has its identifier.

A stored session after an event is either the one that just entered or comes
from exactly one slot of the same peer.  All facts about identifiers, nonces
and replay windows follow from this.
-/

variable {snow : Snow}

/-- What a manager keeps of each peer. -/
abbrev PeerTable (snow : Snow) := PeerName → PeerEntry snow

/-- The entries of all peers of a manager. -/
def SessionState.table (state : SessionState snow) : PeerTable snow :=
  state.entry

/-- A session is stored in a slot of a peer. -/
def PeerTable.Holds
    (table : PeerTable snow)
    (peerName : PeerName)
    (slot : Slot)
    (session : Session snow) :
    Prop :=
  (table peerName).slot slot = some session

namespace PeerEvent

/-- The session an event brings into the table, as it was negotiated. -/
def introduced : PeerEvent snow → Option (Session snow)
  | .store session _ _ _ _ => some session
  | .finalize session _ _ => some session
  | _ => none

/-- The session an event brings into the table, as it is first stored. -/
def entered : PeerEvent snow → Option (Session snow)
  | .store session _ _ _ _ => some session
  | .finalize session _ _ =>
      some (session.encrypt .keepalive Auth.keepaliveProbePayload).2
  | _ => none

/--
The slot from which an event takes the session it leaves in `slot`; none if
that session enters with the event.
-/
def origin (entry : PeerEntry snow) : PeerEvent snow → Slot → Option Slot
  | .store _ _ _ _ _, .candidate => none
  | .finalize _ _ _, .active => none
  | .finalize _ _ _, .previous =>
      if entry.session.isSome then some .active else some .previous
  | .promote _ _ _ _, .active => some .candidate
  | .promote _ _ _ _, .previous =>
      if entry.session.isSome then some .active else some .previous
  | _, slot => some slot

/-- What an event does to the session it finds in a slot. -/
def advance : PeerEvent snow → Slot → Session snow → Session snow
  | .encrypt _ msgType payload _, .active, session =>
      (session.encrypt msgType payload).2
  | .decrypt used _ counter ciphertext _, slot, session =>
      if slot = used then
        (session.decrypt session.sessionId counter ciphertext).2
      else
        session
  | .promote _ counter ciphertext _, .candidate, session =>
      (session.decrypt session.sessionId counter ciphertext).2
  | _, _, session => session

@[simp] theorem advance_sessionId
    (event : PeerEvent snow)
    (slot : Slot)
    (session : Session snow) :
    (event.advance slot session).sessionId = session.sessionId := by
  unfold advance
  split <;> try split
  all_goals simp

@[simp] theorem advance_transport
    (event : PeerEvent snow)
    (slot : Slot)
    (session : Session snow) :
    (event.advance slot session).transport = session.transport := by
  unfold advance
  split <;> try split
  all_goals simp

@[simp] theorem advance_createdAt
    (event : PeerEvent snow)
    (slot : Slot)
    (session : Session snow) :
    (event.advance slot session).createdAt = session.createdAt := by
  unfold advance
  split <;> try split
  all_goals simp

theorem entered_eq_some
    {event : PeerEvent snow}
    {session : Session snow}
    (entering : event.entered = some session) :
    ∃ negotiated,
      event.introduced = some negotiated ∧
        session.sessionId = negotiated.sessionId ∧
        session.transport = negotiated.transport ∧
        session.createdAt = negotiated.createdAt ∧
        session.replay = negotiated.replay := by
  cases event <;> simp only [entered, Option.some.injEq, reduceCtorEq]
    at entering
  all_goals
    subst entering
    simp [introduced]

end PeerEvent

/-- After an installation the previous session was active or previous. -/
theorem PeerEntry.install_previous
    {entry : PeerEntry snow}
    {installed session : Session snow}
    (stored : (entry.install installed).slot .previous = some session) :
    ∃ source,
      (if entry.session.isSome then some Slot.active else some .previous) =
          some source ∧
        source ≠ .candidate ∧
        entry.slot source = some session := by
  cases active : entry.session with
  | none =>
      exact ⟨.previous, rfl, by simp, by simpa [install, active] using stored⟩
  | some replaced =>
      exact ⟨.active, rfl, by simp, by simpa [install, active] using stored⟩

namespace PeerStep

variable {entry entry' : PeerEntry snow} {event : PeerEvent snow}

/-- Every session after an event just entered or was stored before. -/
theorem slot_cases
    (step : PeerStep entry event entry')
    {slot : Slot}
    {session : Session snow}
    (stored : entry'.slot slot = some session) :
    (event.origin entry slot = none ∧ event.entered = some session) ∨
      ∃ source earlier,
        event.origin entry slot = some source ∧
          entry.slot source = some earlier ∧
          session = event.advance source earlier := by
  cases step with
  | expire =>
      right
      rw [PeerEntry.slot_setSlot] at stored
      split at stored
      · cases stored
      · exact ⟨slot, session, rfl, stored, rfl⟩
  | expireCached =>
      right
      refine ⟨slot, session, rfl, ?_, rfl⟩
      cases slot <;> simp_all
  | invalidate =>
      cases slot <;> simp [PeerEntry.slot, PeerEntry.empty] at stored
  | forgetCached | lapse | yield | recover | start | retransmit | abandon =>
      exact Or.inr ⟨slot, session, rfl, by cases slot <;> exact stored, rfl⟩
  | store =>
      cases slot with
      | active | previous =>
          exact Or.inr ⟨_, session, rfl, stored, rfl⟩
      | candidate =>
          exact Or.inl ⟨rfl, stored⟩
  | encrypt active =>
      cases slot with
      | active =>
          exact Or.inr ⟨.active, _, rfl, active, (Option.some.inj stored).symm⟩
      | previous | candidate =>
          exact Or.inr ⟨_, session, rfl, stored, rfl⟩
  | decrypt holds =>
      right
      rw [PeerEntry.slot_setSlot] at stored
      split at stored
      case isTrue sameSlot =>
        subst sameSlot
        refine ⟨slot, _, rfl, holds, ?_⟩
        simpa [PeerEvent.advance] using stored.symm
      case isFalse otherSlot =>
        exact ⟨slot, session, rfl, stored,
          by simp [PeerEvent.advance, otherSlot]⟩
  | finalize =>
      cases slot with
      | active =>
          exact Or.inl ⟨rfl, stored⟩
      | previous =>
          obtain ⟨source, isOrigin, _, held⟩ := PeerEntry.install_previous stored
          exact Or.inr ⟨source, session, isOrigin, held, rfl⟩
      | candidate =>
          cases stored
  | promote candidate =>
      cases slot with
      | active =>
          exact Or.inr
            ⟨.candidate, _, rfl, candidate, (Option.some.inj stored).symm⟩
      | previous =>
          obtain ⟨source, isOrigin, notCandidate, held⟩ :=
            PeerEntry.install_previous stored
          refine Or.inr ⟨source, session, isOrigin, held, ?_⟩
          cases source <;> simp_all [PeerEvent.advance]
      | candidate =>
          cases stored

/-- Different slots take their sessions from different places. -/
theorem origin_injective
    (step : PeerStep entry event entry')
    {first second : Slot}
    {firstSession secondSession : Session snow}
    (firstStored : entry'.slot first = some firstSession)
    (secondStored : entry'.slot second = some secondSession)
    (sameOrigin : event.origin entry first = event.origin entry second) :
    first = second := by
  cases step with
  | finalize | promote =>
      cases first <;> cases second <;>
        simp_all [PeerEvent.origin, PeerEntry.slot, PeerEntry.install] <;>
        split at sameOrigin <;>
        simp_all
  | store =>
      cases first <;> cases second <;> simp_all [PeerEvent.origin]
  | _ =>
      simpa [PeerEvent.origin] using sameOrigin

end PeerStep

namespace PeerTable

/-- No stored session has this identifier. -/
def Unused (table : PeerTable snow) (sessionId : SessionId) : Prop :=
  ∀ ⦃peerName slot session⦄,
    table.Holds peerName slot session → session.sessionId ≠ sessionId

/-- Distinct places of the table hold sessions with distinct keys. -/
def DistinctBy
    {α : Type}
    (key : Session snow → α)
    (table : PeerTable snow) :
    Prop :=
  ∀ ⦃firstPeer firstSlot first secondPeer secondSlot second⦄,
    table.Holds firstPeer firstSlot first →
    table.Holds secondPeer secondSlot second →
    key first = key second →
    firstPeer = secondPeer ∧ firstSlot = secondSlot

end PeerTable

/-- One event at one peer; a session enters with an unused identifier. -/
inductive TableStep :
    PeerTable snow → PeerName × PeerEvent snow → PeerTable snow → Prop where
  | intro
      {table : PeerTable snow}
      {peerName : PeerName}
      {event : PeerEvent snow}
      {entry : PeerEntry snow} :
      PeerStep (table peerName) event entry →
      (∀ session,
        event.introduced = some session →
        table.Unused session.sessionId) →
      TableStep table (peerName, event)
        (Function.update table peerName entry)

/--
Stored sessions have keys that were negotiated, and no two places of the table
hold the same keys.
-/
structure KeyInvariant
    (keys : List snow.StatelessTransportState)
    (table : PeerTable snow) :
    Prop where
  negotiated :
    ∀ ⦃peerName slot session⦄,
      table.Holds peerName slot session → session.transport ∈ keys
  distinct : table.DistinctBy Session.transport

/-- The table of all peers after a sequence of events. -/
abbrev TableExecution :
    PeerTable snow → List (PeerName × PeerEvent snow) → PeerTable snow →
      Prop :=
  Execution TableStep

namespace TableStep

variable
  {table table' : PeerTable snow}
  {peerName : PeerName}
  {event : PeerEvent snow}

/-- The peer of the event makes a peer step. -/
theorem peerStep (step : TableStep table (peerName, event) table') :
    PeerStep (table peerName) event (table' peerName) := by
  cases step with
  | intro taken _ =>
      simpa using taken

/-- The entries of other peers do not change. -/
theorem frame
    (step : TableStep table (peerName, event) table')
    {other : PeerName}
    (different : other ≠ peerName) :
    table' other = table other := by
  cases step with
  | intro =>
      simp [different]

/-- An identifier that enters was unused. -/
theorem unused
    (step : TableStep table (peerName, event) table')
    {session : Session snow}
    (introduced : event.introduced = some session) :
    table.Unused session.sessionId := by
  cases step with
  | intro _ fresh =>
      exact fresh session introduced

/-- Where the session that is in a slot after an event was before it. -/
def source
    (table : PeerTable snow)
    (peerName : PeerName)
    (event : PeerEvent snow)
    (queried : PeerName)
    (slot : Slot) :
    Option Slot :=
  if queried = peerName then event.origin (table peerName) slot
  else some slot

/-- Every session after an event just entered or was stored before. -/
theorem holds_cases
    (step : TableStep table (peerName, event) table')
    {queried : PeerName}
    {slot : Slot}
    {session : Session snow}
    (stored : table'.Holds queried slot session) :
    (source table peerName event queried slot = none ∧
        queried = peerName ∧
        event.entered = some session) ∨
      ∃ origin earlier,
        source table peerName event queried slot = some origin ∧
          table.Holds queried origin earlier ∧
          session =
            if queried = peerName then event.advance origin earlier
            else earlier := by
  unfold source
  by_cases isPeer : queried = peerName
  · subst isPeer
    simpa [PeerTable.Holds] using step.peerStep.slot_cases stored
  · refine Or.inr ⟨slot, session, by simp [isPeer], ?_, by simp [isPeer]⟩
    rwa [PeerTable.Holds, step.frame isPeer] at stored

/-- Different slots take their sessions from different places. -/
theorem source_injective
    (step : TableStep table (peerName, event) table')
    {queried : PeerName}
    {first second : Slot}
    {firstSession secondSession : Session snow}
    (firstStored : table'.Holds queried first firstSession)
    (secondStored : table'.Holds queried second secondSession)
    (sameSource :
      source table peerName event queried first =
        source table peerName event queried second) :
    first = second := by
  unfold source at sameSource
  by_cases isPeer : queried = peerName
  · subst isPeer
    exact step.peerStep.origin_injective firstStored secondStored
      (by simpa using sameSource)
  · simpa [isPeer] using sameSource

/-- A key kept by all events stays distinct when a fresh one enters. -/
theorem distinctBy
    {α : Type}
    {key : Session snow → α}
    (step : TableStep table (peerName, event) table')
    (keyKept :
      ∀ (event : PeerEvent snow) slot session,
        key (event.advance slot session) = key session)
    (keyFresh :
      ∀ {session queried slot stored},
        event.entered = some session →
        table.Holds queried slot stored →
        key stored ≠ key session)
    (distinct : table.DistinctBy key) :
    table'.DistinctBy key := by
  have carriedKey {queried origin session earlier}
      (carried :
        session =
          if queried = peerName then event.advance origin earlier
          else earlier) :
      key session = key earlier := by
    rw [carried]
    split
    · exact keyKept event origin earlier
    · rfl
  intro firstPeer firstSlot first secondPeer secondSlot second
    firstHeld secondHeld sameKey
  rcases step.holds_cases firstHeld with
    ⟨firstSource, firstIsPeer, firstEntered⟩ |
    ⟨firstOrigin, firstEarlier, firstSource, firstStored, firstCarried⟩
  · rcases step.holds_cases secondHeld with
      ⟨secondSource, secondIsPeer, _⟩ |
      ⟨_, secondEarlier, _, secondStored, secondCarried⟩
    · subst firstIsPeer secondIsPeer
      exact ⟨rfl, step.source_injective firstHeld secondHeld
        (firstSource.trans secondSource.symm)⟩
    · rw [carriedKey secondCarried] at sameKey
      exact absurd sameKey.symm (keyFresh firstEntered secondStored)
  · rw [carriedKey firstCarried] at sameKey
    rcases step.holds_cases secondHeld with
      ⟨_, _, secondEntered⟩ |
      ⟨secondOrigin, _, secondSource, secondStored, secondCarried⟩
    · exact absurd sameKey (keyFresh secondEntered firstStored)
    · rw [carriedKey secondCarried] at sameKey
      obtain ⟨samePeer, sameOrigin⟩ :=
        distinct firstStored secondStored sameKey
      subst samePeer sameOrigin
      exact ⟨rfl, step.source_injective firstHeld secondHeld
        (firstSource.trans secondSource.symm)⟩

/-- Identifiers stay pairwise distinct. -/
theorem distinctIds
    (step : TableStep table (peerName, event) table')
    (distinct : table.DistinctBy Session.sessionId) :
    table'.DistinctBy Session.sessionId := by
  refine step.distinctBy (fun event => event.advance_sessionId) ?_ distinct
  intro session queried slot stored entering held
  obtain ⟨negotiated, introduced, sameId, _⟩ :=
    PeerEvent.entered_eq_some entering
  rw [sameId]
  exact step.unused introduced held

/-- Keys stay distinct and negotiated when those that enter are fresh. -/
theorem keyInvariant
    {keys : List snow.StatelessTransportState}
    (step : TableStep table (peerName, event) table')
    (invariant : KeyInvariant keys table)
    (fresh :
      ∀ session,
        event.introduced = some session → session.transport ∉ keys) :
    KeyInvariant
      (keys ++ (event.introduced.map Session.transport).toList) table' where
  negotiated := by
    intro queried slot session held
    rw [List.mem_append]
    rcases step.holds_cases held with
      ⟨_, _, entering⟩ | ⟨origin, earlier, _, stored, carried⟩
    · obtain ⟨negotiated, introduced, _, sameTransport, _⟩ :=
        PeerEvent.entered_eq_some entering
      right
      simp [introduced, sameTransport]
    · left
      have sameKey : session.transport = earlier.transport := by
        rw [carried]
        split <;> simp
      rw [sameKey]
      exact invariant.negotiated stored
  distinct := by
    refine step.distinctBy (fun event => event.advance_transport) ?_
      invariant.distinct
    intro session queried slot stored entering held sameKey
    obtain ⟨negotiated, introduced, _, sameTransport, _⟩ :=
      PeerEvent.entered_eq_some entering
    refine fresh negotiated introduced ?_
    rw [← sameTransport, ← sameKey]
    exact invariant.negotiated held

end TableStep

/-- The sessions that a sequence of events brings into the table. -/
def introducedBy (events : List (PeerName × PeerEvent snow)) :
    List (Session snow) :=
  events.filterMap fun event => event.2.introduced

namespace TableExecution

/-- What an execution does to one entry is an execution of its events. -/
theorem peerExecution
    {table table' : PeerTable snow}
    {events : List (PeerName × PeerEvent snow)}
    (execution : TableExecution table events table')
    (peerName : PeerName) :
    PeerExecution (table peerName)
      (events.filterMap fun event =>
        if event.1 = peerName then some event.2 else none)
      (table' peerName) := by
  induction execution with
  | nil =>
      exact .nil
  | @snoc _ _ _ event _ taken inductionHypothesis =>
      obtain ⟨actor, event⟩ := event
      rw [List.filterMap_append]
      by_cases isPeer : actor = peerName
      · subst isPeer
        simpa using inductionHypothesis.snoc taken.peerStep
      · have unchanged := taken.frame (Ne.symm isPeer)
        rw [unchanged]
        simpa [isPeer] using inductionHypothesis

/-- The entry of a peer that no event names does not change. -/
theorem frame
    {table table' : PeerTable snow}
    {events : List (PeerName × PeerEvent snow)}
    (execution : TableExecution table events table')
    {peerName : PeerName}
    (others : ∀ event ∈ events, event.1 ≠ peerName) :
    table' peerName = table peerName := by
  induction execution with
  | nil =>
      rfl
  | @snoc _ _ _ event _ taken inductionHypothesis =>
      obtain ⟨actor, event⟩ := event
      have different : peerName ≠ actor :=
        (others (actor, event) (by simp)).symm
      rw [taken.frame different]
      exact inductionHypothesis fun event member =>
        others event (List.mem_append_left _ member)

/-- Expired sessions of all peers are dropped one after the other. -/
theorem dropExpired
    (table : PeerTable snow)
    (slot : Slot)
    (now : Instant)
    (peers : List PeerName) :
    ∃ events,
      TableExecution table events
          (fun peerName =>
            if peerName ∈ peers then
              (table peerName).withoutExpired slot now
            else
              table peerName) ∧
        ∀ event ∈ events, event.2 = .expire slot now := by
  induction peers with
  | nil =>
      exact ⟨[], by simpa using Execution.nil, by simp⟩
  | cons peerName rest inductionHypothesis =>
      obtain ⟨events, execution, onlyExpire⟩ := inductionHypothesis
      by_cases done :
          peerName ∈ rest ∨
            (table peerName).withoutExpired slot now = table peerName
      · refine ⟨events, ?_, onlyExpire⟩
        convert execution using 2 with queried
        rcases done with member | unchanged <;> grind
      · rw [not_or] at done
        obtain ⟨session, stored, expired⟩ :=
          PeerEntry.withoutExpired_ne done.2
        refine ⟨events ++ [(peerName, .expire slot now)], ?_, ?_⟩
        · convert execution.snoc
            (@TableStep.intro _ _ _ _ ((table peerName).withoutExpired slot now)
              ?_ ?_)
            using 1
          · funext queried
            by_cases isPeer : queried = peerName
            · subst isPeer
              simp
            · simp [isPeer]
          · rw [if_neg done.1]
            have emptied :
                (table peerName).withoutExpired slot now =
                  (table peerName).setSlot slot none := by
              simp [PeerEntry.withoutExpired, stored, expired,
                Option.filter_some]
            rw [emptied]
            exact .expire stored expired
          · simp [PeerEvent.introduced]
        · intro event member
          rcases List.mem_append.mp member with early | last
          · exact onlyExpire event early
          · rw [List.mem_singleton.mp last]

end TableExecution

end HushWire
