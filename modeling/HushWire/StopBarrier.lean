import HushWire.RuntimeLifecycle

namespace HushWire

/-!
# Stopping a runtime

In every interleaving the counter counts the calls in flight, and a stop that
returns has waited for all of them.

The flag that refuses calls while a stop waits belongs to all stops together:
the first one that wakes clears it for the others.  It does its work as long
as nobody starts the runtime between that moment and the return of the others;
such a start, unless it is refused or fails to create its engine, is exactly
what overtakes a stop that waits.
-/

namespace RuntimeSystem

variable {Engine Scheduler : Type}

/-- What a critical section changes, whichever call it is part of. -/
inductive Changes
    (before : RuntimeSystem Engine Scheduler) :
    RuntimeEvent Engine Scheduler → RuntimeSystem Engine Scheduler → Prop where
  | nothing
      {event : RuntimeEvent Engine Scheduler}
      {after : RuntimeSystem Engine Scheduler} :
      (event.Admits →
        ∃ engine,
          before.runtime.lifecycle.engine = some engine ∧
            before.runtime.lifecycle.stopping = false) →
      after.runtime.lifecycle = before.runtime.lifecycle →
      after.calls = before.calls →
      after.waiting = before.waiting →
      Changes before event after
  | installs
      {engine : Engine}
      {scheduler : Scheduler}
      {result : Except FfiFailure Unit}
      {after : RuntimeSystem Engine Scheduler} :
      before.runtime.lifecycle.engine = none →
      before.runtime.lifecycle.stopping = false →
      after.runtime.lifecycle =
        { before.runtime.lifecycle with engine := some engine } →
      after.calls = before.calls →
      after.waiting = before.waiting →
      Changes before (.start (.ok engine) scheduler result) after
  | accepts
      {call : CallId}
      {engine : Engine}
      {after : RuntimeSystem Engine Scheduler} :
      before.runtime.lifecycle.engine = some engine →
      before.runtime.lifecycle.stopping = false →
      after.runtime.lifecycle =
        { before.runtime.lifecycle with
          activeCalls := before.runtime.lifecycle.activeCalls + 1 } →
      after.calls = call :: before.calls →
      after.waiting = before.waiting →
      Changes before (.beginCall call (.ok engine)) after
  | drops
      {call : CallId}
      {after : RuntimeSystem Engine Scheduler} :
      call ∈ before.calls →
      after.runtime.lifecycle =
        { before.runtime.lifecycle with
          activeCalls := before.runtime.lifecycle.activeCalls - 1 } →
      after.calls = before.calls.erase call →
      after.waiting = before.waiting →
      Changes before (.dropCall call) after
  | waits
      {stop : StopId}
      {engine : Engine}
      {after : RuntimeSystem Engine Scheduler} :
      before.runtime.lifecycle.engine = some engine →
      after.runtime.lifecycle =
        { before.runtime.lifecycle with stopping := true } →
      after.calls = before.calls →
      after.waiting = stop :: before.waiting →
      Changes before (.stop stop .waiting) after
  | erases
      {event : RuntimeEvent Engine Scheduler}
      {after : RuntimeSystem Engine Scheduler} :
      ¬ event.Admits →
      before.runtime.lifecycle.activeCalls = 0 →
      after.runtime.lifecycle.engine = none →
      after.runtime.lifecycle.activeCalls = 0 →
      after.calls = before.calls →
      Changes before event after

/-- The critical sections of the four functions are the changes. -/
theorem Step.changes
    {before after : RuntimeSystem Engine Scheduler}
    {event : RuntimeEvent Engine Scheduler}
    (taken : Step before event after) :
    Changes before event after := by
  cases taken with
  | @start created scheduler _ _ started =>
      have starts := before.runtime.start_starts created scheduler
      rw [started] at starts
      cases starts with
      | refused =>
          exact .nothing nofun rfl rfl rfl
      | running notStopping running =>
          exact .nothing (fun _ => ⟨_, running, notStopping⟩) rfl rfl rfl
      | installed notStopping stopped isCreated isAfter =>
          cases isCreated
          exact .installs stopped notStopping isAfter rfl rfl
  | accept _ begun =>
      obtain ⟨running, notStopping, rfl⟩ := HwRuntime.beginCall_ok begun
      exact .accepts running notStopping rfl rfl rfl
  | refuse refused =>
      rw [HwRuntime.beginCall_error refused]
      exact .nothing nofun rfl rfl rfl
  | dropCall live =>
      exact .drops live rfl rfl rfl
  | stop _ stopped =>
      have stops := before.runtime.stop_stops
      rw [stopped] at stops
      cases stops with
      | stopped =>
          exact .nothing nofun rfl rfl rfl
      | erases idle erased stillIdle =>
          exact .erases nofun idle erased stillIdle rfl
  | wait _ stopped =>
      have stops := before.runtime.stop_stops
      rw [stopped] at stops
      cases stops with
      | waits running => exact .waits running rfl rfl rfl
  | wake _ woken =>
      have awaits := before.runtime.awaitIdle_awaits
      rw [woken] at awaits
      cases awaits with
      | erases idle erased stillIdle =>
          exact .erases nofun idle erased stillIdle rfl
  | waitOn _ woken =>
      have awaits := before.runtime.awaitIdle_awaits
      rw [woken] at awaits
      cases awaits with
      | waits =>
          exact .nothing nofun rfl rfl rfl
  | poisonScheduler =>
      exact .nothing nofun rfl rfl rfl

/-- The counter counts the calls in flight; without an engine there are none. -/
structure Counted (system : RuntimeSystem Engine Scheduler) : Prop where
  active : system.runtime.lifecycle.activeCalls = system.calls.length
  idle : system.runtime.lifecycle.engine = none → system.calls = []

namespace Counted

theorem new : Counted (.new : RuntimeSystem Engine Scheduler) where
  active := rfl
  idle := fun _ => rfl

/-- Where the counter is zero, no call is in flight. -/
theorem calls_eq_nil
    {system : RuntimeSystem Engine Scheduler}
    (counted : system.Counted)
    (none : system.runtime.lifecycle.activeCalls = 0) :
    system.calls = [] :=
  List.eq_nil_of_length_eq_zero (counted.active.symm.trans none)

theorem step
    {before after : RuntimeSystem Engine Scheduler}
    {event : RuntimeEvent Engine Scheduler}
    (counted : before.Counted)
    (taken : Step before event after) :
    after.Counted := by
  cases taken.changes with
  | nothing _ sameLifecycle sameCalls _ =>
      constructor
      · rw [sameLifecycle, sameCalls]
        exact counted.active
      · rw [sameLifecycle, sameCalls]
        exact counted.idle
  | installs _ _ installed sameCalls _ =>
      constructor
      · rw [installed, sameCalls]
        exact counted.active
      · intro noEngine
        rw [installed] at noEngine
        cases noEngine
  | accepts running _ accepted moreCalls _ =>
      constructor
      · rw [accepted, moreCalls, List.length_cons, ← counted.active]
      · intro noEngine
        rw [accepted, running] at noEngine
        cases noEngine
  | drops live dropped fewerCalls _ =>
      constructor
      · rw [dropped, fewerCalls, List.length_erase_of_mem live,
          ← counted.active]
      · intro noEngine
        rw [dropped] at noEngine
        rw [counted.idle noEngine] at live
        cases live
  | waits _ waiting sameCalls _ =>
      constructor
      · rw [waiting, sameCalls]
        exact counted.active
      · rw [waiting, sameCalls]
        exact counted.idle
  | erases _ idle _ stillIdle sameCalls =>
      have noCalls := counted.calls_eq_nil idle
      constructor
      · rw [stillIdle, sameCalls, noCalls]
        rfl
      · intro _
        rw [sameCalls, noCalls]

theorem of_execution
    {initial system : RuntimeSystem Engine Scheduler}
    {events : List (RuntimeEvent Engine Scheduler)}
    (execution : Execution Step initial events system)
    (atStart : initial.Counted) :
    system.Counted :=
  execution.preserves Counted atStart fun _ counted taken =>
    counted.step taken

end Counted

/-- A stop that returns with success leaves no engine. -/
theorem Step.engine_of_stopsOk
    {before after : RuntimeSystem Engine Scheduler}
    {event : RuntimeEvent Engine Scheduler}
    (taken : Step before event after)
    (stopped : event.StopsOk) :
    after.runtime.lifecycle.engine = none := by
  cases stopped with
  | stop =>
      cases taken with
      | stop _ returned =>
          have stops := before.runtime.stop_stops
          rw [returned] at stops
          cases stops with
          | stopped noEngine => exact noEngine
          | erases _ erased _ => exact erased
  | wake =>
      cases taken with
      | wake _ returned =>
          have awaits := before.runtime.awaitIdle_awaits
          rw [returned] at awaits
          cases awaits with
          | erases _ erased _ => exact erased

/-- Only a start that creates an engine ends the time without one. -/
theorem Step.engine_eq_none
    {before after : RuntimeSystem Engine Scheduler}
    {event : RuntimeEvent Engine Scheduler}
    (taken : Step before event after)
    (noEngine : before.runtime.lifecycle.engine = none)
    (noStart :
      ∀ engine scheduler result, event ≠ .start (.ok engine) scheduler result) :
    after.runtime.lifecycle.engine = none := by
  cases taken.changes with
  | nothing _ sameLifecycle _ _ =>
      rw [sameLifecycle]
      exact noEngine
  | installs =>
      exact absurd rfl (noStart _ _ _)
  | accepts running _ _ _ _ =>
      rw [noEngine] at running
      cases running
  | drops _ dropped _ _ =>
      rw [dropped]
      exact noEngine
  | waits running _ _ _ =>
      rw [noEngine] at running
      cases running
  | erases _ _ erased _ _ =>
      exact erased

/-- Until a start, no call is admitted where there is no engine. -/
theorem exists_start_of_admitted
    {initial system : RuntimeSystem Engine Scheduler}
    {events : List (RuntimeEvent Engine Scheduler)}
    {call : CallId}
    {engine : Engine}
    (execution :
      Execution Step initial (events ++ [.beginCall call (.ok engine)])
        system)
    (noEngine : initial.runtime.lifecycle.engine = none) :
    ∃ started scheduler result,
      .start (.ok started) scheduler result ∈ events := by
  by_contra noStart
  push Not at noStart
  obtain ⟨before, earlier, admitted⟩ := execution.last_step
  have stillNone : before.runtime.lifecycle.engine = none :=
    earlier.preserves (fun middle => middle.runtime.lifecycle.engine = none)
      noEngine fun member isNone taken =>
        taken.engine_eq_none isNone fun started scheduler result isStart =>
          noStart started scheduler result (isStart ▸ member)
  cases admitted with
  | accept _ begun =>
      obtain ⟨running, _, _⟩ := HwRuntime.beginCall_ok begun
      rw [stillNone] at running
      cases running

/--
A start that creates its engine while a stop still waits, after another stop
has erased the old engine and cleared the flag.
-/
inductive Overtakes
    (before : RuntimeSystem Engine Scheduler) :
    RuntimeEvent Engine Scheduler → Prop where
  | start
      {engine : Engine}
      {scheduler : Scheduler}
      {result : Except FfiFailure Unit} :
      before.waiting ≠ [] →
      before.runtime.lifecycle.engine = none →
      before.runtime.lifecycle.stopping = false →
      Overtakes before (.start (.ok engine) scheduler result)

theorem Overtakes.engine_eq_none
    {before : RuntimeSystem Engine Scheduler}
    {event : RuntimeEvent Engine Scheduler}
    (overtakes : before.Overtakes event) :
    before.runtime.lifecycle.engine = none := by
  cases overtakes with
  | start _ noEngine _ => exact noEngine

/-- A step that is not a start in the wrong moment. -/
def CarefulStep
    (before : RuntimeSystem Engine Scheduler)
    (event : RuntimeEvent Engine Scheduler)
    (after : RuntimeSystem Engine Scheduler) :
    Prop :=
  Step before event after ∧ ¬ before.Overtakes event

/-- While a stop waits, calls are refused or there is nothing to call. -/
def Refusing (system : RuntimeSystem Engine Scheduler) : Prop :=
  system.waiting ≠ [] →
    system.runtime.lifecycle.stopping = true ∨
      system.runtime.lifecycle.engine = none

theorem Refusing.step
    {before after : RuntimeSystem Engine Scheduler}
    {event : RuntimeEvent Engine Scheduler}
    (refusing : before.Refusing)
    (taken : CarefulStep before event after) :
    after.Refusing := by
  obtain ⟨taken, careful⟩ := taken
  cases taken.changes with
  | nothing _ sameLifecycle _ sameWaiting =>
      intro waits
      rw [sameWaiting] at waits
      rw [sameLifecycle]
      exact refusing waits
  | installs stopped notStopping _ _ sameWaiting =>
      intro waits
      rw [sameWaiting] at waits
      exact absurd (.start waits stopped notStopping) careful
  | accepts _ _ accepted _ sameWaiting =>
      intro waits
      rw [sameWaiting] at waits
      rw [accepted]
      exact refusing waits
  | drops _ dropped _ sameWaiting =>
      intro waits
      rw [sameWaiting] at waits
      rw [dropped]
      exact refusing waits
  | waits _ waiting _ _ =>
      intro _
      left
      rw [waiting]
  | erases _ _ erased _ _ =>
      exact fun _ => .inr erased

/-- While a stop waits, nothing is admitted and no engine is put in place. -/
theorem Refusing.spares
    {before after : RuntimeSystem Engine Scheduler}
    {event : RuntimeEvent Engine Scheduler}
    (refusing : before.Refusing)
    (waits : before.waiting ≠ [])
    (taken : CarefulStep before event after) :
    ¬ event.Admits ∧
      (after.runtime.lifecycle.engine = none ∨
        after.runtime.lifecycle.engine = before.runtime.lifecycle.engine) := by
  obtain ⟨taken, careful⟩ := taken
  have closed :
      ∀ engine, before.runtime.lifecycle.engine = some engine →
        before.runtime.lifecycle.stopping ≠ false := by
    intro engine running notStopping
    rcases refusing waits with stopping | noEngine
    · rw [notStopping] at stopping
      cases stopping
    · rw [noEngine] at running
      cases running
  cases taken.changes with
  | nothing admitsRunning sameLifecycle _ _ =>
      constructor
      · intro admits
        obtain ⟨engine, running, notStopping⟩ := admitsRunning admits
        exact closed engine running notStopping
      · right
        rw [sameLifecycle]
  | installs stopped notStopping _ _ _ =>
      exact absurd (.start waits stopped notStopping) careful
  | accepts running notStopping _ _ _ =>
      exact absurd notStopping (closed _ running)
  | drops _ dropped _ _ =>
      refine ⟨nofun, .inr ?_⟩
      rw [dropped]
  | waits _ waiting _ _ =>
      refine ⟨nofun, .inr ?_⟩
      rw [waiting]
  | erases notAdmitted _ erased _ _ =>
      exact ⟨notAdmitted, .inl erased⟩

/--
A start that overtakes a stop puts its engine in place, and it succeeds unless
the lock of the scheduler is poisoned.
-/
theorem Step.installs_of_overtakes
    {before after : RuntimeSystem Engine Scheduler}
    {event : RuntimeEvent Engine Scheduler}
    (taken : Step before event after)
    (overtakes : before.Overtakes event) :
    (before.runtime.schedulerPoisoned = false → event.Admits) ∧
      after.waiting = before.waiting ∧
      after.runtime.lifecycle.stopping = false ∧
      after.runtime.lifecycle.activeCalls =
        before.runtime.lifecycle.activeCalls ∧
      ∃ engine, after.runtime.lifecycle.engine = some engine := by
  cases overtakes with
  | start _ noEngine notStopping =>
      cases taken with
      | start started =>
          simp only [HwRuntime.start, notStopping, noEngine,
            Bool.false_eq_true, Option.isSome_none, ↓reduceIte] at started
          split at started
          · rename_i poisoned
            cases started
            refine ⟨?_, rfl, rfl, rfl, _, rfl⟩
            intro notPoisoned
            rw [poisoned] at notPoisoned
            cases notPoisoned
          · cases started
            exact ⟨fun _ => .start, rfl, rfl, rfl, _, rfl⟩

/-- A stop waits until it returns. -/
theorem Step.still_waiting
    {before after : RuntimeSystem Engine Scheduler}
    {event : RuntimeEvent Engine Scheduler}
    {stop : StopId}
    (taken : Step before event after)
    (waits : stop ∈ before.waiting)
    (pending : ∀ result, event ≠ .wake stop (.returned result)) :
    stop ∈ after.waiting := by
  cases taken with
  | wait =>
      exact List.mem_cons_of_mem _ waits
  | @wake other result =>
      have isOther : stop ≠ other := by
        rintro rfl
        exact pending result rfl
      exact (List.mem_erase_of_ne isOther).mpr waits
  | start | accept | refuse | dropCall | stop | waitOn | poisonScheduler =>
      exact waits

/-- A stop that waits, with the engine that it found or none. -/
structure Stopping
    (stop : StopId)
    (found : Option Engine)
    (system : RuntimeSystem Engine Scheduler) :
    Prop where
  refusing : system.Refusing
  waits : stop ∈ system.waiting
  engine :
    system.runtime.lifecycle.engine = none ∨
      system.runtime.lifecycle.engine = found

theorem Stopping.step
    {before after : RuntimeSystem Engine Scheduler}
    {event : RuntimeEvent Engine Scheduler}
    {stop : StopId}
    {found : Option Engine}
    (stopping : before.Stopping stop found)
    (taken : CarefulStep before event after)
    (pending : ∀ result, event ≠ .wake stop (.returned result)) :
    ¬ event.Admits ∧ after.Stopping stop found := by
  obtain ⟨notAdmitted, engine⟩ :=
    stopping.refusing.spares (List.ne_nil_of_mem stopping.waits) taken
  refine
    ⟨notAdmitted, stopping.refusing.step taken,
      taken.1.still_waiting stopping.waits pending, ?_⟩
  rcases engine with erased | kept
  · exact .inl erased
  · rw [kept]
    exact stopping.engine

/-- Careful steps admit nothing until the stop returns. -/
theorem CarefulStep.stopping
    {before after : RuntimeSystem Engine Scheduler}
    {events : List (RuntimeEvent Engine Scheduler)}
    {stop : StopId}
    {found : Option Engine}
    (execution : Execution CarefulStep before events after)
    (atStart : before.Stopping stop found)
    (pending : ∀ result, .wake stop (.returned result) ∉ events) :
    (∀ event ∈ events, ¬ event.Admits) ∧ after.Stopping stop found := by
  induction execution with
  | nil =>
      exact ⟨fun _ member => absurd member List.not_mem_nil, atStart⟩
  | @snoc events middle final event _ taken inductionHypothesis =>
      obtain ⟨noneAdmitted, stopping⟩ :=
        inductionHypothesis fun result member =>
          pending result (List.mem_append_left _ member)
      obtain ⟨notAdmitted, stillStopping⟩ :=
        stopping.step taken fun result isReturn =>
          pending result (by simp [isReturn])
      refine ⟨?_, stillStopping⟩
      intro other member
      rcases List.mem_append.mp member with inEvents | isLast
      · exact noneAdmitted other inEvents
      · rw [List.mem_singleton.mp isLast]
        exact notAdmitted

end RuntimeSystem

namespace RuntimeExample

open RuntimeSystem

/-- A runtime without a poisoned lock; engines are numbered. -/
def situation
    (engine : Option Nat)
    (stopping : Bool)
    (calls : List CallId)
    (waiting : List StopId) :
    RuntimeSystem Nat Unit where
  runtime :=
    { lifecycle :=
        { engine
          activeCalls := calls.length
          stopping }
      scheduler := engine.map fun _ => ()
      schedulerPoisoned := false }
  calls := calls
  waiting := waiting

/-- Engine 1 is started and called. -/
def callRun : List (RuntimeEvent Nat Unit) :=
  [.start (.ok 1) () (.ok ()), .beginCall 0 (.ok 1)]

theorem callRun_execution :
    Execution Step .new callRun (situation (some 1) false [0] []) :=
  have starts :
      Step .new (.start (.ok 1) () (.ok ())) (situation (some 1) false [] []) :=
    .start rfl
  (Execution.single starts).snoc (.accept (by decide) rfl)

/-- A stop begins to wait for the call. -/
theorem stop_waits :
    Step (situation (some 1) false [0] []) (.stop 7 .waiting)
      (situation (some 1) true [0] [7]) :=
  .wait (by decide) rfl

/-- A second stop begins to wait. -/
theorem second_waits :
    Step (situation (some 1) true [0] [7]) (.stop 8 .waiting)
      (situation (some 1) true [0] [8, 7]) :=
  .wait (by decide) rfl

/-- The call ends, and the second stop returns before the first. -/
theorem second_returns :
    Execution Step (situation (some 1) true [0] [7])
      [.stop 8 .waiting, .dropCall 0, .wake 8 (.returned (.ok ()))]
      (situation none false [] [7]) :=
  have drops :
      Step (situation (some 1) true [0] [8, 7]) (.dropCall 0)
        (situation (some 1) true [] [8, 7]) :=
    .dropCall (by decide)
  ((Execution.single second_waits).snoc drops).snoc (.wake (by decide) rfl)

/-- Engine 2 is started while the first stop still waits. -/
theorem start_overtakes :
    Step (situation none false [] [7]) (.start (.ok 2) () (.ok ()))
      (situation (some 2) false [] [7]) :=
  .start rfl

/--
A second stop waits too, the call ends, the second stop returns, and engine 2
is started and called.
-/
def overtakingRun : List (RuntimeEvent Nat Unit) :=
  [.stop 8 .waiting, .dropCall 0, .wake 8 (.returned (.ok ())),
    .start (.ok 2) () (.ok ()), .beginCall 1 (.ok 2)]

theorem overtakingRun_execution :
    Execution Step (situation (some 1) true [0] [7]) overtakingRun
      (situation (some 2) false [1] [7]) :=
  (second_returns.snoc start_overtakes).snoc (.accept (by decide) rfl)

/-- The call ends, and only then the runtime is stopped. -/
theorem stoppedRun_execution :
    Execution Step .new
      (callRun ++ [.dropCall 0] ++ [.stop 7 (.returned (.ok ()))])
      (situation none false [] []) :=
  have drops :
      Step (situation (some 1) false [0] []) (.dropCall 0)
        (situation (some 1) false [] []) :=
    .dropCall (by decide)
  (callRun_execution.snoc drops).snoc
    (.stop (by decide) rfl)

end RuntimeExample

namespace RuntimeSystem

variable {Engine Scheduler : Type}

open RuntimeExample

/--
In every interleaving the counter is the number of calls in flight, there are
none without an engine, and when a stop returns with success none is left and
no call is admitted until a later start.
-/
theorem stop_is_barrier
    {events : List (RuntimeEvent Engine Scheduler)}
    {system : RuntimeSystem Engine Scheduler}
    (execution : Execution Step .new events system) :
    system.runtime.lifecycle.activeCalls = system.calls.length ∧
      (system.runtime.lifecycle.engine = none →
        system.runtime.lifecycle.activeCalls = 0) ∧
      ∀ earlier event later,
        events = earlier ++ event :: later →
        event.StopsOk →
        ∃ stopped,
          Execution Step .new (earlier ++ [event]) stopped ∧
            stopped.calls = [] ∧
            ∀ between call engine rest,
              later = between ++ .beginCall call (.ok engine) :: rest →
              ∃ started scheduler result,
                .start (.ok started) scheduler result ∈ between := by
  have counted := Counted.of_execution execution .new
  refine ⟨counted.active, ?_, ?_⟩
  · intro noEngine
    rw [counted.active, counted.idle noEngine]
    rfl
  · rintro earlier event later rfl stops
    rw [List.append_cons] at execution
    obtain ⟨stopped, first, second⟩ := execution.split
    obtain ⟨before, _, taken⟩ := first.last_step
    have noEngine := taken.engine_of_stopsOk stops
    refine
      ⟨stopped, first, (Counted.of_execution first .new).idle noEngine, ?_⟩
    rintro between call engine rest rfl
    rw [List.append_cons] at second
    obtain ⟨_, admitting, _⟩ := second.split
    exact exists_start_of_admitted admitting noEngine

/-- After a call and a stop nothing is in flight. -/
theorem stop_is_barrier_example :
    ∃ stopped : RuntimeSystem Nat Unit,
      Execution Step .new
          (callRun ++ [.dropCall 0] ++ [.stop 7 (.returned (.ok ()))])
          stopped ∧
        stopped.calls = [] :=
  have ⟨stopped, execution, noCalls, _⟩ :=
    (stop_is_barrier stoppedRun_execution).2.2 _ _ [] rfl .stop
  ⟨stopped, execution, noCalls⟩

/--
From the moment a stop begins to wait until it returns, nothing is admitted
and the engine that it erases is the one it found, in every run in which no
start overtakes it.  A start that does puts an engine in place which can be
called at once, and which the stop erases as soon as no call is in flight.
-/
theorem refuses_while_stopping
    {earlier between : List (RuntimeEvent Engine Scheduler)}
    {before first last : RuntimeSystem Engine Scheduler}
    {stop : StopId}
    (execution : Execution Step .new earlier before)
    (waits : Step before (.stop stop .waiting) first)
    (later : Execution Step first between last)
    (pending : ∀ result, .wake stop (.returned result) ∉ between) :
    (Execution CarefulStep first between last →
        (∀ event ∈ between, ¬ event.Admits) ∧
          (last.runtime.lifecycle.engine = none ∨
            last.runtime.lifecycle.engine =
              before.runtime.lifecycle.engine)) ∧
      ∀ event after,
        Step last event after →
        last.Overtakes event →
        (last.runtime.schedulerPoisoned = false → event.Admits) ∧
          stop ∈ after.waiting ∧
          ∃ engine,
            after.runtime.lifecycle.engine = some engine ∧
              after.runtime.beginCall.1 = .ok engine ∧
              ∃ result erased,
                after.runtime.awaitIdle = (.returned result, erased) ∧
                  erased.lifecycle.engine = none := by
  have atStart : first.Stopping stop before.runtime.lifecycle.engine := by
    cases waits with
    | wait _ stopped =>
        have stops := before.runtime.stop_stops
        rw [stopped] at stops
        cases stops with
        | waits => exact ⟨fun _ => .inl rfl, List.mem_cons_self, .inr rfl⟩
  constructor
  · intro careful
    have whole := CarefulStep.stopping careful atStart pending
    exact ⟨whole.1, whole.2.engine⟩
  · intro event after taken overtakes
    have stillWaits : stop ∈ last.waiting :=
      later.preserves (fun middle => stop ∈ middle.waiting) atStart.waits
        fun member isWaiting taken =>
          taken.still_waiting isWaiting fun result isReturn =>
            pending result (isReturn ▸ member)
    obtain ⟨admits, sameWaiting, notStopping, sameCalls, engine, installed⟩ :=
      taken.installs_of_overtakes overtakes
    have idle : after.runtime.lifecycle.activeCalls = 0 := by
      have counted :=
        Counted.of_execution ((execution.snoc waits).append later) .new
      rw [sameCalls, counted.active, counted.idle overtakes.engine_eq_none]
      rfl
    exact
      ⟨admits, sameWaiting ▸ stillWaits, engine, installed,
        HwRuntime.beginCall_of_running installed notStopping,
        HwRuntime.awaitIdle_of_idle idle⟩

/--
While two stops wait, no call and no start succeeds; once the second one has
returned, a start does.
-/
theorem refuses_while_stopping_example :
    (¬ ∃ call engine after,
        Step (situation (some 1) true [0] [8, 7])
          (.beginCall call (.ok engine)) after) ∧
      (¬ ∃ created scheduler after,
        Step (situation (some 1) true [0] [8, 7])
          (.start created scheduler (.ok ())) after) ∧
      7 ∈ (situation (some 2) false [] [7]).waiting ∧
      (.start (.ok 2) () (.ok ()) : RuntimeEvent Nat Unit).Admits := by
  have waiting :
      Execution CarefulStep (situation (some 1) true [0] [7])
        [.stop 8 .waiting] (situation (some 1) true [0] [8, 7]) :=
    .single ⟨second_waits, by rintro ⟨⟩⟩
  refine ⟨?_, ?_, ?_⟩
  · rintro ⟨call, engine, after, taken⟩
    have whole := waiting.snoc ⟨taken, by rintro ⟨⟩⟩
    exact
      ((refuses_while_stopping callRun_execution stop_waits
        (whole.mono And.left) (by simp)).1 whole).1
        (.beginCall call (.ok engine)) (by simp) .beginCall
  · rintro ⟨created, scheduler, after, taken⟩
    have whole := waiting.snoc ⟨taken, by rintro ⟨⟩; contradiction⟩
    exact
      ((refuses_while_stopping callRun_execution stop_waits
        (whole.mono And.left) (by simp)).1 whole).1
        (.start created scheduler (.ok ())) (by simp) .start
  · obtain ⟨admits, stillWaits, _⟩ :=
      (refuses_while_stopping callRun_execution stop_waits second_returns
        (by simp)).2 _ _ start_overtakes (.start (by decide) rfl rfl)
    exact ⟨stillWaits, admits rfl⟩

/--
Two stops wait.  The second returns first, and while the first one still waits
engine 2 is started and called; in the end the first stop erases it.
-/
theorem refuses_while_stopping_counterexample :
    Execution Step .new callRun (situation (some 1) false [0] []) ∧
      Step (situation (some 1) false [0] []) (.stop 7 .waiting)
        (situation (some 1) true [0] [7]) ∧
      Execution Step (situation (some 1) true [0] [7]) overtakingRun
        (situation (some 2) false [1] [7]) ∧
      (∀ result, .wake 7 (.returned result) ∉ overtakingRun) ∧
      .start (.ok 2) () (.ok ()) ∈ overtakingRun ∧
      .beginCall 1 (.ok 2) ∈ overtakingRun ∧
      Execution Step (situation (some 2) false [1] [7])
        [.dropCall 1, .wake 7 (.returned (.ok ()))]
        (situation none false [] []) :=
  have drops :
      Step (situation (some 2) false [1] [7]) (.dropCall 1)
        (situation (some 2) false [] [7]) :=
    .dropCall (by decide)
  ⟨callRun_execution, stop_waits, overtakingRun_execution,
    by simp [overtakingRun], by simp [overtakingRun],
    by simp [overtakingRun],
    (Execution.single drops).snoc (.wake (by decide) rfl)⟩

end RuntimeSystem

end HushWire
