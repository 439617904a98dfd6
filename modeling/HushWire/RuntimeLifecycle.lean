import HushWire.Library.Execution
import Mathlib.Data.List.Basic

namespace HushWire

/-!
# The lifecycle of a runtime

A host starts and stops a runtime and calls it from any number of threads.
The lifecycle mutex makes every critical section one step; a stop that waits
for the calls in flight gives the mutex up, and may wake at any time, notified
or not.

An engine and a scheduler are handles; which ones they are is all that
matters here.  A panic of a thread that holds the scheduler poisons its lock.
-/

inductive HwStatus where
  | invalidState
  | engineError
  | internalError
  deriving Repr, DecidableEq

structure FfiFailure where
  status : HwStatus
  message : String
  deriving Repr, DecidableEq

structure Lifecycle (Engine : Type) where
  engine : Option Engine
  activeCalls : Nat
  stopping : Bool
  deriving DecidableEq

structure HwRuntime (Engine Scheduler : Type) where
  lifecycle : Lifecycle Engine
  scheduler : Option Scheduler
  schedulerPoisoned : Bool
  deriving DecidableEq

/-- How a critical section of a stop ends: it returns, or it waits. -/
inductive StopOutcome where
  | waiting
  | returned (result : Except FfiFailure Unit)

namespace FfiFailure

def notRunning : FfiFailure where
  status := .invalidState
  message := "runtime is not running"

def currentlyStopping : FfiFailure where
  status := .invalidState
  message := "runtime is currently stopping"

def schedulerPoisoned : FfiFailure where
  status := .internalError
  message := "runtime scheduler lock is poisoned"

end FfiFailure

namespace HwRuntime

variable {Engine Scheduler : Type}

/-- A runtime that was created and not yet started. -/
def new : HwRuntime Engine Scheduler where
  lifecycle :=
    { engine := none
      activeCalls := 0
      stopping := false }
  scheduler := none
  schedulerPoisoned := false

def beginCall
    (runtime : HwRuntime Engine Scheduler) :
    Except FfiFailure Engine × HwRuntime Engine Scheduler :=
  match runtime.lifecycle.engine.filter fun _ =>
      !runtime.lifecycle.stopping with
  | none => (.error .notRunning, runtime)
  | some engine =>
      (.ok engine,
        { runtime with
          lifecycle :=
            { runtime.lifecycle with
              activeCalls := runtime.lifecycle.activeCalls + 1 } })

/-- `RuntimeCall::drop`. -/
def dropCall
    (runtime : HwRuntime Engine Scheduler) :
    HwRuntime Engine Scheduler :=
  { runtime with
    lifecycle :=
      { runtime.lifecycle with
        activeCalls := runtime.lifecycle.activeCalls - 1 } }

/-- `hw_runtime_start`, with what `Engine::with_router` returns if called. -/
def start
    (runtime : HwRuntime Engine Scheduler)
    (created : Except String Engine)
    (scheduler : Scheduler) :
    Except FfiFailure Unit × HwRuntime Engine Scheduler :=
  if runtime.lifecycle.stopping then
    (.error .currentlyStopping, runtime)
  else if runtime.lifecycle.engine.isSome then
    (.ok (), runtime)
  else
    match created with
    | .error cause =>
        (.error { status := .engineError, message := cause }, runtime)
    | .ok engine =>
        let runtime :=
          { runtime with
            lifecycle := { runtime.lifecycle with engine := some engine } }
        if runtime.schedulerPoisoned then
          (.error .schedulerPoisoned, runtime)
        else
          (.ok (), { runtime with scheduler := some scheduler })

/-- The loop of `hw_runtime_stop` from its test on, and what follows it. -/
def awaitIdle
    (runtime : HwRuntime Engine Scheduler) :
    StopOutcome × HwRuntime Engine Scheduler :=
  if runtime.lifecycle.activeCalls ≠ 0 then
    (.waiting, runtime)
  else
    let runtime :=
      { runtime with
        lifecycle := { runtime.lifecycle with engine := none } }
    if runtime.schedulerPoisoned then
      (.returned (.error .schedulerPoisoned), runtime)
    else
      (.returned (.ok ()),
        { runtime with
          scheduler := none
          lifecycle := { runtime.lifecycle with stopping := false } })

/-- `hw_runtime_stop` until it returns or waits. -/
def stop
    (runtime : HwRuntime Engine Scheduler) :
    StopOutcome × HwRuntime Engine Scheduler :=
  if runtime.lifecycle.engine.isNone then
    (.returned (.ok ()), runtime)
  else
    awaitIdle
      { runtime with
        lifecycle := { runtime.lifecycle with stopping := true } }

/-- A call is admitted where an engine runs that is not being stopped. -/
theorem beginCall_ok
    {runtime after : HwRuntime Engine Scheduler}
    {engine : Engine}
    (begun : runtime.beginCall = (.ok engine, after)) :
    runtime.lifecycle.engine = some engine ∧
      runtime.lifecycle.stopping = false ∧
      after =
        { runtime with
          lifecycle :=
            { runtime.lifecycle with
              activeCalls := runtime.lifecycle.activeCalls + 1 } } := by
  unfold beginCall at begun
  split at begun
  · cases begun
  · rename_i running found
    obtain ⟨isRunning, notStopping⟩ := Option.filter_eq_some_iff.mp found
    obtain ⟨sameEngine, isAfter⟩ := Prod.mk.inj begun
    cases sameEngine
    exact ⟨isRunning, by simpa using notStopping, isAfter.symm⟩

theorem beginCall_of_running
    {runtime : HwRuntime Engine Scheduler}
    {engine : Engine}
    (running : runtime.lifecycle.engine = some engine)
    (notStopping : runtime.lifecycle.stopping = false) :
    runtime.beginCall.1 = .ok engine := by
  simp [beginCall, running, notStopping, Option.filter]

/-- A refused call changes nothing. -/
theorem beginCall_error
    {runtime after : HwRuntime Engine Scheduler}
    {failure : FfiFailure}
    (refused : runtime.beginCall = (.error failure, after)) :
    after = runtime := by
  unfold beginCall at refused
  split at refused
  · exact (Prod.mk.inj refused).2.symm
  · cases refused

/-- What a start does, by the state that it finds. -/
inductive Starts
    (runtime : HwRuntime Engine Scheduler)
    (created : Except String Engine) :
    Except FfiFailure Unit × HwRuntime Engine Scheduler → Prop where
  | refused
      {failure : FfiFailure} :
      Starts runtime created (.error failure, runtime)
  | running
      {engine : Engine} :
      runtime.lifecycle.stopping = false →
      runtime.lifecycle.engine = some engine →
      Starts runtime created (.ok (), runtime)
  | installed
      {engine : Engine}
      {result : Except FfiFailure Unit}
      {after : HwRuntime Engine Scheduler} :
      runtime.lifecycle.stopping = false →
      runtime.lifecycle.engine = none →
      created = .ok engine →
      after.lifecycle = { runtime.lifecycle with engine := some engine } →
      Starts runtime created (result, after)

theorem start_starts
    (runtime : HwRuntime Engine Scheduler)
    (created : Except String Engine)
    (scheduler : Scheduler) :
    runtime.Starts created (runtime.start created scheduler) := by
  unfold start
  split
  · exact .refused
  · rename_i notStopping
    have accepting : runtime.lifecycle.stopping = false := by
      simpa using notStopping
    split
    · rename_i running
      obtain ⟨engine, isEngine⟩ := Option.isSome_iff_exists.mp running
      exact .running accepting isEngine
    · rename_i stopped
      have isStopped : runtime.lifecycle.engine = none := by
        simpa using stopped
      cases created with
      | error cause =>
          exact .refused
      | ok engine =>
          dsimp only
          split <;> exact .installed accepting isStopped rfl rfl

/-- The test of the loop: calls are in flight, or the engine is erased. -/
inductive Awaits
    (runtime : HwRuntime Engine Scheduler) :
    StopOutcome × HwRuntime Engine Scheduler → Prop where
  | waits :
      Awaits runtime (.waiting, runtime)
  | erases
      {result : Except FfiFailure Unit}
      {after : HwRuntime Engine Scheduler} :
      runtime.lifecycle.activeCalls = 0 →
      after.lifecycle.engine = none →
      after.lifecycle.activeCalls = 0 →
      Awaits runtime (.returned result, after)

theorem awaitIdle_awaits (runtime : HwRuntime Engine Scheduler) :
    runtime.Awaits runtime.awaitIdle := by
  unfold awaitIdle
  split
  · exact .waits
  · rename_i idle
    have isIdle : runtime.lifecycle.activeCalls = 0 := by
      simpa using idle
    dsimp only
    split <;> exact .erases isIdle rfl isIdle

/-- Without calls in flight the loop ends and erases the engine. -/
theorem awaitIdle_of_idle
    {runtime : HwRuntime Engine Scheduler}
    (idle : runtime.lifecycle.activeCalls = 0) :
    ∃ result after,
      runtime.awaitIdle = (.returned result, after) ∧
        after.lifecycle.engine = none := by
  cases poisoned : runtime.schedulerPoisoned with
  | false =>
      simp [awaitIdle, idle, poisoned]
  | true =>
      simp [awaitIdle, idle, poisoned]

/-- What a stop does before it returns or waits. -/
inductive Stops
    (runtime : HwRuntime Engine Scheduler) :
    StopOutcome × HwRuntime Engine Scheduler → Prop where
  | stopped :
      runtime.lifecycle.engine = none →
      Stops runtime (.returned (.ok ()), runtime)
  | waits
      {engine : Engine} :
      runtime.lifecycle.engine = some engine →
      Stops runtime
        (.waiting,
          { runtime with
            lifecycle := { runtime.lifecycle with stopping := true } })
  | erases
      {result : Except FfiFailure Unit}
      {after : HwRuntime Engine Scheduler} :
      runtime.lifecycle.activeCalls = 0 →
      after.lifecycle.engine = none →
      after.lifecycle.activeCalls = 0 →
      Stops runtime (.returned result, after)

theorem stop_stops (runtime : HwRuntime Engine Scheduler) :
    runtime.Stops runtime.stop := by
  unfold stop
  split
  · rename_i stopped
    exact .stopped (by simpa using stopped)
  · rename_i running
    obtain ⟨engine, isEngine⟩ := Option.ne_none_iff_exists'.mp
      (by simpa using running)
    generalize isAwaiting :
      ({ runtime with
        lifecycle := { runtime.lifecycle with stopping := true } } :
          HwRuntime Engine Scheduler) = awaiting
    have awaits := awaiting.awaitIdle_awaits
    generalize awaiting.awaitIdle = outcome at awaits
    cases awaits with
    | waits =>
        rw [← isAwaiting]
        exact .waits isEngine
    | erases idle erased stillIdle =>
        rw [← isAwaiting] at idle
        exact .erases idle erased stillIdle

end HwRuntime

/-- The value of a `RuntimeCall`, by an arbitrary name. -/
abbrev CallId := Nat

/-- A call of `hw_runtime_stop`, by an arbitrary name. -/
abbrev StopId := Nat

/-- A runtime with the calls in flight and the stops that wait. -/
structure RuntimeSystem (Engine Scheduler : Type) where
  runtime : HwRuntime Engine Scheduler
  calls : List CallId
  waiting : List StopId
  deriving DecidableEq

/-- A critical section, with what it returns. -/
inductive RuntimeEvent (Engine Scheduler : Type) where
  | start
      (created : Except String Engine)
      (scheduler : Scheduler)
      (result : Except FfiFailure Unit)
  | beginCall (call : CallId) (result : Except FfiFailure Engine)
  | dropCall (call : CallId)
  | stop (stop : StopId) (outcome : StopOutcome)
  /-- A stop that waited has the mutex again. -/
  | wake (stop : StopId) (outcome : StopOutcome)
  /-- A thread panics while it holds the scheduler. -/
  | poisonScheduler

/-- A start or the begin of a call that succeeds. -/
inductive RuntimeEvent.Admits {Engine Scheduler : Type} :
    RuntimeEvent Engine Scheduler → Prop where
  | start
      {created : Except String Engine}
      {scheduler : Scheduler} :
      Admits (.start created scheduler (.ok ()))
  | beginCall
      {call : CallId}
      {engine : Engine} :
      Admits (.beginCall call (.ok engine))

/-- A stop, waiting before or not, that returns with success. -/
inductive RuntimeEvent.StopsOk {Engine Scheduler : Type} :
    RuntimeEvent Engine Scheduler → Prop where
  | stop
      {stop : StopId} :
      StopsOk (.stop stop (.returned (.ok ())))
  | wake
      {stop : StopId} :
      StopsOk (.wake stop (.returned (.ok ())))

namespace RuntimeSystem

variable {Engine Scheduler : Type}

/-- A runtime that was created and that nobody uses yet. -/
def new : RuntimeSystem Engine Scheduler where
  runtime := .new
  calls := []
  waiting := []

/-- The critical sections, in any order and by any number of threads. -/
inductive Step :
    RuntimeSystem Engine Scheduler → RuntimeEvent Engine Scheduler →
      RuntimeSystem Engine Scheduler → Prop where
  | start
      {before : RuntimeSystem Engine Scheduler}
      {created : Except String Engine}
      {scheduler : Scheduler}
      {result : Except FfiFailure Unit}
      {runtime : HwRuntime Engine Scheduler} :
      before.runtime.start created scheduler = (result, runtime) →
      Step before (.start created scheduler result) { before with runtime }
  | accept
      {before : RuntimeSystem Engine Scheduler}
      {call : CallId}
      {engine : Engine}
      {runtime : HwRuntime Engine Scheduler} :
      call ∉ before.calls →
      before.runtime.beginCall = (.ok engine, runtime) →
      Step before (.beginCall call (.ok engine))
        { before with runtime, calls := call :: before.calls }
  | refuse
      {before : RuntimeSystem Engine Scheduler}
      {call : CallId}
      {failure : FfiFailure}
      {runtime : HwRuntime Engine Scheduler} :
      before.runtime.beginCall = (.error failure, runtime) →
      Step before (.beginCall call (.error failure)) { before with runtime }
  | dropCall
      {before : RuntimeSystem Engine Scheduler}
      {call : CallId} :
      call ∈ before.calls →
      Step before (.dropCall call)
        { before with
          runtime := before.runtime.dropCall
          calls := before.calls.erase call }
  | stop
      {before : RuntimeSystem Engine Scheduler}
      {stop : StopId}
      {result : Except FfiFailure Unit}
      {runtime : HwRuntime Engine Scheduler} :
      stop ∉ before.waiting →
      before.runtime.stop = (.returned result, runtime) →
      Step before (.stop stop (.returned result)) { before with runtime }
  | wait
      {before : RuntimeSystem Engine Scheduler}
      {stop : StopId}
      {runtime : HwRuntime Engine Scheduler} :
      stop ∉ before.waiting →
      before.runtime.stop = (.waiting, runtime) →
      Step before (.stop stop .waiting)
        { before with runtime, waiting := stop :: before.waiting }
  | wake
      {before : RuntimeSystem Engine Scheduler}
      {stop : StopId}
      {result : Except FfiFailure Unit}
      {runtime : HwRuntime Engine Scheduler} :
      stop ∈ before.waiting →
      before.runtime.awaitIdle = (.returned result, runtime) →
      Step before (.wake stop (.returned result))
        { before with runtime, waiting := before.waiting.erase stop }
  | waitOn
      {before : RuntimeSystem Engine Scheduler}
      {stop : StopId}
      {runtime : HwRuntime Engine Scheduler} :
      stop ∈ before.waiting →
      before.runtime.awaitIdle = (.waiting, runtime) →
      Step before (.wake stop .waiting) { before with runtime }
  | poisonScheduler
      {before : RuntimeSystem Engine Scheduler} :
      Step before .poisonScheduler
        { before with
          runtime := { before.runtime with schedulerPoisoned := true } }

end RuntimeSystem

end HushWire
