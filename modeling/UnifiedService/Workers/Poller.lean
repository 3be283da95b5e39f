import Mathlib.Data.List.Basic

/-! The loop that every worker shares: claim a batch, work it off, sleep, and repeat. A timer
calls the next poll, and a notification may call it earlier. -/

set_option autoImplicit false

namespace UnifiedService.Workers

structure WorkerConfig where
  pollIntervalMs : Nat
  idlePollIntervalMs : Nat
  batchSize : Nat
  deriving DecidableEq, Repr

def notifyDebounceMs : Nat := 50

/-- The clock of the process, and the fields of a poller. Its promise stands exactly while it is
running. -/
structure BasePoller where
  now : Nat
  timer : Option Nat
  running : Bool
  stopping : Bool
  wakeRequested : Bool
  deriving DecidableEq, Repr

/-- What happens to a poller. A poll settles with the rows it handled, or its claim failed. -/
inductive PollerEvent where
  | wake
  | tick
  | settles (handled : Option Nat)
  | elapses (ms : Nat)
  | onApplicationShutdown
  deriving DecidableEq, Repr

namespace BasePoller

def schedule (poller : BasePoller) (delayMs : Nat) : BasePoller :=
  if poller.stopping then poller else { poller with timer := some (poller.now + delayMs) }

def onModuleInit (now : Nat) : BasePoller :=
  schedule ⟨now, none, false, false, false⟩ 0

def wake (poller : BasePoller) : BasePoller :=
  if poller.stopping then poller
  else
    let poller := { poller with wakeRequested := true }
    if poller.running then poller else poller.schedule notifyDebounceMs

def isDue (poller : BasePoller) : Bool := poller.timer.any fun due => decide (due ≤ poller.now)

/-- The first half of `tick`, up to the poll. This poll answers every wake so far. -/
def tick (poller : BasePoller) : BasePoller :=
  let poller := { poller with timer := none }
  if poller.running || poller.stopping then poller
  else { poller with running := true, wakeRequested := false }

/-- A full batch means that there is more. -/
def delayAfter (config : WorkerConfig) (handled : Nat) : Nat :=
  if config.batchSize ≤ handled then 0
  else if 0 < handled then config.pollIntervalMs
  else config.idlePollIntervalMs

/-- The second half of `tick`. A wake that came meanwhile is answered at once. -/
def settle (config : WorkerConfig) (poller : BasePoller) (handled : Option Nat) : BasePoller :=
  let poller := { poller with running := false }
  if poller.wakeRequested then { poller with wakeRequested := false }.schedule 0
  else poller.schedule (delayAfter config (handled.getD 0))

def onApplicationShutdown (poller : BasePoller) : BasePoller :=
  { poller with stopping := true, timer := none }

/-- A callback that is not due does not run, and only a poll under way settles. -/
def step (config : WorkerConfig) (poller : BasePoller) : PollerEvent → BasePoller
  | .wake => poller.wake
  | .tick => if poller.isDue then poller.tick else poller
  | .settles handled => if poller.running then poller.settle config handled else poller
  | .elapses ms => { poller with now := poller.now + ms }
  | .onApplicationShutdown => poller.onApplicationShutdown

end BasePoller

/-! ### Runs -/

/-- A poller with its history: the polls begun, when it last came to rest, and the wakes since
then with the time of the last. -/
structure PollerRun where
  poller : BasePoller
  begun : Nat
  restingSince : Nat
  wakes : Nat
  lastWake : Option Nat
  deriving DecidableEq, Repr

namespace PollerRun

def start (now : Nat) : PollerRun := ⟨.onModuleInit now, 0, now, 0, none⟩

def step (config : WorkerConfig) (run : PollerRun) (event : PollerEvent) : PollerRun :=
  let after := { run with poller := run.poller.step config event }
  match event with
  | .wake =>
      if run.poller.running || run.poller.stopping then after
      else { after with wakes := run.wakes + 1, lastWake := some run.poller.now }
  | .tick =>
      if !run.poller.running && after.poller.running then { after with begun := run.begun + 1 }
      else after
  | .settles _ =>
      if run.poller.running then
        { after with restingSince := run.poller.now, wakes := 0, lastWake := none }
      else after
  | .elapses _ | .onApplicationShutdown => after

def after (config : WorkerConfig) (run : PollerRun) (events : List PollerEvent) : PollerRun :=
  events.foldl (step config) run

def onTime (run : PollerRun) : PollerEvent → Bool
  | .elapses ms => run.poller.timer.all fun due => decide (run.poller.now + ms ≤ due)
  | .wake | .tick | .settles _ | .onApplicationShutdown => true

def Prompt (config : WorkerConfig) (run : PollerRun) : List PollerEvent → Prop
  | [] => True
  | event :: events => run.onTime event = true ∧ Prompt config (run.step config event) events

end PollerRun

end UnifiedService.Workers
