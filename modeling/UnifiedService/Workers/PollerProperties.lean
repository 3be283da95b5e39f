import UnifiedService.Workers.Poller

/-! A poller polls alone, never falls asleep for good, and comes in time unless it is called too
often. -/

set_option autoImplicit false

namespace UnifiedService.Workers

def WorkerConfig.longestRest (config : WorkerConfig) : Nat :=
  max config.pollIntervalMs config.idlePollIntervalMs

theorem delayAfter_le (config : WorkerConfig) (handled : Nat) :
    BasePoller.delayAfter config handled ≤ config.longestRest := by
  unfold BasePoller.delayAfter WorkerConfig.longestRest
  split
  · exact Nat.zero_le _
  · split
    · exact Nat.le_max_left _ _
    · exact Nat.le_max_right _ _

/-- What an event can do to a poller whose timer is pending only while it neither polls nor
stops. -/
inductive PollerMove (config : WorkerConfig) (run : PollerRun) : PollerEvent → PollerRun → Prop
  | ignored (event : PollerEvent) (idle : event = .wake → run.poller.stopping = true)
      (still : ∀ ms, event ≠ .elapses ms) : PollerMove config run event run
  | noted (stopping : run.poller.stopping = false) (running : run.poller.running = true) :
      PollerMove config run .wake
        { run with poller := { run.poller with wakeRequested := true } }
  | woken (stopping : run.poller.stopping = false) (running : run.poller.running = false) :
      PollerMove config run .wake
        { run with
          poller := { run.poller with
            wakeRequested := true
            timer := some (run.poller.now + notifyDebounceMs) }
          wakes := run.wakes + 1
          lastWake := some run.poller.now }
  | polls (due : Nat) (pending : run.poller.timer = some due) (come : due ≤ run.poller.now)
      (running : run.poller.running = false) (stopping : run.poller.stopping = false) :
      PollerMove config run .tick
        { run with
          poller := { run.poller with timer := none, running := true, wakeRequested := false }
          begun := run.begun + 1 }
  | rests (handled : Option Nat) (delay : Nat) (bound : delay ≤ config.longestRest)
      (called : run.poller.wakeRequested = true → delay = 0)
      (running : run.poller.running = true) (stopping : run.poller.stopping = false) :
      PollerMove config run (.settles handled)
        { run with
          poller := { run.poller with
            running := false
            wakeRequested := false
            timer := some (run.poller.now + delay) }
          restingSince := run.poller.now
          wakes := 0
          lastWake := none }
  | ends (handled : Option Nat) (running : run.poller.running = true)
      (stopping : run.poller.stopping = true) :
      PollerMove config run (.settles handled)
        { run with
          poller := { run.poller with running := false, wakeRequested := false }
          restingSince := run.poller.now
          wakes := 0
          lastWake := none }
  | elapses (ms : Nat) :
      PollerMove config run (.elapses ms)
        { run with poller := { run.poller with now := run.poller.now + ms } }
  | stops :
      PollerMove config run .onApplicationShutdown
        { run with poller := { run.poller with stopping := true, timer := none } }

/-- A timer is pending only while the poller neither polls nor stops. -/
def TimerAlone (poller : BasePoller) : Prop :=
  ∀ due, poller.timer = some due → poller.running = false ∧ poller.stopping = false

section Moves

variable {config : WorkerConfig} {run : PollerRun}

theorem wake_moves (run : PollerRun) : PollerMove config run .wake (run.step config .wake) := by
  obtain ⟨⟨now, timer, running, stopping, wakeRequested⟩, begun, restingSince, wakes, lastWake⟩ :=
    run
  cases stopping with
  | true =>
      cases running with
      | true | false => exact .ignored _ (fun _ => rfl) (fun _ => by simp)
  | false =>
      cases running with
      | true => exact .noted rfl rfl
      | false => exact .woken rfl rfl

theorem tick_moves (alone : TimerAlone run.poller) :
    PollerMove config run .tick (run.step config .tick) := by
  obtain ⟨⟨now, timer, running, stopping, wakeRequested⟩, begun, restingSince, wakes, lastWake⟩ :=
    run
  have ignored : ∀ run, PollerMove config run .tick run :=
    fun run => .ignored _ (fun impossible => by contradiction) (fun _ => by simp)
  cases timer with
  | none =>
      cases running with
      | true | false => exact ignored _
  | some due =>
      obtain ⟨resting, going⟩ := alone due rfl
      dsimp only at resting going
      subst resting going
      by_cases come : due ≤ now
      · have called : BasePoller.isDue ⟨now, some due, false, false, wakeRequested⟩ = true :=
          decide_eq_true come
        simp only [PollerRun.step, BasePoller.step, called, if_true]
        exact .polls due rfl come rfl rfl
      · have early : BasePoller.isDue ⟨now, some due, false, false, wakeRequested⟩ = false :=
          decide_eq_false come
        simp only [PollerRun.step, BasePoller.step, early, if_false, Bool.false_eq_true]
        exact ignored _

theorem settle_moves (run : PollerRun) (handled : Option Nat) :
    PollerMove config run (.settles handled) (run.step config (.settles handled)) := by
  obtain ⟨⟨now, timer, running, stopping, wakeRequested⟩, begun, restingSince, wakes, lastWake⟩ :=
    run
  cases running with
  | false => exact .ignored _ (fun impossible => by contradiction) (fun _ => by simp)
  | true =>
      cases stopping with
      | true =>
          cases wakeRequested with
          | true | false => exact .ends handled rfl rfl
      | false =>
          cases wakeRequested with
          | true => exact .rests handled 0 (Nat.zero_le _) (fun _ => rfl) rfl rfl
          | false =>
              exact .rests handled _ (delayAfter_le config (handled.getD 0))
                (fun impossible => by contradiction) rfl rfl

theorem run_moves (alone : TimerAlone run.poller) (event : PollerEvent) :
    PollerMove config run event (run.step config event) := by
  cases event with
  | wake => exact wake_moves run
  | tick => exact tick_moves alone
  | settles handled => exact settle_moves run handled
  | elapses ms => exact .elapses ms
  | onApplicationShutdown => exact .stops

end Moves

/-! ### What always holds -/

structure PollerSound (config : WorkerConfig) (run : PollerRun) : Prop where
  alone : TimerAlone run.poller
  awake : run.poller.stopping = false → run.poller.running = false →
    ∃ due, run.poller.timer = some due
  heard : run.poller.wakeRequested = true → run.poller.running = false →
    run.poller.stopping = false → ∃ woken, run.lastWake = some woken ∧
      run.poller.timer = some (woken + notifyDebounceMs)
  bounded : ∀ due, run.poller.timer = some due →
    due ≤ run.restingSince + config.longestRest ∨
      ∃ woken, run.lastWake = some woken ∧ due = woken + notifyDebounceMs

theorem pollerSound_start (config : WorkerConfig) (now : Nat) :
    PollerSound config (.start now) where
  alone _ _ := ⟨rfl, rfl⟩
  awake _ _ := ⟨now, rfl⟩
  heard impossible := by contradiction
  bounded due same := by
    cases same
    exact .inl (Nat.le_add_right _ _)

section Runs

variable {config : WorkerConfig} {run later : PollerRun} {event : PollerEvent}

theorem PollerMove.sound (move : PollerMove config run event later)
    (sound : PollerSound config run) : PollerSound config later := by
  cases move with
  | ignored => exact sound
  | noted stopping running =>
      refine ⟨sound.alone, sound.awake, ?_, sound.bounded⟩
      intro _ resting
      rw [running] at resting
      contradiction
  | woken stopping running =>
      refine ⟨fun _ _ => ⟨running, stopping⟩, fun _ _ => ⟨_, rfl⟩, ?_, ?_⟩
      · intro _ _ _
        exact ⟨_, rfl, rfl⟩
      · intro due same
        cases same
        exact .inr ⟨_, rfl, rfl⟩
  | polls due pending come running stopping =>
      refine ⟨?_, ?_, ?_, ?_⟩
      · intro due impossible
        contradiction
      · intro _ impossible
        contradiction
      · intro impossible
        contradiction
      · intro due impossible
        contradiction
  | rests handled delay bound called running stopping =>
      refine ⟨fun _ _ => ⟨rfl, stopping⟩, fun _ _ => ⟨_, rfl⟩, ?_, ?_⟩
      · intro impossible
        contradiction
      · intro due same
        cases same
        exact .inl (Nat.add_le_add_left bound _)
  | ends handled running stopping =>
      have silent : ∀ due, run.poller.timer ≠ some due := by
        intro due pending
        have going := (sound.alone due pending).2
        rw [stopping] at going
        contradiction
      refine ⟨?_, ?_, ?_, ?_⟩
      · intro due pending
        exact absurd pending (silent due)
      · intro going
        rw [stopping] at going
        contradiction
      · intro impossible
        contradiction
      · intro due pending
        exact absurd pending (silent due)
  | elapses ms => exact ⟨sound.alone, sound.awake, sound.heard, sound.bounded⟩
  | stops =>
      refine ⟨?_, ?_, ?_, ?_⟩
      · intro due impossible
        contradiction
      · intro impossible
        contradiction
      · intro _ _ impossible
        contradiction
      · intro due impossible
        contradiction

theorem PollerSound.step (sound : PollerSound config run) (event : PollerEvent) :
    PollerSound config (run.step config event) :=
  (run_moves sound.alone event).sound sound

theorem PollerSound.after (sound : PollerSound config run) (events : List PollerEvent) :
    PollerSound config (run.after config events) := by
  induction events generalizing run with
  | nil => exact sound
  | cons event events ih => exact ih (sound.step event)

/-- A poller that stops begins no poll, and one that it has ended stays ended. -/
theorem stopped_step (sound : PollerSound config run) (stopping : run.poller.stopping = true)
    (event : PollerEvent) :
    (run.step config event).poller.stopping = true ∧ (run.step config event).begun = run.begun ∧
      (run.poller.running = false → (run.step config event).poller.running = false) := by
  have move : PollerMove config run event _ := run_moves sound.alone event
  generalize run.step config event = later at move
  cases move with
  | ignored => exact ⟨stopping, rfl, id⟩
  | elapses | stops => exact ⟨by first | exact stopping | rfl, rfl, id⟩
  | ends => exact ⟨stopping, rfl, fun _ => rfl⟩
  | noted going | woken going | polls _ _ _ _ going | rests _ _ _ _ _ going =>
      rw [stopping] at going
      contradiction

theorem stopped_after (sound : PollerSound config run) (stopping : run.poller.stopping = true)
    (events : List PollerEvent) :
    (run.after config events).begun = run.begun ∧
      (run.poller.running = false → (run.after config events).poller.running = false) := by
  induction events generalizing run with
  | nil => exact ⟨rfl, id⟩
  | cons event events ih =>
      obtain ⟨still, count, ended⟩ := stopped_step sound stopping event
      obtain ⟨begun, over_⟩ := ih (sound.step event) still
      exact ⟨begun.trans count, fun resting => over_ (ended resting)⟩

/-- A wake during a poll is answered by the next one at once. -/
theorem settles_called (handled : Option Nat) (running : run.poller.running = true)
    (stopping : run.poller.stopping = false) (called : run.poller.wakeRequested = true) :
    (run.step config (.settles handled)).poller.timer = some run.poller.now := by
  simp only [PollerRun.step, BasePoller.step, running, if_true, BasePoller.settle, called,
    BasePoller.schedule, stopping, Bool.false_eq_true, if_false, Nat.add_zero]

end Runs

/-- Whatever happens to a poller, it polls or waits for its timer and never both, until it is
stopped. A wake that came at rest and that no poll has answered is what the timer is set to, one
that came during a poll is answered right after it, and from the shutdown on no poll begins. -/
theorem poller_never_dormant (config : WorkerConfig) (now : Nat) (events more : List PollerEvent) :
    PollerSound config ((PollerRun.start now).after config events) ∧
      (((PollerRun.start now).after config events).poller.running = true →
        ((PollerRun.start now).after config events).poller.stopping = false →
        ((PollerRun.start now).after config events).poller.wakeRequested = true → ∀ handled,
          ((PollerRun.start now).after config (events ++ [.settles handled])).poller.timer =
            some ((PollerRun.start now).after config events).poller.now) ∧
      (((PollerRun.start now).after config events).poller.stopping = true →
        ((PollerRun.start now).after config (events ++ more)).begun =
            ((PollerRun.start now).after config events).begun ∧
          (((PollerRun.start now).after config events).poller.running = false →
            ((PollerRun.start now).after config (events ++ more)).poller.running = false)) := by
  have sound := (pollerSound_start config now).after events
  refine ⟨sound, fun running stopping called handled => ?_, fun stopping => ?_⟩
  · have settled : (PollerRun.start now).after config (events ++ [.settles handled]) =
        ((PollerRun.start now).after config events).step config (.settles handled) :=
      List.foldl_concat ..
    rw [settled]
    exact settles_called handled running stopping called
  · have appended : (PollerRun.start now).after config (events ++ more) =
        ((PollerRun.start now).after config events).after config more := List.foldl_append ..
    rw [appended]
    exact stopped_after sound stopping more

/-! ### When the next poll comes -/

/-- A timer that is not passed by the clock, and that every wake since the rest began has put
off by no more than the debounce. -/
structure PollerPaced (config : WorkerConfig) (run : PollerRun) : Prop where
  ahead : ∀ due, run.poller.timer = some due → run.poller.now ≤ due
  paced : ∀ due, run.poller.timer = some due →
    due ≤ run.restingSince + config.longestRest + notifyDebounceMs * run.wakes

theorem pollerPaced_start (config : WorkerConfig) (now : Nat) :
    PollerPaced config (.start now) where
  ahead due same := by
    cases same
    exact Nat.le_refl _
  paced due same := by
    cases same
    exact Nat.le_add_right_of_le (Nat.le_add_right _ _)

section Paced

variable {config : WorkerConfig} {run later : PollerRun} {event : PollerEvent}

theorem PollerMove.paced (move : PollerMove config run event later)
    (prompt : run.onTime event = true)
    (sound : PollerSound config run) (paced : PollerPaced config run) :
    PollerPaced config later := by
  cases move with
  | ignored | noted => exact ⟨paced.ahead, paced.paced⟩
  | woken stopping running =>
      obtain ⟨due, pending⟩ := sound.awake stopping running
      have ahead := paced.ahead due pending
      have bound := paced.paced due pending
      constructor
      · intro again same
        cases same
        exact Nat.le_add_right _ _
      · intro again same
        cases same
        dsimp only
        rw [Nat.mul_succ]
        omega
  | polls | stops =>
      constructor
      · intro due impossible
        contradiction
      · intro due impossible
        contradiction
  | rests handled delay bound called running stopping =>
      constructor
      · intro due same
        cases same
        exact Nat.le_add_right _ _
      · intro due same
        cases same
        exact Nat.le_add_right_of_le (Nat.add_le_add_left bound _)
  | ends handled running stopping =>
      constructor
      · intro due pending
        have going := (sound.alone due pending).2
        rw [stopping] at going
        contradiction
      · intro due pending
        have going := (sound.alone due pending).2
        rw [stopping] at going
        contradiction
  | elapses ms =>
      refine ⟨fun due pending => ?_, paced.paced⟩
      rw [PollerRun.onTime, pending] at prompt
      exact of_decide_eq_true prompt

theorem PollerPaced.after (sound : PollerSound config run) (paced : PollerPaced config run)
    {events : List PollerEvent} (prompt : run.Prompt config events) :
    PollerPaced config (run.after config events) := by
  induction events generalizing run with
  | nil => exact paced
  | cons event events ih =>
      exact ih (sound.step event) ((run_moves sound.alone event).paced prompt.1 sound paced) prompt.2

end Paced

/-- Where timers are called on time, a poller that does not poll has rested no longer than its
interval, or the last wake is no older than the debounce; and each wake has cost no more than
one debounce. -/
theorem poll_comes_in_time (config : WorkerConfig) (now : Nat) (events : List PollerEvent)
    (prompt : (PollerRun.start now).Prompt config events)
    (going : ((PollerRun.start now).after config events).poller.stopping = false)
    (resting : ((PollerRun.start now).after config events).poller.running = false) :
    (((PollerRun.start now).after config events).poller.now ≤
        ((PollerRun.start now).after config events).restingSince + config.longestRest ∨
      ∃ woken, ((PollerRun.start now).after config events).lastWake = some woken ∧
        ((PollerRun.start now).after config events).poller.now ≤ woken + notifyDebounceMs) ∧
    ((PollerRun.start now).after config events).poller.now ≤
      ((PollerRun.start now).after config events).restingSince + config.longestRest +
        notifyDebounceMs * ((PollerRun.start now).after config events).wakes := by
  have sound := (pollerSound_start config now).after events
  have paced := (pollerPaced_start config now).after (pollerSound_start config now) prompt
  obtain ⟨due, pending⟩ := sound.awake going resting
  have ahead := paced.ahead due pending
  refine ⟨?_, Nat.le_trans ahead (paced.paced due pending)⟩
  rcases sound.bounded due pending with own | ⟨woken, last, same⟩
  · exact .inl (Nat.le_trans ahead own)
  · exact .inr ⟨woken, last, same ▸ ahead⟩

def lateWake : List PollerEvent :=
  [.tick, .settles (some 0), .elapses 9990, .wake, .elapses 50]

theorem poll_comes_in_time_late_wake :
    ((PollerRun.start 0).after ⟨1000, 10000, 20⟩ lateWake).poller.now = 10040 ∧
      ((PollerRun.start 0).after ⟨1000, 10000, 20⟩ lateWake).poller.now ≤
        ((PollerRun.start 0).after ⟨1000, 10000, 20⟩ lateWake).restingSince +
            WorkerConfig.longestRest ⟨1000, 10000, 20⟩ +
          notifyDebounceMs * ((PollerRun.start 0).after ⟨1000, 10000, 20⟩ lateWake).wakes :=
  ⟨by decide, (poll_comes_in_time ⟨1000, 10000, 20⟩ 0 lateWake
    ⟨by decide, by decide, by decide, by decide, by decide, trivial⟩ (by decide) (by decide)).2⟩

/-! ### Wakes that come too often -/

def drumming : Nat → List PollerEvent
  | 0 => []
  | wakes + 1 => .wake :: .elapses (notifyDebounceMs - 1) :: drumming wakes

section Drumming

variable {config : WorkerConfig} {run : PollerRun}

theorem wake_starts (going : run.poller.stopping = false) (resting : run.poller.running = false) :
    run.step config .wake =
      { run with
        poller := { run.poller with
          wakeRequested := true
          timer := some (run.poller.now + notifyDebounceMs) }
        wakes := run.wakes + 1
        lastWake := some run.poller.now } := by
  have move : PollerMove config run .wake _ := wake_moves run
  generalize run.step config .wake = later at move
  cases move with
  | ignored _ idle =>
      rw [going] at idle
      exact absurd (idle rfl) Bool.noConfusion
  | noted _ running =>
      rw [resting] at running
      contradiction
  | woken => rfl

/-- Wakes that come too often put the poll off for as long as they come: its timer is never
due. -/
theorem wakes_starve_the_poll (config : WorkerConfig) (going : run.poller.stopping = false)
    (resting : run.poller.running = false) (wakes : Nat) :
    (run.after config (drumming wakes)).begun = run.begun ∧
      (run.after config (drumming wakes)).poller.now =
        run.poller.now + (notifyDebounceMs - 1) * wakes ∧
      ∀ before, before <+: drumming wakes → before ≠ [] →
        (run.after config before).poller.isDue = false := by
  induction wakes generalizing run with
  | zero =>
      refine ⟨rfl, rfl, fun before begins some_ => ?_⟩
      exact absurd (List.prefix_nil.mp begins) some_
  | succ wakes ih =>
      have woken := @wake_starts config _ going resting
      have beat : (run.step config .wake).step config (.elapses (notifyDebounceMs - 1)) =
          { run with
            poller := { run.poller with
              now := run.poller.now + (notifyDebounceMs - 1)
              wakeRequested := true
              timer := some (run.poller.now + notifyDebounceMs) }
            wakes := run.wakes + 1
            lastWake := some run.poller.now } := by
        rw [woken]
        rfl
      obtain ⟨begun, elapsed, never⟩ := @ih ((run.step config .wake).step config
        (.elapses (notifyDebounceMs - 1))) (by rw [beat]; exact going) (by rw [beat]; exact resting)
      refine ⟨?_, ?_, ?_⟩
      · refine Eq.trans begun ?_
        rw [beat]
      · refine Eq.trans elapsed ?_
        rw [beat]
        dsimp only
        rw [Nat.mul_succ]
        omega
      · intro before begins some_
        cases before with
        | nil => contradiction
        | cons first rest =>
            obtain ⟨rfl, inner⟩ := List.cons_prefix_cons.mp begins
            cases rest with
            | nil =>
                show (run.step config .wake).poller.isDue = false
                rw [woken]
                simp [BasePoller.isDue, notifyDebounceMs]
            | cons second rest =>
                obtain ⟨rfl, deeper⟩ := List.cons_prefix_cons.mp inner
                cases rest with
                | nil =>
                    show ((run.step config .wake).step config
                      (.elapses (notifyDebounceMs - 1))).poller.isDue = false
                    rw [beat]
                    simp [BasePoller.isDue, notifyDebounceMs]
                | cons third rest => exact never _ deeper (List.cons_ne_nil _ _)

end Drumming

theorem wakes_starve_the_poll_a_day :
    (((PollerRun.start 0).after ⟨1000, 10000, 20⟩ [.tick, .settles (some 0)]).after
        ⟨1000, 10000, 20⟩ (drumming 1800000)).begun = 1 :=
  (wakes_starve_the_poll ⟨1000, 10000, 20⟩ (by decide) (by decide) 1800000).1.trans (by decide)

end UnifiedService.Workers
