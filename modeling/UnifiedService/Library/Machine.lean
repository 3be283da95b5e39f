import Mathlib.Algebra.GroupWithZero.Nat
import Mathlib.Logic.Relation
import Mathlib.Data.List.Basic

/-! Atomic tasks over a shared store. A call opens with a list of tasks, running
a task changes the store in one step and may put further tasks in front of what
its process still has to do. Sessions serve one call at a time, pools any number. -/

set_option autoImplicit false

namespace UnifiedService.Library

/-- What a call opens with, and what one task does to the shared store. The
choice is what the environment decides at that step. -/
structure Machine (Shared Task Call Choice : Type) where
  opening : Call → List Task
  run : Shared → Task → Choice → Shared × List Task

inductive Event (Task Call Choice : Type) where
  | opened (call : Call)
  | ran (task : Task) (choice : Choice)

def Event.call? {Task Call Choice : Type} : Event Task Call Choice → Option Call
  | .opened call => some call
  | .ran _ _ => none

structure Turn (Shared Task Choice : Type) where
  shared : Shared
  task : Task
  choice : Choice

/-- One call at a time: the tasks left are those of the call being served. -/
structure Session (Shared Task : Type) where
  shared : Shared
  tasks : List Task

structure Pool (Shared Task : Type) where
  shared : Shared
  processes : List (List Task)

namespace Machine

variable {Shared Task Call Choice : Type} (machine : Machine Shared Task Call Choice)

inductive SessionStep (allowed : Shared → Event Task Call Choice → Prop) :
    Session Shared Task → Session Shared Task → Prop where
  | opened {shared : Shared} (call : Call) (permitted : allowed shared (.opened call)) :
      SessionStep allowed ⟨shared, []⟩ ⟨shared, machine.opening call⟩
  | ran {shared : Shared} (task : Task) (rest : List Task) (choice : Choice)
      (permitted : allowed shared (.ran task choice)) :
      SessionStep allowed ⟨shared, task :: rest⟩
        ⟨(machine.run shared task choice).1, (machine.run shared task choice).2 ++ rest⟩

inductive PoolStep (allowed : Shared → Event Task Call Choice → Prop) :
    Pool Shared Task → Pool Shared Task → Prop where
  | opened {shared : Shared} {processes : List (List Task)} (call : Call)
      (permitted : allowed shared (.opened call)) :
      PoolStep allowed ⟨shared, processes⟩ ⟨shared, processes ++ [machine.opening call]⟩
  | ran {shared : Shared} {processes : List (List Task)} (index : Nat) (task : Task)
      (rest : List Task) (choice : Choice)
      (next : processes[index]? = some (task :: rest))
      (permitted : allowed shared (.ran task choice)) :
      PoolStep allowed ⟨shared, processes⟩
        ⟨(machine.run shared task choice).1,
          processes.set index ((machine.run shared task choice).2 ++ rest)⟩

def SessionReaches (allowed : Shared → Event Task Call Choice → Prop) (start : Shared)
    (session : Session Shared Task) : Prop :=
  Relation.ReflTransGen (machine.SessionStep allowed) ⟨start, []⟩ session

def PoolReaches (allowed : Shared → Event Task Call Choice → Prop) (start : Shared)
    (pool : Pool Shared Task) : Prop :=
  Relation.ReflTransGen (machine.PoolStep allowed) ⟨start, []⟩ pool

theorem session_invariant {allowed : Shared → Event Task Call Choice → Prop}
    (holds : Shared → List Task → Prop) {start : Shared} (initially : holds start [])
    (opens : ∀ shared call, holds shared [] → allowed shared (.opened call) →
      holds shared (machine.opening call))
    (runs : ∀ shared task rest choice, holds shared (task :: rest) →
      allowed shared (.ran task choice) →
      holds (machine.run shared task choice).1 ((machine.run shared task choice).2 ++ rest))
    {session : Session Shared Task} (reached : machine.SessionReaches allowed start session) :
    holds session.shared session.tasks := by
  induction reached with
  | refl => exact initially
  | tail _ step ih =>
      cases step with
      | opened call permitted => exact opens _ call ih permitted
      | ran task rest choice permitted => exact runs _ task rest choice ih permitted

/-- An invariant of the store, and a property every pending task keeps whatever
task runs, still hold in every pool reached from a pool where they do. -/
theorem pool_invariant_from {allowed : Shared → Event Task Call Choice → Prop}
    (holds : Shared → Prop) (ready : Shared → Task → Prop)
    (opens : ∀ shared call, holds shared → allowed shared (.opened call) →
      ∀ task ∈ machine.opening call, ready shared task)
    (runs : ∀ shared task choice, holds shared → ready shared task →
      allowed shared (.ran task choice) →
      holds (machine.run shared task choice).1 ∧
        (∀ next ∈ (machine.run shared task choice).2,
          ready (machine.run shared task choice).1 next) ∧
        ∀ other, ready shared other → ready (machine.run shared task choice).1 other)
    {start pool : Pool Shared Task} (initially : holds start.shared)
    (waits : ∀ process ∈ start.processes, ∀ task ∈ process, ready start.shared task)
    (reached : Relation.ReflTransGen (machine.PoolStep allowed) start pool) :
    holds pool.shared ∧ ∀ process ∈ pool.processes, ∀ task ∈ process, ready pool.shared task := by
  induction reached with
  | refl => exact ⟨initially, waits⟩
  | tail _ step ih =>
      obtain ⟨holding, pending⟩ := ih
      cases step with
      | opened call permitted =>
          refine ⟨holding, fun process member task waiting => ?_⟩
          rcases List.mem_append.mp member with old | new
          · exact pending process old task waiting
          · rw [List.mem_singleton.mp new] at waiting
            exact opens _ call holding permitted task waiting
      | ran index task rest choice next permitted =>
          have queued := pending _ (List.mem_of_getElem? next)
          obtain ⟨kept, fresh, stable⟩ :=
            runs _ task choice holding (queued task List.mem_cons_self) permitted
          refine ⟨kept, fun process member other waiting => ?_⟩
          rcases List.mem_or_eq_of_mem_set member with old | same
          · exact stable other (pending process old other waiting)
          · subst same
            rcases List.mem_append.mp waiting with added | left
            · exact fresh other added
            · exact stable other (queued other (List.mem_cons_of_mem task left))

theorem pool_invariant {allowed : Shared → Event Task Call Choice → Prop}
    (holds : Shared → Prop) (ready : Shared → Task → Prop) {start : Shared}
    (initially : holds start)
    (opens : ∀ shared call, holds shared → allowed shared (.opened call) →
      ∀ task ∈ machine.opening call, ready shared task)
    (runs : ∀ shared task choice, holds shared → ready shared task →
      allowed shared (.ran task choice) →
      holds (machine.run shared task choice).1 ∧
        (∀ next ∈ (machine.run shared task choice).2,
          ready (machine.run shared task choice).1 next) ∧
        ∀ other, ready shared other → ready (machine.run shared task choice).1 other)
    {pool : Pool Shared Task} (reached : machine.PoolReaches allowed start pool) :
    holds pool.shared ∧ ∀ process ∈ pool.processes, ∀ task ∈ process, ready pool.shared task :=
  machine.pool_invariant_from holds ready opens runs initially (by simp) reached

/-- A task of the numbered process found something of the store, somewhere on the way from
one pool to another. -/
def Found (allowed : Shared → Event Task Call Choice → Prop) (found : Task → Shared → Prop)
    (index : Nat) (start pool : Pool Shared Task) : Prop :=
  ∃ moment task rest, Relation.ReflTransGen (machine.PoolStep allowed) start moment ∧
    moment.processes[index]? = some (task :: rest) ∧ found task moment.shared ∧
    Relation.ReflTransGen (machine.PoolStep allowed) moment pool

theorem pool_carried {allowed : Shared → Event Task Call Choice → Prop}
    (carries : Task → Prop) (found : Task → Shared → Prop)
    (opens : ∀ shared call, allowed shared (.opened call) →
      ∀ task ∈ machine.opening call, ¬carries task)
    (hands : ∀ shared task choice, allowed shared (.ran task choice) →
      ∀ next ∈ (machine.run shared task choice).2, carries next →
        carries task ∨ found task shared)
    {start pool : Pool Shared Task} {index : Nat}
    (none : ∀ process, start.processes[index]? = some process → ∀ task ∈ process, ¬carries task)
    (reached : Relation.ReflTransGen (machine.PoolStep allowed) start pool)
    {process : List Task} (pending : pool.processes[index]? = some process) {task : Task}
    (member : task ∈ process) (carried : carries task) :
    machine.Found allowed found index start pool := by
  induction reached generalizing process task with
  | refl => exact absurd carried (none process pending task member)
  | tail before step ih =>
      have later : ∀ {process task}, _ = some process → task ∈ process → carries task →
          machine.Found allowed found index start _ := fun pending member carried => by
        obtain ⟨moment, asking, rest, first, at_, finds, last⟩ := ih pending member carried
        exact ⟨moment, asking, rest, first, at_, finds, last.tail step⟩
      have took := step
      cases step with
      | @opened shared processes call permitted =>
          rcases Nat.lt_or_ge index processes.length with old | new
          · rw [List.getElem?_append_left old] at pending
            exact later pending member carried
          · rw [List.getElem?_append_right new] at pending
            obtain rfl := List.mem_singleton.mp (List.mem_of_getElem? pending)
            exact absurd carried (opens shared call permitted task member)
      | @ran shared processes other running rest choice next permitted =>
          by_cases same : other = index
          · subst same
            obtain ⟨within, -⟩ := List.getElem?_eq_some_iff.mp next
            rw [List.getElem?_set_self within] at pending
            obtain rfl := Option.some.inj pending
            rcases List.mem_append.mp member with added | behind
            · rcases hands shared running choice permitted task added carried with kept | finds
              · exact later next List.mem_cons_self kept
              · exact ⟨_, running, rest, before, next, finds, .single took⟩
            · exact later next (List.mem_cons_of_mem running behind) carried
          · rw [List.getElem?_set_ne same] at pending
            exact later pending member carried

inductive PoolRun (allowed : Shared → Event Task Call Choice → Prop) (start : Pool Shared Task) :
    List (Event Task Call Choice) → Pool Shared Task → Prop where
  | start : PoolRun allowed start [] start
  | opened {events : List (Event Task Call Choice)} {shared : Shared}
      {processes : List (List Task)} (before : PoolRun allowed start events ⟨shared, processes⟩)
      (call : Call) (permitted : allowed shared (.opened call)) :
      PoolRun allowed start (.opened call :: events)
        ⟨shared, processes ++ [machine.opening call]⟩
  | ran {events : List (Event Task Call Choice)} {shared : Shared}
      {processes : List (List Task)} (before : PoolRun allowed start events ⟨shared, processes⟩)
      (index : Nat) (task : Task) (rest : List Task) (choice : Choice)
      (next : processes[index]? = some (task :: rest))
      (permitted : allowed shared (.ran task choice)) :
      PoolRun allowed start (.ran task choice :: events)
        ⟨(machine.run shared task choice).1,
          processes.set index ((machine.run shared task choice).2 ++ rest)⟩

theorem poolRun_of_reaches {allowed : Shared → Event Task Call Choice → Prop}
    {start pool : Pool Shared Task}
    (reached : Relation.ReflTransGen (machine.PoolStep allowed) start pool) :
    ∃ events, machine.PoolRun allowed start events pool := by
  induction reached with
  | refl => exact ⟨[], .start⟩
  | tail _ step ih =>
      obtain ⟨events, run⟩ := ih
      cases step with
      | opened call permitted => exact ⟨_, run.opened call permitted⟩
      | ran index task rest choice next permitted =>
          exact ⟨_, run.ran index task rest choice next permitted⟩

theorem PoolRun.reaches {allowed : Shared → Event Task Call Choice → Prop}
    {start pool : Pool Shared Task} {events : List (Event Task Call Choice)}
    (run : machine.PoolRun allowed start events pool) :
    Relation.ReflTransGen (machine.PoolStep allowed) start pool := by
  induction run with
  | start => exact .refl
  | opened _ call permitted ih => exact ih.tail (.opened call permitted)
  | ran _ index task rest choice next permitted ih =>
      exact ih.tail (.ran index task rest choice next permitted)

def storeAfter (start : Shared) : List (Event Task Call Choice) → Shared
  | [] => start
  | .opened _ :: events => storeAfter start events
  | .ran task choice :: events => (machine.run (storeAfter start events) task choice).1

def turns (start : Shared) : List (Event Task Call Choice) → List (Turn Shared Task Choice)
  | [] => []
  | .opened _ :: events => turns start events
  | .ran task choice :: events =>
      ⟨machine.storeAfter start events, task, choice⟩ :: turns start events

theorem PoolRun.storeAfter_eq {allowed : Shared → Event Task Call Choice → Prop}
    {start pool : Pool Shared Task} {events : List (Event Task Call Choice)}
    (run : machine.PoolRun allowed start events pool) :
    machine.storeAfter start.shared events = pool.shared := by
  induction run with
  | start => rfl
  | opened _ _ _ ih => exact ih
  | ran _ _ task _ choice _ _ ih =>
      rw [storeAfter, ih]

def weigh (weight : Task → Nat) (tasks : List Task) : Nat := (tasks.map weight).sum

@[simp] theorem weigh_nil (weight : Task → Nat) : weigh weight [] = 0 := rfl

@[simp] theorem weigh_cons (weight : Task → Nat) (task : Task) (tasks : List Task) :
    weigh weight (task :: tasks) = weight task + weigh weight tasks := rfl

@[simp] theorem weigh_append (weight : Task → Nat) (tasks others : List Task) :
    weigh weight (tasks ++ others) = weigh weight tasks + weigh weight others := by
  simp [weigh]

theorem weigh_flatten_set (weight : Task → Nat) {processes : List (List Task)} {index : Nat}
    {process : List Task} (there : processes[index]? = some process) (next : List Task) :
    weigh weight (processes.set index next).flatten + weigh weight process =
      weigh weight processes.flatten + weigh weight next := by
  induction processes generalizing index with
  | nil => simp at there
  | cons first others ih =>
      cases index with
      | zero =>
          obtain rfl := Option.some.inj there
          simp only [List.set_cons_zero, List.flatten_cons, weigh_append]
          omega
      | succ index =>
          have later := ih there
          simp only [List.set_cons_succ, List.flatten_cons, weigh_append]
          omega

/-- A relation between the events of a run, the store and the weight of all that is left to do
holds of every run, if every step that is taken keeps it whatever the others weigh. -/
theorem run_weighed {allowed : Shared → Event Task Call Choice → Prop} (weight : Task → Nat)
    (holds : List (Event Task Call Choice) → Shared → Nat → Prop) {start : Shared}
    (initially : holds [] start 0)
    (opens : ∀ events shared call others, allowed shared (.opened call) →
      holds events shared others →
      holds (.opened call :: events) shared (weigh weight (machine.opening call) + others))
    (runs : ∀ events (pool : Pool Shared Task) process task choice others,
      machine.PoolRun allowed ⟨start, []⟩ events pool → process ∈ pool.processes →
      task ∈ process → allowed pool.shared (.ran task choice) →
      holds events pool.shared (weight task + others) →
      holds (.ran task choice :: events) (machine.run pool.shared task choice).1
        (weigh weight (machine.run pool.shared task choice).2 + others))
    {events : List (Event Task Call Choice)} {pool : Pool Shared Task}
    (run : machine.PoolRun allowed ⟨start, []⟩ events pool) :
    holds events pool.shared (weigh weight pool.processes.flatten) := by
  induction run with
  | start => exact initially
  | opened _ call permitted ih =>
      rw [List.flatten_append, weigh_append, Nat.add_comm]
      simpa using opens _ _ call _ permitted ih
  | @ran events shared processes before index task rest choice next permitted ih =>
      have moved := weigh_flatten_set weight next ((machine.run shared task choice).2 ++ rest)
      rw [weigh_cons, weigh_append] at moved
      have total : weigh weight processes.flatten = weight task +
          (weigh weight processes.flatten - weight task) := by
        have share := weigh_flatten_set weight next rest
        rw [weigh_cons] at share
        omega
      have kept := runs events ⟨shared, processes⟩ _ task choice
        (weigh weight processes.flatten - weight task) before (List.mem_of_getElem? next)
        List.mem_cons_self permitted (total ▸ ih)
      have same : weigh weight
          (processes.set index ((machine.run shared task choice).2 ++ rest)).flatten =
          weigh weight (machine.run shared task choice).2 +
            (weigh weight processes.flatten - weight task) := by
        omega
      rw [same]
      exact kept

theorem pool_weighed {allowed : Shared → Event Task Call Choice → Prop} (weight : Task → Nat)
    (holds : Shared → Nat → Prop) {start : Shared} (initially : holds start 0)
    (opens : ∀ shared call others, allowed shared (.opened call) → holds shared others →
      holds shared (weigh weight (machine.opening call) + others))
    (runs : ∀ (pool : Pool Shared Task) process task choice others,
      machine.PoolReaches allowed start pool → process ∈ pool.processes → task ∈ process →
      allowed pool.shared (.ran task choice) → holds pool.shared (weight task + others) →
      holds (machine.run pool.shared task choice).1
        (weigh weight (machine.run pool.shared task choice).2 + others))
    {pool : Pool Shared Task} (reached : machine.PoolReaches allowed start pool) :
    holds pool.shared (weigh weight pool.processes.flatten) := by
  obtain ⟨events, run⟩ := machine.poolRun_of_reaches reached
  exact machine.run_weighed weight (fun _ => holds) initially (fun _ => opens)
    (fun _ pool process task choice others before =>
      runs pool process task choice others before.reaches) run

def serve (choice : Choice) : Nat → Session Shared Task → Session Shared Task
  | 0, session => session
  | _ + 1, ⟨shared, []⟩ => ⟨shared, []⟩
  | fuel + 1, ⟨shared, task :: rest⟩ =>
      serve choice fuel
        ⟨(machine.run shared task choice).1, (machine.run shared task choice).2 ++ rest⟩

/-! ### Scripted runs -/

/-- Plays calls and choices as one session, as long as each is possible and the
check lets it pass. -/
def playSession (check : Shared → Event Task Call Choice → Bool) :
    Session Shared Task → List (Call ⊕ Choice) → Option (Session Shared Task)
  | session, [] => some session
  | ⟨shared, []⟩, .inl call :: script =>
      if check shared (.opened call) then
        playSession check ⟨shared, machine.opening call⟩ script
      else none
  | ⟨shared, task :: rest⟩, .inr choice :: script =>
      if check shared (.ran task choice) then
        playSession check
          ⟨(machine.run shared task choice).1, (machine.run shared task choice).2 ++ rest⟩ script
      else none
  | ⟨_, []⟩, .inr _ :: _ => none
  | ⟨_, _ :: _⟩, .inl _ :: _ => none

def playPool (check : Shared → Event Task Call Choice → Bool) :
    Pool Shared Task → List (Call ⊕ (Nat × Choice)) → Option (Pool Shared Task)
  | pool, [] => some pool
  | pool, .inl call :: script =>
      if check pool.shared (.opened call) then
        playPool check ⟨pool.shared, pool.processes ++ [machine.opening call]⟩ script
      else none
  | pool, .inr (index, choice) :: script =>
      match pool.processes[index]? with
      | some (task :: rest) =>
          if check pool.shared (.ran task choice) then
            playPool check
              ⟨(machine.run pool.shared task choice).1,
                pool.processes.set index ((machine.run pool.shared task choice).2 ++ rest)⟩ script
          else none
      | some [] => none
      | none => none

theorem playSession_sound {check : Shared → Event Task Call Choice → Bool}
    {allowed : Shared → Event Task Call Choice → Prop}
    (lawful : ∀ shared event, check shared event = true → allowed shared event)
    {script : List (Call ⊕ Choice)} {start session : Session Shared Task}
    (played : machine.playSession check start script = some session) :
    Relation.ReflTransGen (machine.SessionStep allowed) start session := by
  induction script generalizing start with
  | nil =>
      obtain ⟨shared, tasks⟩ := start
      obtain rfl := Option.some.inj played
      exact .refl
  | cons event script ih =>
      obtain ⟨shared, tasks⟩ := start
      cases event with
      | inl call =>
          cases tasks with
          | nil =>
              rw [playSession] at played
              split at played
              · next passed => exact .head (.opened call (lawful _ _ passed)) (ih played)
              · contradiction
          | cons task rest => contradiction
      | inr choice =>
          cases tasks with
          | nil => contradiction
          | cons task rest =>
              rw [playSession] at played
              split at played
              · next passed => exact .head (.ran task rest choice (lawful _ _ passed)) (ih played)
              · contradiction

theorem playPool_sound {check : Shared → Event Task Call Choice → Bool}
    {allowed : Shared → Event Task Call Choice → Prop}
    (lawful : ∀ shared event, check shared event = true → allowed shared event)
    {script : List (Call ⊕ (Nat × Choice))} {start pool : Pool Shared Task}
    (played : machine.playPool check start script = some pool) :
    Relation.ReflTransGen (machine.PoolStep allowed) start pool := by
  induction script generalizing start with
  | nil =>
      obtain rfl := Option.some.inj played
      exact .refl
  | cons event script ih =>
      cases event with
      | inl call =>
          rw [playPool] at played
          split at played
          · next passed => exact .head (.opened call (lawful _ _ passed)) (ih played)
          · contradiction
      | inr turn =>
          obtain ⟨index, choice⟩ := turn
          rw [playPool] at played
          split at played
          · next task rest queued =>
              split at played
              · next passed =>
                  exact .head (.ran index task rest choice queued (lawful _ _ passed)) (ih played)
              · contradiction
          · contradiction
          · contradiction

end Machine

end UnifiedService.Library
