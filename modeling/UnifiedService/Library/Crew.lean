import Mathlib.Logic.Relation
import Mathlib.Logic.Function.Basic

/-! Parties over a shared store, each doing one thing after another. A party with nothing
left starts something new, and each task may put further tasks in front of what its own
party still has to do. The parties interleave in any order, and any may stop for ever. -/

set_option autoImplicit false

namespace UnifiedService.Library

/-- What a party starts, and what one of its tasks does. The choice is what the
environment decides at that step. -/
structure Crew (Store Party Task Choice : Type) where
  start : Store → Party → Choice → Store × List Task
  run : Store → Party → Task → Choice → Store × List Task

structure CrewState (Store Party Task : Type) where
  store : Store
  left : Party → List Task

namespace Crew

variable {Store Party Task Choice : Type} (crew : Crew Store Party Task Choice)

def idle (store : Store) : CrewState Store Party Task := ⟨store, fun _ => []⟩

def advance (state : CrewState Store Party Task) (party : Party) (choice : Choice) :
    Store × List Task :=
  match state.left party with
  | [] => crew.start state.store party choice
  | task :: rest =>
      ((crew.run state.store party task choice).1,
        (crew.run state.store party task choice).2 ++ rest)

theorem advance_start {state : CrewState Store Party Task} {party : Party}
    (nothing : state.left party = []) (choice : Choice) :
    crew.advance state party choice = crew.start state.store party choice := by
  rw [advance, nothing]

theorem advance_run {state : CrewState Store Party Task} {party : Party} {task : Task}
    {rest : List Task} (queued : state.left party = task :: rest) (choice : Choice) :
    crew.advance state party choice =
      ((crew.run state.store party task choice).1,
        (crew.run state.store party task choice).2 ++ rest) := by
  rw [advance, queued]

section Steps

variable [DecidableEq Party]

def step (state : CrewState Store Party Task) (party : Party) (choice : Choice) :
    CrewState Store Party Task :=
  ⟨(crew.advance state party choice).1,
    Function.update state.left party (crew.advance state party choice).2⟩

def Steps (allowed : CrewState Store Party Task → Party → Choice → Prop)
    (before after : CrewState Store Party Task) : Prop :=
  ∃ party choice, allowed before party choice ∧ after = crew.step before party choice

def Reaches (allowed : CrewState Store Party Task → Party → Choice → Prop) :
    CrewState Store Party Task → CrewState Store Party Task → Prop :=
  Relation.ReflTransGen (crew.Steps allowed)

theorem left_step_self (state : CrewState Store Party Task) (party : Party) (choice : Choice) :
    (crew.step state party choice).left party = (crew.advance state party choice).2 :=
  Function.update_self ..

theorem left_step_of_ne (state : CrewState Store Party Task) {party other : Party}
    (choice : Choice) (different : other ≠ party) :
    (crew.step state party choice).left other = state.left other :=
  Function.update_of_ne different ..

theorem step_start {state : CrewState Store Party Task} {party : Party}
    (nothing : state.left party = []) (choice : Choice) :
    (crew.step state party choice).store = (crew.start state.store party choice).1 ∧
      (crew.step state party choice).left party = (crew.start state.store party choice).2 := by
  rw [left_step_self]
  show (crew.advance state party choice).1 = _ ∧ _
  rw [crew.advance_start nothing]
  exact ⟨rfl, rfl⟩

theorem step_run {state : CrewState Store Party Task} {party : Party} {task : Task}
    {rest : List Task} (queued : state.left party = task :: rest) (choice : Choice) :
    (crew.step state party choice).store = (crew.run state.store party task choice).1 ∧
      (crew.step state party choice).left party =
        (crew.run state.store party task choice).2 ++ rest := by
  rw [left_step_self]
  show (crew.advance state party choice).1 = _ ∧ _
  rw [crew.advance_run queued]
  exact ⟨rfl, rfl⟩

end Steps

/-! ### Invariants -/

structure Standing (holds : Store → Prop) (ready : Store → Party → Task → Prop)
    (state : CrewState Store Party Task) : Prop where
  store : holds state.store
  tasks : ∀ party, ∀ task ∈ state.left party, ready state.store party task

theorem Standing.idle {holds : Store → Prop} {ready : Store → Party → Task → Prop}
    {store : Store} (initially : holds store) : Standing holds ready (idle store) :=
  ⟨initially, fun _ _ member => absurd member List.not_mem_nil⟩

/-- What holds as long as nobody is left with a task that still owes its part of it. -/
def Settled (owes : Task → Prop) (settled : Store → Prop)
    (state : CrewState Store Party Task) : Prop :=
  (∀ party, ∀ task ∈ state.left party, ¬owes task) → settled state.store

section Invariants

variable {crew} [DecidableEq Party] {holds : Store → Prop} {ready : Store → Party → Task → Prop}
  {state : CrewState Store Party Task} {party : Party} {choice : Choice}

/-- A party starts only with nothing left, so only the tasks of the others need to stay
ready. A task that is run may have others of its own party behind it. -/
theorem Standing.step (standing : Standing holds ready state)
    (starts : state.left party = [] →
      holds (crew.start state.store party choice).1 ∧
        (∀ task ∈ (crew.start state.store party choice).2,
          ready (crew.start state.store party choice).1 party task) ∧
        ∀ other task, other ≠ party → ready state.store other task →
          ready (crew.start state.store party choice).1 other task)
    (runs : ∀ task rest, state.left party = task :: rest → ready state.store party task →
      holds (crew.run state.store party task choice).1 ∧
        (∀ next ∈ (crew.run state.store party task choice).2,
          ready (crew.run state.store party task choice).1 party next) ∧
        ∀ other waiting, ready state.store other waiting →
          ready (crew.run state.store party task choice).1 other waiting) :
    Standing holds ready (crew.step state party choice) := by
  cases queued : state.left party with
  | nil =>
      obtain ⟨kept, fresh, stable⟩ := starts queued
      obtain ⟨written, added⟩ := crew.step_start queued choice
      constructor
      · rwa [written]
      · intro other task member
        rw [written]
        by_cases same : other = party
        · subst same
          rw [added] at member
          exact fresh task member
        · rw [left_step_of_ne _ _ _ same] at member
          exact stable other task same (standing.tasks other task member)
  | cons task rest =>
      have here : ∀ waiting ∈ task :: rest, ready state.store party waiting := by
        rw [← queued]
        exact standing.tasks party
      obtain ⟨kept, fresh, stable⟩ := runs task rest queued (here task List.mem_cons_self)
      obtain ⟨written, added⟩ := crew.step_run queued choice
      constructor
      · rwa [written]
      · intro other waiting member
        rw [written]
        by_cases same : other = party
        · subst same
          rw [added] at member
          rcases List.mem_append.mp member with new | behind
          · exact fresh waiting new
          · exact stable other waiting (here waiting (List.mem_cons_of_mem task behind))
        · rw [left_step_of_ne _ _ _ same] at member
          exact stable other waiting (standing.tasks other waiting member)

/-- Only the task that owed it, or a step that finds it settled, may leave it settled. -/
theorem Settled.step {owes : Task → Prop} {settled : Store → Prop}
    (before : Settled owes settled state)
    (starts : state.left party = [] → settled state.store →
      (∀ next ∈ (crew.start state.store party choice).2, ¬owes next) →
      settled (crew.start state.store party choice).1)
    (runs : ∀ task rest, state.left party = task :: rest →
      owes task ∨ settled state.store →
      (∀ next ∈ (crew.run state.store party task choice).2, ¬owes next) →
      settled (crew.run state.store party task choice).1) :
    Settled owes settled (crew.step state party choice) := by
  intro nobody
  have others : ∀ other, other ≠ party → ∀ task ∈ state.left other, ¬owes task := by
    intro other different task member
    refine nobody other task ?_
    rwa [left_step_of_ne _ _ _ different]
  cases queued : state.left party with
  | nil =>
      obtain ⟨written, added⟩ := crew.step_start queued choice
      rw [written]
      refine starts queued (before fun other task member => ?_) fun next member => ?_
      · by_cases same : other = party
        · rw [same, queued] at member
          exact absurd member List.not_mem_nil
        · exact others other same task member
      · exact nobody party next (by rwa [added])
  | cons task rest =>
      obtain ⟨written, added⟩ := crew.step_run queued choice
      rw [written]
      refine runs task rest queued ?_ fun next member =>
        nobody party next (by rw [added]; exact List.mem_append_left _ member)
      by_cases owing : owes task
      · exact .inl owing
      · refine .inr (before fun other waiting member => ?_)
        by_cases same : other = party
        · rw [same, queued] at member
          rcases List.mem_cons.mp member with rfl | behind
          · exact owing
          · exact nobody party waiting (by rw [added]; exact List.mem_append_right _ behind)
        · exact others other same waiting member

theorem Reaches.keeps {allowed : CrewState Store Party Task → Party → Choice → Prop}
    (kept : CrewState Store Party Task → Prop) {before after : CrewState Store Party Task}
    (steps : ∀ state party choice, kept state → allowed state party choice →
      kept (crew.step state party choice))
    (initially : kept before) (reached : crew.Reaches allowed before after) : kept after := by
  induction reached with
  | refl => exact initially
  | tail _ stepped ih =>
      obtain ⟨party, choice, permitted, rfl⟩ := stepped
      exact steps _ party choice ih permitted

end Invariants

/-! ### Scripted runs -/

variable [DecidableEq Party]

/-- Plays a script of parties and choices, as long as the check lets each step pass. -/
def play (check : CrewState Store Party Task → Party → Choice → Bool) :
    CrewState Store Party Task → List (Party × Choice) → Option (CrewState Store Party Task)
  | state, [] => some state
  | state, (party, choice) :: script =>
      if check state party choice then play check (crew.step state party choice) script else none

theorem play_sound {check : CrewState Store Party Task → Party → Choice → Bool}
    {allowed : CrewState Store Party Task → Party → Choice → Prop}
    (lawful : ∀ state party choice, check state party choice = true →
      allowed state party choice)
    {script : List (Party × Choice)} {before after : CrewState Store Party Task}
    (played : crew.play check before script = some after) : crew.Reaches allowed before after := by
  induction script generalizing before with
  | nil =>
      obtain rfl := Option.some.inj played
      exact .refl
  | cons turn script ih =>
      obtain ⟨party, choice⟩ := turn
      rw [play] at played
      split at played
      · next passed =>
          exact .head ⟨party, choice, lawful _ _ _ passed, rfl⟩ (ih played)
      · contradiction

theorem play_append (check : CrewState Store Party Task → Party → Choice → Bool)
    (state : CrewState Store Party Task) (script more : List (Party × Choice)) :
    crew.play check state (script ++ more) =
      (crew.play check state script).bind fun after => crew.play check after more := by
  induction script generalizing state with
  | nil => rfl
  | cons turn script ih =>
      obtain ⟨party, choice⟩ := turn
      rw [List.cons_append, play, play]
      split
      · exact ih _
      · rfl

end Crew

end UnifiedService.Library
