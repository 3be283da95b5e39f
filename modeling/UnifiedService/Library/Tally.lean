import Mathlib.Algebra.GroupWithZero.Nat
import UnifiedService.Library.Crew

/-! What the steps of a crew add up to, step by step, and the potential that bounds it. -/

set_option autoImplicit false

namespace UnifiedService.Library.Crew

variable {Store Party Task Choice : Type} [DecidableEq Party]
  (crew : Crew Store Party Task Choice)

def after : CrewState Store Party Task → List (Party × Choice) → CrewState Store Party Task
  | state, [] => state
  | state, (party, choice) :: script => after (crew.step state party choice) script

def Permits (allowed : CrewState Store Party Task → Party → Choice → Prop) :
    CrewState Store Party Task → List (Party × Choice) → Prop
  | _, [] => True
  | state, (party, choice) :: script =>
      allowed state party choice ∧ Permits allowed (crew.step state party choice) script

def tally (weight : CrewState Store Party Task → Party → Choice → Nat) :
    CrewState Store Party Task → List (Party × Choice) → Nat
  | _, [] => 0
  | state, (party, choice) :: script =>
      weight state party choice + tally weight (crew.step state party choice) script

def collect {Item : Type} (items : CrewState Store Party Task → Party → Choice → List Item) :
    CrewState Store Party Task → List (Party × Choice) → List Item
  | _, [] => []
  | state, (party, choice) :: script =>
      items state party choice ++ collect items (crew.step state party choice) script

def given (measure : Task → Nat) (state : CrewState Store Party Task) (party : Party)
    (choice : Choice) : Nat :=
  match state.left party with
  | [] => ((crew.start state.store party choice).2.map measure).sum
  | _ :: _ => 0

variable {crew}

section Weights

variable {weight other : CrewState Store Party Task → Party → Choice → Nat}
  {state : CrewState Store Party Task}

theorem tally_add (script : List (Party × Choice)) :
    crew.tally (fun state party choice => weight state party choice + other state party choice)
      state script = crew.tally weight state script + crew.tally other state script := by
  induction script generalizing state with
  | nil => rfl
  | cons turn script ih =>
      simp only [tally, ih]
      omega

theorem tally_mul (factor : Nat) (script : List (Party × Choice)) :
    crew.tally (fun state party choice => factor * weight state party choice) state script =
      factor * crew.tally weight state script := by
  induction script generalizing state with
  | nil => rfl
  | cons turn script ih => simp only [tally, ih, Nat.mul_add]

end Weights

theorem Permits.reaches {allowed : CrewState Store Party Task → Party → Choice → Prop}
    {state : CrewState Store Party Task} {script : List (Party × Choice)}
    (permitted : crew.Permits allowed state script) :
    crew.Reaches allowed state (crew.after state script) := by
  induction script generalizing state with
  | nil => exact .refl
  | cons turn script ih => exact .head ⟨turn.1, turn.2, permitted.1, rfl⟩ (ih permitted.2)

theorem Permits.always (state : CrewState Store Party Task) (script : List (Party × Choice)) :
    crew.Permits (fun _ _ _ => True) state script := by
  induction script generalizing state with
  | nil => trivial
  | cons turn script ih => exact ⟨trivial, ih _⟩

theorem Permits.mono {allowed other : CrewState Store Party Task → Party → Choice → Prop}
    {state : CrewState Store Party Task} {script : List (Party × Choice)}
    (permitted : crew.Permits allowed state script)
    (weaker : ∀ state party choice, allowed state party choice → other state party choice) :
    crew.Permits other state script := by
  induction script generalizing state with
  | nil => trivial
  | cons turn script ih => exact ⟨weaker _ _ _ permitted.1, ih permitted.2⟩

theorem left_after_of_not_mem {party : Party} {script : List (Party × Choice)}
    (absent : ∀ turn ∈ script, turn.1 ≠ party) (state : CrewState Store Party Task) :
    (crew.after state script).left party = state.left party := by
  induction script generalizing state with
  | nil => rfl
  | cons turn script ih =>
      rw [after, ih (fun later member => absent later (List.mem_cons_of_mem turn member)),
        crew.left_step_of_ne _ _ (Ne.symm (absent turn List.mem_cons_self))]

/-- An invariant of the state and of what the steps brought so far. -/
theorem after_collect {Item : Type}
    {items : CrewState Store Party Task → Party → Choice → List Item}
    (holds : CrewState Store Party Task → List Item → Prop)
    (steps : ∀ state party choice brought, holds state brought →
      holds (crew.step state party choice) (brought ++ items state party choice))
    {state : CrewState Store Party Task} {brought : List Item} (initially : holds state brought)
    (script : List (Party × Choice)) :
    holds (crew.after state script) (brought ++ crew.collect items state script) := by
  induction script generalizing state brought with
  | nil =>
      rw [collect, List.append_nil]
      exact initially
  | cons turn script ih =>
      rw [collect, ← List.append_assoc]
      exact ih (steps state turn.1 turn.2 brought initially)

/-- Where every step pays for its weight out of a potential and the credit it is given, the
weights of a run stay within the potential it started with and the credits. -/
theorem tally_le {allowed : CrewState Store Party Task → Party → Choice → Prop}
    (kept : CrewState Store Party Task → Prop) (potential : CrewState Store Party Task → Nat)
    {weight credit : CrewState Store Party Task → Party → Choice → Nat}
    (keeps : ∀ state party choice, kept state → allowed state party choice →
      kept (crew.step state party choice))
    (pays : ∀ state party choice, kept state → allowed state party choice →
      weight state party choice + potential (crew.step state party choice) ≤
        potential state + credit state party choice)
    {state : CrewState Store Party Task} {script : List (Party × Choice)} (initially : kept state)
    (permitted : crew.Permits allowed state script) :
    crew.tally weight state script + potential (crew.after state script) ≤
      potential state + crew.tally credit state script := by
  induction script generalizing state with
  | nil => simp [tally, after]
  | cons turn script ih =>
      obtain ⟨party, choice⟩ := turn
      have here := pays state party choice initially permitted.1
      have rest := ih (keeps state party choice initially permitted.1) permitted.2
      simp only [tally, after]
      omega

end UnifiedService.Library.Crew
