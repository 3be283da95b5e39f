import Mathlib.Algebra.BigOperators.Group.Finset.Basic
import Mathlib.Algebra.Order.BigOperators.Group.Finset
import UnifiedService.Library.Tally

/-! Crews whose parties have at most one task each: invariants that a party's own steps may
break for its other tasks, and potentials that lie in part with the parties. -/

set_option autoImplicit false

namespace UnifiedService.Library.Crew

variable {Store Party Task Choice : Type} {crew : Crew Store Party Task Choice}

def Solo (state : CrewState Store Party Task) : Prop :=
  ∀ party, (state.left party).length ≤ 1

structure Single (crew : Crew Store Party Task Choice) : Prop where
  start : ∀ store party choice, (crew.start store party choice).2.length ≤ 1
  run : ∀ store party task choice, (crew.run store party task choice).2.length ≤ 1

theorem Solo.idle (store : Store) : Solo (Crew.idle store : CrewState Store Party Task) :=
  fun _ => Nat.zero_le 1

theorem Solo.alone {state : CrewState Store Party Task} (solo : Solo state) {party : Party}
    {task : Task} {rest : List Task} (queued : state.left party = task :: rest) : rest = [] := by
  have short := solo party
  rw [queued, List.length_cons] at short
  exact List.eq_nil_of_length_eq_zero (by omega)

section Steps

variable [DecidableEq Party] {state : CrewState Store Party Task} {party : Party} {choice : Choice}

theorem Solo.step (single : Single crew) (solo : Solo state) :
    Solo (crew.step state party choice) := by
  intro other
  by_cases same : other = party
  · subst same
    cases queued : state.left other with
    | nil =>
        rw [(crew.step_start queued choice).2]
        exact single.start ..
    | cons task rest =>
        rw [(crew.step_run queued choice).2, solo.alone queued, List.append_nil]
        exact single.run ..
  · rw [left_step_of_ne _ _ _ same]
    exact solo other

theorem Standing.step_solo {holds : Store → Prop} {ready : Store → Party → Task → Prop}
    (solo : Solo state) (standing : Standing holds ready state)
    (starts : state.left party = [] →
      holds (crew.start state.store party choice).1 ∧
        (∀ task ∈ (crew.start state.store party choice).2,
          ready (crew.start state.store party choice).1 party task) ∧
        ∀ other task, other ≠ party → ready state.store other task →
          ready (crew.start state.store party choice).1 other task)
    (runs : ∀ task, state.left party = [task] → ready state.store party task →
      holds (crew.run state.store party task choice).1 ∧
        (∀ next ∈ (crew.run state.store party task choice).2,
          ready (crew.run state.store party task choice).1 party next) ∧
        ∀ other waiting, other ≠ party → ready state.store other waiting →
          ready (crew.run state.store party task choice).1 other waiting) :
    Standing holds ready (crew.step state party choice) := by
  have apart : ∀ {store : Store} {tasks : List Task},
      (crew.step state party choice).store = store →
      (crew.step state party choice).left party = tasks → holds store →
      (∀ task ∈ tasks, ready store party task) →
      (∀ other task, other ≠ party → ready state.store other task → ready store other task) →
      Standing holds ready (crew.step state party choice) := by
    intro store tasks written added kept fresh stable
    subst written added
    refine ⟨kept, fun other task member => ?_⟩
    by_cases same : other = party
    · subst same
      exact fresh task member
    · rw [left_step_of_ne _ _ _ same] at member
      exact stable other task same (standing.tasks other task member)
  cases queued : state.left party with
  | nil =>
      obtain ⟨kept, fresh, stable⟩ := starts queued
      obtain ⟨written, added⟩ := crew.step_start queued choice
      exact apart written added kept fresh stable
  | cons task rest =>
      obtain rfl := solo.alone queued
      have here := standing.tasks party task (queued ▸ List.mem_cons_self)
      obtain ⟨kept, fresh, stable⟩ := runs task queued here
      obtain ⟨written, added⟩ := crew.step_run queued choice
      rw [List.append_nil] at added
      exact apart written added kept fresh stable

/-! ### Potentials that lie in part with the parties -/

def shareOf (share : Store → Party → Task → Nat) (state : CrewState Store Party Task)
    (party : Party) : Nat :=
  ((state.left party).map (share state.store party)).sum

omit [DecidableEq Party] in
@[simp] theorem shareOf_idle (share : Store → Party → Task → Nat) (store : Store)
    (party : Party) : shareOf share (Crew.idle store) party = 0 := rfl

omit [DecidableEq Party] in
theorem shareOf_le {share : Store → Party → Task → Nat} {before after : CrewState Store Party Task}
    (same : after.left party = before.left party)
    (within : ∀ task ∈ before.left party,
      share after.store party task ≤ share before.store party task) :
    shareOf share after party ≤ shareOf share before party := by
  unfold shareOf
  rw [same]
  exact List.sum_le_sum within

/-- Where the party of each step pays for its weight out of the store, its own share and the
credit it is given, and no step enlarges the share of another party, the weights of a run
stay within what lay in the store and the credits. -/
theorem tally_le_shared {allowed : CrewState Store Party Task → Party → Choice → Prop}
    (kept : CrewState Store Party Task → Prop) (part : Store → Nat)
    (share : Store → Party → Task → Nat)
    {weight credit : CrewState Store Party Task → Party → Choice → Nat}
    (keeps : ∀ state party choice, kept state → allowed state party choice →
      kept (crew.step state party choice))
    (pays : ∀ state party choice, kept state → allowed state party choice →
      weight state party choice + (part (crew.step state party choice).store +
          shareOf share (crew.step state party choice) party) ≤
        part state.store + shareOf share state party + credit state party choice)
    (others : ∀ state party choice other, kept state → allowed state party choice →
      other ≠ party → ∀ task ∈ state.left other,
        share (crew.step state party choice).store other task ≤ share state.store other task)
    {store : Store} {script : List (Party × Choice)} (initially : kept (Crew.idle store))
    (permitted : crew.Permits allowed (Crew.idle store) script) :
    crew.tally weight (Crew.idle store) script ≤
      part store + crew.tally credit (Crew.idle store) script := by
  let parties := (script.map (·.1)).toFinset
  let potential (state : CrewState Store Party Task) : Nat :=
    part state.store + ∑ party ∈ parties, shareOf share state party
  have bounded : ∀ (rest : List (Party × Choice)) (state : CrewState Store Party Task),
      (∀ turn ∈ rest, turn.1 ∈ parties) → kept state → crew.Permits allowed state rest →
      crew.tally weight state rest ≤ potential state + crew.tally credit state rest := by
    intro rest
    induction rest with
    | nil => exact fun _ _ _ _ => Nat.zero_le _
    | cons turn rest ih =>
        intro state listed holding permitted
        obtain ⟨party, choice⟩ := turn
        have here : party ∈ parties := listed _ List.mem_cons_self
        have paid := pays state party choice holding permitted.1
        have later := ih (crew.step state party choice)
          (fun turn member => listed turn (List.mem_cons_of_mem _ member))
          (keeps state party choice holding permitted.1) permitted.2
        have still : ∑ other ∈ parties.erase party,
            shareOf share (crew.step state party choice) other ≤
              ∑ other ∈ parties.erase party, shareOf share state other := by
          apply Finset.sum_le_sum
          intro other member
          have different := Finset.ne_of_mem_erase member
          exact shareOf_le (left_step_of_ne _ _ _ different)
            (others state party choice other holding permitted.1 different)
        have before := Finset.add_sum_erase parties (shareOf share state) here
        have after := Finset.add_sum_erase parties
          (shareOf share (crew.step state party choice)) here
        simp only [potential, tally] at later ⊢
        omega
  have none_ : ∑ party ∈ parties, shareOf share (Crew.idle store) party = 0 :=
    Finset.sum_eq_zero fun party _ => shareOf_idle share store party
  have whole := bounded script (Crew.idle store)
    (fun turn member => List.mem_toFinset.mpr (List.mem_map_of_mem member)) initially permitted
  simp only [potential, none_] at whole
  exact whole

end Steps

end UnifiedService.Library.Crew
