import Mathlib.Data.List.Induction

/-! Runs judged step by step. What holds after every beginning of a run is judged at each
step, by the step and by what came before it. -/

set_option autoImplicit false

namespace UnifiedService.Library

/-- If a step keeps a property exactly where it is sound, the property holds after every
beginning of a run if and only if every step of the run is sound. -/
theorem forall_beginning_iff {Step : Type} {Holds : List Step → Prop}
    {Sound : List Step → Step → Prop} (start : Holds [])
    (keeps : ∀ earlier next, Holds earlier → (Holds (earlier ++ [next]) ↔ Sound earlier next))
    (steps : List Step) :
    (∀ earlier later, steps = earlier ++ later → Holds earlier) ↔
      ∀ earlier next later, steps = earlier ++ next :: later → Sound earlier next := by
  constructor
  · intro holds earlier next later split
    rw [← keeps earlier next (holds earlier (next :: later) split)]
    exact holds (earlier ++ [next]) later (by rw [split, List.append_assoc]; rfl)
  · intro sound earlier
    induction earlier using List.reverseRecOn with
    | nil => exact fun _ _ => start
    | append_singleton earlier next ih =>
        intro later split
        have apart : steps = earlier ++ next :: later := by
          rw [split, List.append_assoc]
          rfl
        exact (keeps earlier next (ih (next :: later) apart)).mpr (sound earlier next later apart)

end UnifiedService.Library
