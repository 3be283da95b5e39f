import Mathlib.Data.List.Nodup
import Mathlib.Data.List.Perm.Basic
import UnifiedService.Library.Crew

/-! Dues of a crew: what was raised in the store is owed by one task of one party, until it
leaves its hands, once. -/

set_option autoImplicit false

namespace UnifiedService.Library.Crew

variable {Store Party Task Due : Type}

def owed (due : Task → List Due) (tasks : List Task) : List Due := tasks.flatMap due

@[simp] theorem owed_nil (due : Task → List Due) : owed due [] = [] := rfl

@[simp] theorem owed_singleton (due : Task → List Due) (task : Task) :
    owed due [task] = due task := List.flatMap_singleton ..

@[simp] theorem owed_cons (due : Task → List Due) (task : Task) (tasks : List Task) :
    owed due (task :: tasks) = due task ++ owed due tasks := List.flatMap_cons

@[simp] theorem owed_append (due : Task → List Due) (tasks others : List Task) :
    owed due (tasks ++ others) = owed due tasks ++ owed due others := List.flatMap_append

structure Dues (due : Task → List Due) (raised : Due → Prop) (gone : List Due)
    (left : Party → List Task) : Prop where
  once : gone.Nodup
  held : ∀ party, (owed due (left party)).Nodup
  apart : ∀ one other, one ≠ other →
    (owed due (left one)).Disjoint (owed due (left other))
  kept : ∀ party, (owed due (left party)).Disjoint gone
  all : ∀ one, raised one ↔ one ∈ gone ∨ ∃ party, one ∈ owed due (left party)

variable {due : Task → List Due} {raised later : Due → Prop} {gone : List Due}
  {left : Party → List Task}

theorem Dues.idle (nothing : ∀ one, ¬raised one) :
    Dues due raised [] (fun _ : Party => ([] : List Task)) where
  once := List.nodup_nil
  held _ := List.nodup_nil
  apart _ _ _ := List.disjoint_nil_left _
  kept _ := List.disjoint_nil_left _
  all one := by
    constructor
    · exact fun up => absurd up (nothing one)
    · rintro (went | ⟨party, member⟩)
      · exact absurd went List.not_mem_nil
      · exact absurd member List.not_mem_nil

theorem Dues.perm (dues : Dues due raised gone left) {other : List Due}
    (same : gone.Perm other) : Dues due raised other left where
  once := same.nodup_iff.mp dues.once
  held := dues.held
  apart := dues.apart
  kept party := fun one owes went => dues.kept party owes (same.mem_iff.mpr went)
  all one := by rw [dues.all, same.mem_iff]

/-- A party that raises fresh dues, lets some go and goes on owing the rest. -/
structure Conserves (due : Task → List Due) (before after : Due → Prop)
    (had has : List Task) (fresh going : List Due) : Prop where
  balance : (owed due had ++ fresh).Perm (going ++ owed due has)
  new : fresh.Nodup
  unraised : ∀ one ∈ fresh, ¬before one
  raises : ∀ one, after one ↔ before one ∨ one ∈ fresh

theorem Conserves.run {before after : Due → Prop} {task : Task} {next rest : List Task}
    {fresh going : List Due} (balance : (due task ++ fresh).Perm (going ++ owed due next))
    (new : fresh.Nodup) (unraised : ∀ one ∈ fresh, ¬before one)
    (raises : ∀ one, after one ↔ before one ∨ one ∈ fresh) :
    Conserves due before after (task :: rest) (next ++ rest) fresh going := by
  refine ⟨?_, new, unraised, raises⟩
  have front := balance.append_right (owed due rest)
  simp only [owed, List.flatMap_cons, List.flatMap_append, List.append_assoc] at front ⊢
  refine List.Perm.trans ?_ front
  exact List.Perm.append_left _ List.perm_append_comm

theorem Dues.step [DecidableEq Party] (dues : Dues due raised gone left) {party : Party}
    {has : List Task} {fresh going : List Due}
    (conserves : Conserves due raised later (left party) has fresh going) :
    Dues due later (gone ++ going) (Function.update left party has) := by
  have isRaised : ∀ one ∈ owed due (left party), raised one :=
    fun one member => (dues.all one).mpr (.inr ⟨party, member⟩)
  -- What the party has and what is fresh are all different.
  have allOnce : (owed due (left party) ++ fresh).Nodup := by
    rw [List.nodup_append']
    refine ⟨dues.held party, conserves.new, fun one member new => ?_⟩
    exact conserves.unraised one new (isRaised one member)
  have parts := conserves.balance.nodup_iff.mp allOnce
  rw [List.nodup_append'] at parts
  obtain ⟨goingOnce, owedOnce, goingOwed⟩ := parts
  have source : ∀ one, one ∈ going ∨ one ∈ owed due has →
      one ∈ owed due (left party) ∨ one ∈ fresh := by
    intro one member
    exact List.mem_append.mp (conserves.balance.mem_iff.mpr (List.mem_append.mpr member))
  have notGone : ∀ one, one ∈ going ∨ one ∈ owed due has → one ∉ gone := by
    intro one member went
    rcases source one member with had | new
    · exact dues.kept party had went
    · exact conserves.unraised one new ((dues.all one).mpr (.inl went))
  have elsewhere : ∀ one other, other ≠ party → one ∈ going ∨ one ∈ owed due has →
      one ∉ owed due (left other) := by
    intro one other different member there
    rcases source one member with had | new
    · exact dues.apart party other (Ne.symm different) had there
    · exact conserves.unraised one new ((dues.all one).mpr (.inr ⟨other, there⟩))
  constructor
  · rw [List.nodup_append']
    exact ⟨dues.once, goingOnce, fun one went goes => notGone one (.inl goes) went⟩
  · intro other
    by_cases same : other = party
    · subst same
      rwa [Function.update_self]
    · rw [Function.update_of_ne same]
      exact dues.held other
  · intro one other different
    by_cases first : one = party
    · subst first
      rw [Function.update_self, Function.update_of_ne (Ne.symm different)]
      exact fun due member there => elsewhere due other (Ne.symm different) (.inr member) there
    · by_cases second : other = party
      · subst second
        rw [Function.update_self, Function.update_of_ne first]
        exact fun due there member => elsewhere due one first (.inr member) there
      · rw [Function.update_of_ne first, Function.update_of_ne second]
        exact dues.apart one other different
  · intro other
    rw [List.disjoint_append_right]
    by_cases same : other = party
    · subst same
      rw [Function.update_self]
      exact ⟨fun one member => notGone one (.inr member),
        fun one owes goes => goingOwed goes owes⟩
    · rw [Function.update_of_ne same]
      exact ⟨dues.kept other, fun one there goes => elsewhere one other same (.inl goes) there⟩
  · intro one
    rw [conserves.raises, List.mem_append, dues.all]
    constructor
    · rintro ((went | ⟨other, there⟩) | new)
      · exact .inl (.inl went)
      · by_cases same : other = party
        · subst same
          have member := conserves.balance.mem_iff.mp (List.mem_append_left fresh there)
          rcases List.mem_append.mp member with goes | still
          · exact .inl (.inr goes)
          · exact .inr ⟨other, by rwa [Function.update_self]⟩
        · exact .inr ⟨other, by rwa [Function.update_of_ne same]⟩
      · have member := conserves.balance.mem_iff.mp
          (List.mem_append_right (owed due (left party)) new)
        rcases List.mem_append.mp member with goes | still
        · exact .inl (.inr goes)
        · exact .inr ⟨party, by rwa [Function.update_self]⟩
    · rintro ((went | goes) | ⟨other, there⟩)
      · exact .inl (.inl went)
      · rcases source one (.inl goes) with had | new
        · exact .inl (.inr ⟨party, had⟩)
        · exact .inr new
      · by_cases same : other = party
        · subst same
          rw [Function.update_self] at there
          rcases source one (.inr there) with had | new
          · exact .inl (.inr ⟨other, had⟩)
          · exact .inr new
        · rw [Function.update_of_ne same] at there
          exact .inl (.inr ⟨other, there⟩)

end UnifiedService.Library.Crew
