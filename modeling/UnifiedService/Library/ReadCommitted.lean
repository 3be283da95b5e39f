import UnifiedService.Library.Table

/-! Transactions at READ COMMITTED. Statements read what is committed, writes stay
private until the commit, a row lock is kept to the end, and a statement that needs a
row another transaction has locked waits. -/

set_option autoImplicit false

namespace UnifiedService.Library

/-- What a statement comes to. A throw rolls its transaction back. -/
inductive Outcome (Store State : Type) where
  | continues (next : State)
  | commits (store : Store)
  | throws

/-- The statements of transactions: which rows the next one waits for, which of them
it locks, and what it comes to. -/
structure TransactionProgram (Store State Row Choice : Type) where
  waits : Store → State → Choice → List Row
  takes : Store → State → Choice → List Row
  statement : Store → State → Choice → Outcome Store State
  takes_waits : ∀ store state choice, takes store state choice ⊆ waits store state choice

def TransactionProgram.alone {Store State Row Choice : Type}
    (program : TransactionProgram Store State Row Choice) (choice : Choice) :
    Nat → Store → State → Option Store
  | 0, _, _ => none
  | fuel + 1, store, state =>
      match program.statement store state choice with
      | .continues next => program.alone choice fuel store next
      | .commits next => some next
      | .throws => none

section Alone

variable {Store State Row Choice : Type} {program : TransactionProgram Store State Row Choice}
  {choice : Choice} {store committed : Store} {state next : State}

theorem TransactionProgram.alone_continues
    (result : program.statement store state choice = .continues next) (fuel : Nat) :
    program.alone choice (fuel + 1) store state = program.alone choice fuel store next := by
  rw [TransactionProgram.alone, result]

theorem TransactionProgram.alone_commits
    (result : program.statement store state choice = .commits committed) (fuel : Nat) :
    program.alone choice (fuel + 1) store state = some committed := by
  rw [TransactionProgram.alone, result]

theorem TransactionProgram.alone_throws
    (result : program.statement store state choice = .throws) (fuel : Nat) :
    program.alone choice (fuel + 1) store state = none := by
  rw [TransactionProgram.alone, result]

end Alone

structure OpenTransaction (State Row : Type) where
  state : State
  locks : List Row
  deriving DecidableEq, Repr

/-- What is committed, and the transactions begun so far. One that ended is gone, and
its locks with it. -/
structure Server (Store State Row : Type) where
  store : Store
  transactions : Table (Option (OpenTransaction State Row))
  deriving DecidableEq, Repr

namespace Server

variable {Store State Row Choice : Type}

def idle (store : Store) : Server Store State Row where
  store := store
  transactions := .empty

def begin (server : Server Store State Row) (state : State) : Server Store State Row :=
  { server with transactions := server.transactions.insert (some { state, locks := [] }) }

def isOpen (server : Server Store State Row) (id : Nat) : Bool :=
  (server.transactions.get? id).any Option.isSome

def isQuiet (server : Server Store State Row) : Bool :=
  server.transactions.rows.all Option.isNone

def finish (server : Server Store State Row) (id : Nat) : Server Store State Row :=
  { server with transactions := server.transactions.update id fun _ => none }

section Advance

variable [DecidableEq Row]

def lockedByAnother (server : Server Store State Row) (id : Nat) (row : Row) : Bool :=
  (server.transactions.select fun entry => entry.any fun open_ => open_.locks.contains row).any
    fun stored => stored.id != id

def advance (program : TransactionProgram Store State Row Choice)
    (server : Server Store State Row) (id : Nat) (choice : Choice) : Server Store State Row :=
  match server.transactions.get? id with
  | some (some running) =>
      if (program.waits server.store running.state choice).any (server.lockedByAnother id) then
        server
      else
        match program.statement server.store running.state choice with
        | .continues next =>
            { server with
              transactions := server.transactions.update id fun _ =>
                some
                  { state := next
                    locks := running.locks ++ program.takes server.store running.state choice } }
        | .commits store => { server.finish id with store := store }
        | .throws => server.finish id
  | some none | none => server

end Advance

structure Keeps (holds : Store → Prop) (ready : Store → State → List Row → Prop)
    (server : Server Store State Row) : Prop where
  store : holds server.store
  transactions : ∀ id running, server.transactions.get? id = some (some running) →
    ready server.store running.state running.locks
  exclusive : ∀ id other running waiting, id ≠ other →
    server.transactions.get? id = some (some running) →
    server.transactions.get? other = some (some waiting) → running.locks.Disjoint waiting.locks

section Invariants

variable {holds : Store → Prop} {ready : Store → State → List Row → Prop}
  {server : Server Store State Row}

theorem Keeps.idle {store : Store} (holding : holds store) :
    Keeps holds ready (Server.idle store) where
  store := holding
  transactions := by simp [Server.idle]
  exclusive := by simp [Server.idle]

theorem Keeps.begin {state : State} (keeps : Keeps holds ready server)
    (begins : ready server.store state []) : Keeps holds ready (server.begin state) where
  store := keeps.store
  transactions := by
    intro id running found
    rw [Server.begin, Table.get?_insert] at found
    split at found
    · obtain rfl := Option.some.inj (Option.some.inj found)
      exact begins
    · exact keeps.transactions id running found
  exclusive := by
    intro id other running waiting different found there
    rw [Server.begin, Table.get?_insert] at found there
    split at found
    · obtain rfl := Option.some.inj (Option.some.inj found)
      exact List.disjoint_nil_left _
    · split at there
      · obtain rfl := Option.some.inj (Option.some.inj there)
        exact List.disjoint_nil_right _
      · exact keeps.exclusive id other running waiting different found there

theorem finish_others {id other : Nat} {running : OpenTransaction State Row}
    (found : (server.finish id).transactions.get? other = some (some running)) :
    id ≠ other ∧ server.transactions.get? other = some (some running) := by
  by_cases same : id = other
  · subst same
    simp [Server.finish] at found
  · rw [Server.finish, Table.get?_update_of_ne _ _ same] at found
    exact ⟨same, found⟩

theorem Keeps.finish {id : Nat} (keeps : Keeps holds ready server) :
    Keeps holds ready (server.finish id) where
  store := keeps.store
  transactions other running found := keeps.transactions other running (finish_others found).2
  exclusive one other running waiting different found there :=
    keeps.exclusive one other running waiting different (finish_others found).2
      (finish_others there).2

/-- A statement that commits by itself, and spares every transaction under way. -/
theorem Keeps.restore {store : Store} (keeps : Keeps holds ready server) (holding : holds store)
    (spared : ∀ state locks, ready server.store state locks → ready store state locks) :
    Keeps holds ready { server with store := store } where
  store := holding
  transactions id running found := spared _ _ (keeps.transactions id running found)
  exclusive := keeps.exclusive

theorem Keeps.resume {id : Nat} {next : OpenTransaction State Row}
    (keeps : Keeps holds ready server) (prepared : ready server.store next.state next.locks)
    (apart : ∀ other waiting, other ≠ id →
      server.transactions.get? other = some (some waiting) →
      next.locks.Disjoint waiting.locks) :
    Keeps holds ready
      { server with transactions := server.transactions.update id fun _ => some next } where
  store := keeps.store
  transactions := by
    intro other waiting there
    rw [Table.get?_update] at there
    split at there
    · obtain ⟨_, -, same⟩ := Option.map_eq_some_iff.mp there
      obtain rfl := Option.some.inj same
      exact prepared
    · exact keeps.transactions other waiting there
  exclusive := by
    intro one other first second different firstFound secondFound
    rw [Table.get?_update] at firstFound secondFound
    split at firstFound
    · next same =>
        subst same
        rw [if_neg different] at secondFound
        obtain ⟨_, -, same⟩ := Option.map_eq_some_iff.mp firstFound
        obtain rfl := Option.some.inj same
        exact apart other second (Ne.symm different) secondFound
    · split at secondFound
      · next same =>
          subst same
          obtain ⟨_, -, same⟩ := Option.map_eq_some_iff.mp secondFound
          obtain rfl := Option.some.inj same
          exact fun row left right => apart one first different firstFound right left
      · exact keeps.exclusive one other first second different firstFound secondFound

variable [DecidableEq Row]

theorem advance_store (program : TransactionProgram Store State Row Choice)
    (server : Server Store State Row) (id : Nat) (choice : Choice) :
    (server.advance program id choice).store = server.store ∨
      ∃ running, server.transactions.get? id = some (some running) ∧
        program.statement server.store running.state choice =
          .commits (server.advance program id choice).store := by
  unfold Server.advance
  split
  · next running found =>
      split
      · exact .inl rfl
      · split
        · exact .inl rfl
        · next store result => exact .inr ⟨running, found, result⟩
        · exact .inl rfl
  · exact .inl rfl
  · exact .inl rfl

theorem advance_store_of_open {program : TransactionProgram Store State Row Choice} {id : Nat}
    {choice : Choice} (goes : (server.advance program id choice).isOpen id = true) :
    (server.advance program id choice).store = server.store := by
  unfold Server.advance at goes ⊢
  split
  · next running found =>
      simp only [found] at goes
      split
      · rfl
      · next unblocked =>
          rw [if_neg unblocked] at goes
          split
          · rfl
          · next store result =>
              simp [result, isOpen, finish, found] at goes
          · rfl
  · rfl
  · rfl

theorem not_lockedByAnother {id other : Nat} {running : OpenTransaction State Row} {row : Row}
    (free : server.lockedByAnother id row = false) (different : other ≠ id)
    (found : server.transactions.get? other = some (some running)) : row ∉ running.locks := by
  intro locked
  have listed : (⟨other, some running⟩ : Stored (Option (OpenTransaction State Row))) ∈
      server.transactions.select fun entry => entry.any fun open_ => open_.locks.contains row :=
    Table.mem_select.mpr ⟨found, by simpa using locked⟩
  have another := List.any_eq_false.mp free _ listed
  simp [different] at another

/-- One step keeps an invariant if the statement that ran prepares its own next one, and at
a commit every other transaction, which shares neither its locks nor the rows it waited for,
is ready still. -/
theorem Keeps.advance_of {program : TransactionProgram Store State Row Choice} {id : Nat}
    {choice : Choice}
    (continues : ∀ running next, server.transactions.get? id = some (some running) →
      program.statement server.store running.state choice = .continues next →
      ready server.store next (running.locks ++ program.takes server.store running.state choice))
    (commits : ∀ running next, server.transactions.get? id = some (some running) →
      program.statement server.store running.state choice = .commits next →
      holds next ∧ ∀ other waiting, other ≠ id →
        server.transactions.get? other = some (some waiting) →
        (running.locks ++ program.waits server.store running.state choice).Disjoint
          waiting.locks →
        ready next waiting.state waiting.locks)
    (keeps : Keeps holds ready server) :
    Keeps holds ready (server.advance program id choice) := by
  unfold Server.advance
  split
  · next running found =>
      split
      · exact keeps
      · next unblocked =>
          have free : ∀ row ∈ program.waits server.store running.state choice,
              server.lockedByAnother id row = false := by
            intro row waited
            by_contra locked
            exact unblocked (List.any_eq_true.mpr ⟨row, waited, by simpa using locked⟩)
          -- Another transaction shares neither what was locked nor what is waited for now.
          have apart : ∀ other waiting, other ≠ id →
              server.transactions.get? other = some (some waiting) →
              (running.locks ++ program.waits server.store running.state choice).Disjoint
                waiting.locks := by
            intro other waiting different there
            rw [List.disjoint_append_left]
            exact ⟨keeps.exclusive id other running waiting (Ne.symm different) found there,
              fun row waited => not_lockedByAnother (free row waited) different there⟩
          split
          · next next result =>
              refine keeps.resume (continues running next found result) ?_
              intro other waiting different there
              have both := List.disjoint_append_left.mp (apart other waiting different there)
              rw [List.disjoint_append_left]
              exact ⟨both.1, fun row taken => both.2 (program.takes_waits _ _ _ taken)⟩
          · next store result =>
              obtain ⟨holding, spared⟩ := commits running store found result
              refine ⟨holding, fun other waiting there => ?_, keeps.finish.exclusive⟩
              obtain ⟨different, before⟩ := finish_others there
              exact spared other waiting (Ne.symm different) before
                (apart other waiting (Ne.symm different) before)
          · exact keeps.finish
  · exact keeps
  · exact keeps

/-- To keep an invariant it is enough that each statement keeps it, prepares its own
next one, and at a commit spares the transactions whose locks it does not share. -/
theorem Keeps.advance {program : TransactionProgram Store State Row Choice}
    (continues : ∀ store state locks choice next, holds store → ready store state locks →
      program.statement store state choice = .continues next →
      ready store next (locks ++ program.takes store state choice))
    (commits : ∀ store state locks choice next, holds store → ready store state locks →
      program.statement store state choice = .commits next →
      holds next ∧ ∀ other otherLocks, locks.Disjoint otherLocks →
        ready store other otherLocks → ready next other otherLocks)
    {id : Nat} {choice : Choice} (keeps : Keeps holds ready server) :
    Keeps holds ready (server.advance program id choice) := by
  refine keeps.advance_of ?_ ?_
  · intro running next found result
    exact continues _ _ _ _ _ keeps.store (keeps.transactions id running found) result
  · intro running next found result
    obtain ⟨holding, spared⟩ :=
      commits _ _ _ _ _ keeps.store (keeps.transactions id running found) result
    refine ⟨holding, fun other waiting different there apart => ?_⟩
    exact spared _ _ (List.disjoint_append_left.mp apart).1
      (keeps.transactions other waiting there)

end Invariants

/-! ### Runs -/

/-- What happens next: a transaction begins, or one runs its next statement. -/
inductive Turn (State Choice : Type) where
  | begins (state : State)
  | advances (id : Nat) (choice : Choice)
  deriving DecidableEq, Repr

section Runs

variable [DecidableEq Row] (program : TransactionProgram Store State Row Choice)

def turn (server : Server Store State Row) : Turn State Choice → Server Store State Row
  | .begins state => server.begin state
  | .advances id choice => server.advance program id choice

def turns (server : Server Store State Row) (script : List (Turn State Choice)) :
    Server Store State Row :=
  script.foldl (turn program) server

def Permits (allowed : Server Store State Row → Turn State Choice → Prop) :
    Server Store State Row → List (Turn State Choice) → Prop
  | _, [] => True
  | server, turn :: script =>
      allowed server turn ∧ Permits allowed (server.turn program turn) script

instance Permits.decidable (allowed : Server Store State Row → Turn State Choice → Prop)
    [∀ server turn, Decidable (allowed server turn)] :
    ∀ (server : Server Store State Row) (script : List (Turn State Choice)),
      Decidable (Permits program allowed server script)
  | _, [] => .isTrue trivial
  | server, turn :: script =>
      @instDecidableAnd _ _ _ (Permits.decidable allowed (server.turn program turn) script)

variable {program}

theorem Permits.keeps {allowed : Server Store State Row → Turn State Choice → Prop}
    (kept : Server Store State Row → Prop)
    (turns : ∀ server turn, kept server → allowed server turn → kept (server.turn program turn))
    {server : Server Store State Row} {script : List (Turn State Choice)}
    (permitted : Permits program allowed server script) (initially : kept server) :
    kept (server.turns program script) := by
  induction script generalizing server with
  | nil => exact initially
  | cons turn script ih => exact ih permitted.2 (turns server turn initially permitted.1)

end Runs

end Server

/-! ### Groups that must not run empty -/

/-- Groups of members, each guarded by rows that whoever removes a member locks first. -/
structure GuardedGroups (Store Group Member Row : Type) where
  member : Store → Group → Member → Prop
  guard : Store → Group → List Row
  guard_ne_nil : ∀ store group one, member store group one → guard store group ≠ []

namespace GuardedGroups

variable {Store Group Member Row : Type} (groups : GuardedGroups Store Group Member Row)
  (needed : Group → Prop)

/-- The guard is held, and somebody else stays if the group is needed. -/
structure MayRemove (store : Store) (group : Group) (target : Member) (locks : List Row) :
    Prop where
  holding : groups.guard store group ⊆ locks
  another : needed group → ∃ other, groups.member store group other ∧ other ≠ target

structure Removes (store next : Store) (removed : Option (Group × Member)) : Prop where
  guards : ∀ group, groups.guard next group ⊆ groups.guard store group
  members : ∀ group one, groups.member store group one → removed ≠ some (group, one) →
    groups.member next group one

variable {groups needed} {store next : Store} {removed : Option (Group × Member)}
  {locks otherLocks : List Row}

theorem Removes.inhabited (removes : groups.Removes store next removed)
    (allowed : ∀ group target, removed = some (group, target) →
      groups.MayRemove needed store group target locks)
    (inhabited : ∀ group, needed group → ∃ one, groups.member store group one) :
    ∀ group, needed group → ∃ one, groups.member next group one := by
  intro group need
  by_cases hit : ∃ target, removed = some (group, target)
  · obtain ⟨target, named⟩ := hit
    obtain ⟨other, member, different⟩ := (allowed group target named).another need
    refine ⟨other, removes.members group other member ?_⟩
    rw [named]
    simpa using Ne.symm different
  · obtain ⟨one, member⟩ := inhabited group need
    exact ⟨one, removes.members group one member fun named => hit ⟨one, named⟩⟩

/-- What another transaction may remove, it still may: both would hold the guard of a
group that lost somebody. -/
theorem MayRemove.kept {group : Group} {target : Member}
    (removes : groups.Removes store next removed)
    (allowed : ∀ group target, removed = some (group, target) →
      groups.MayRemove needed store group target locks)
    (disjoint : locks.Disjoint otherLocks)
    (may : groups.MayRemove needed store group target otherLocks) :
    groups.MayRemove needed next group target otherLocks := by
  refine ⟨List.Subset.trans (removes.guards group) may.holding, fun need => ?_⟩
  obtain ⟨other, member, different⟩ := may.another need
  refine ⟨other, removes.members group other member fun named => ?_, different⟩
  obtain ⟨row, guards⟩ := List.exists_mem_of_ne_nil _ (groups.guard_ne_nil _ _ _ member)
  exact disjoint ((allowed group other named).holding guards) (may.holding guards)

end GuardedGroups

end UnifiedService.Library
