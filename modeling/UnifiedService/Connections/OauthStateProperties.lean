import UnifiedService.Library.Tickets
import UnifiedService.Connections.OauthStates

/-! A state is spent once, while it is good, and it is not lost before. -/

set_option autoImplicit false

namespace UnifiedService.Connections

open UnifiedService.Library

/-! ### What one statement does -/

def StatePayload.row (payload : StatePayload) (now : Int) : OauthStateRow where
  nonce := payload.nonce
  owner := payload.owner
  expiresAt := payload.exp
  consumedAt := none
  createdAt := now

/-- The nonce of a row is a text of the database, and one that is about to be spent was
verified. -/
def OauthTask.Sound (runtime : OauthRuntime) : OauthTask → Prop
  | .create payload => 0 ∉ jsUnits payload.nonce
  | .consume state nonce => ∃ clock, OauthStateService.verify runtime state clock = .ok nonce
  | _ => True

inductive OauthMove (runtime : OauthRuntime) (db : OauthDb) :
    OauthTask → List OauthTask → OauthDb → Prop where
  | reads {task : OauthTask} {tasks : List OauthTask}
      (sound : ∀ next ∈ tasks, next.Sound runtime) : OauthMove runtime db task tasks db
  | creates {payload : StatePayload} {states : OauthStates}
      (created : db.states.create (payload.row db.now) = some states) :
      OauthMove runtime db (.create payload) []
        { db with
          states
          minted := ⟨payload.row db.now, OauthStateService.stateOf runtime payload⟩ :: db.minted }
  | spends {state : String} {nonce : List Nat} {row : OauthStateRow}
      (found : db.states.rows.find? (OauthStates.opens nonce db.now) = some row) :
      OauthMove runtime db (.consume state nonce) []
        { db with
          states := (db.states.consume nonce db.now).1
          spent := ⟨state, row, db.now⟩ :: db.spent }
  | sweeps {passes : Nat} {cutoff : Int} {picked : List String} {tasks : List OauthTask}
      (past : cutoff ≤ db.now) (sound : ∀ next ∈ tasks, next.Sound runtime) :
      OauthMove runtime db (.deleteSettled passes) tasks
        { db with states := db.states.deleteSettledBefore cutoff picked }

theorem nul_notMem_base64url (content : List Nat) : 0 ∉ jsUnits (Buffer.toBase64url content) := by
  intro nul
  obtain ⟨character, member, unit⟩ := List.mem_flatMap.mp nul
  rw [Buffer.toBase64url, String.toList_ofList] at member
  obtain ⟨group, -, rfl⟩ := List.mem_map.mp member
  have ascii := Buffer.letter_ascii group
  rw [if_pos (by omega), List.mem_singleton] at unit
  exact Buffer.letter_ne_nul group unit.symm

section Statements

variable {runtime : OauthRuntime} {choice : OauthChoice} {db after : OauthDb} {task : OauthTask}
  {tasks : List OauthTask}

theorem statement_moves (ahead : choice.clock ≤ db.now + oauthStateRetentionMs)
    (success : task.statement runtime choice db = .ok (tasks, after)) :
    OauthMove runtime db task tasks after := by
  have past : choice.clock - oauthStateRetentionMs ≤ db.now := sub_le_iff_le_add.mpr ahead
  cases task with
  | mint owner =>
      obtain ⟨rfl, rfl⟩ := Prod.mk.inj (Except.ok.inj success)
      exact .reads fun next member => List.mem_singleton.mp member ▸ nul_notMem_base64url _
  | create payload =>
      simp only [OauthTask.statement, OauthStateService.create] at success
      split at success
      · contradiction
      · next states created =>
          obtain ⟨rfl, rfl⟩ := Prod.mk.inj (Except.ok.inj success)
          exact .creates created
  | verify state =>
      obtain ⟨nonce, verified, last⟩ := bind_eq_ok.mp success
      obtain ⟨rfl, rfl⟩ := Prod.mk.inj (Except.ok.inj last)
      exact .reads fun next member => List.mem_singleton.mp member ▸ ⟨choice.clock, verified⟩
  | consume state nonce =>
      simp only [OauthTask.statement, OauthStateService.consume, OauthStates.consume] at success
      split at success
      · contradiction
      · split at success
        · contradiction
        · next states row found =>
            obtain ⟨consumed, first⟩ := Prod.mk.inj found
            obtain ⟨rfl, rfl⟩ := Prod.mk.inj (Except.ok.inj success)
            subst consumed
            exact .spends first
  | deleteSettled passes =>
      simp only [OauthTask.statement, drainOauthStates] at success
      split at success
      · obtain ⟨rfl, rfl⟩ := Prod.mk.inj (Except.ok.inj success)
        exact .sweeps past (List.forall_mem_nil _)
      · obtain ⟨rfl, rfl⟩ := Prod.mk.inj (Except.ok.inj success)
        exact .sweeps past fun next member => List.mem_singleton.mp member ▸ trivial

end Statements

theorem oauthStep_cases (runtime : OauthRuntime) {db : OauthDb} {task : OauthTask}
    {choice : OauthChoice} (permitted : lawful db (.ran task choice) = true) :
    db.now ≤ choice.now ∧
      ((∃ tasks after, OauthMove runtime { db with now := choice.now } task tasks after ∧
          oauthStep runtime db task choice = (after, tasks)) ∨
        ∃ error, oauthStep runtime db task choice =
          ({ db with now := choice.now, refused := (task, error) :: db.refused }, [])) := by
  obtain ⟨passed, ahead, -⟩ := decide_eq_true_eq.mp permitted
  refine ⟨passed, ?_⟩
  unfold oauthStep
  cases result : task.statement runtime choice { db with now := choice.now } with
  | error error =>
      right
      refine ⟨error, ?_⟩
      rw [transact_of_error result]
  | ok outcome =>
      obtain ⟨tasks, after⟩ := outcome
      left
      refine ⟨tasks, after, statement_moves ahead result, ?_⟩
      rw [transact_of_ok result]

/-! ### Tickets -/

/-- The rows as tickets: issued when they are minted, good until they are spent. -/
def OauthDb.tickets (db : OauthDb) : Tickets OauthStateRow where
  issued := db.minted.map Minted.row
  good := db.states.rows.filter fun row => row.consumedAt.isNone
  used := db.spent.map Spend.row

theorem opens_iff {nonce : List Nat} {now : Int} {row : OauthStateRow} :
    OauthStates.opens nonce now row = true ↔
      jsUnits row.nonce = nonce ∧ row.consumedAt = none ∧ now < row.expiresAt := by
  rw [OauthStates.opens, Bool.and_eq_true, Bool.and_eq_true, beq_iff_eq, Option.isNone_iff_eq_none,
    decide_eq_true_eq, and_assoc]

theorem find_opens {states : OauthStates} {nonce : List Nat} {now : Int} {row : OauthStateRow}
    (there : row ∈ states.rows) (taken : OauthStates.opens nonce now row = true) :
    states.rows.find? (OauthStates.opens nonce now) = some row := by
  have some_opens := List.find?_isSome.mpr ⟨row, there, taken⟩
  obtain ⟨first, found⟩ := Option.isSome_iff_exists.mp some_opens
  have nonces := jsUnits_injective
    ((opens_iff.mp (List.find?_some found)).1.trans (opens_iff.mp taken).1.symm)
  have same : first = row := List.inj_on_of_nodup_map states.unique
    (List.mem_of_find?_eq_some found) there nonces
  exact found.trans (congrArg some same)

theorem open_of_consume {rows : List OauthStateRow} {nonce : List Nat} {now : Int}
    {row : OauthStateRow} (found : rows.find? (OauthStates.opens nonce now) = some row) :
    (row :: (rows.map fun other => if OauthStates.opens nonce now other then
        { other with consumedAt := some now } else other).filter fun other =>
          other.consumedAt.isNone).Subperm
      (rows.filter fun other => other.consumedAt.isNone) := by
  have isOpen : ∀ other, OauthStates.opens nonce now other = true →
      other.consumedAt.isNone = true :=
    fun other opened => Option.isNone_iff_eq_none.mpr (opens_iff.mp opened).2.1
  have left : ∀ others : List OauthStateRow,
      ((others.map fun other => if OauthStates.opens nonce now other then
        { other with consumedAt := some now } else other).filter fun other =>
          other.consumedAt.isNone).Sublist (others.filter fun other => other.consumedAt.isNone) := by
    intro others
    induction others with
    | nil => exact .slnil
    | cons other others ih =>
        rw [List.map_cons, List.filter_cons, List.filter_cons]
        by_cases matches_ : OauthStates.opens nonce now other = true
        · rw [if_pos matches_, isOpen other matches_]
          exact ih.cons other
        · rw [if_neg matches_]
          split
          · exact ih.cons_cons other
          · exact ih
  induction rows with
  | nil => cases found
  | cons first rows ih =>
      rw [List.find?_cons] at found
      rw [List.map_cons, List.filter_cons, List.filter_cons]
      split at found
      · next matches_ =>
          obtain rfl := Option.some.inj found
          rw [if_pos matches_, isOpen first matches_]
          exact (List.subperm_cons first).mpr (left rows).subperm
      · next other =>
          rw [if_neg (Bool.eq_false_iff.mp other)]
          split
          · exact (List.Perm.swap ..).subperm.trans ((List.subperm_cons first).mpr (ih found))
          · exact ih found

theorem OauthMove.tickets {runtime : OauthRuntime} {db after : OauthDb} {task : OauthTask}
    {tasks : List OauthTask} (move : OauthMove runtime db task tasks after) :
    Relation.ReflTransGen Tickets.Step db.tickets after.tickets := by
  cases move with
  | reads sound => exact .refl
  | @creates payload states created =>
      unfold OauthStates.create at created
      split at created
      · obtain rfl := Option.some.inj created
        exact .single (.issue _ (.refl _))
      · contradiction
  | @spends state nonce row found => exact .single (.use row (open_of_consume found))
  | sweeps past sound =>
      exact .single (.lapse (List.filter_sublist.filter _).subperm)

/-! ### Every run -/

structure OauthDb.Sound (runtime : OauthRuntime) (db : OauthDb) : Prop where
  tickets : Relation.ReflTransGen Tickets.Step ⟨[], [], []⟩ db.tickets
  spends : ∀ spend ∈ db.spent, spend.spentAt < spend.row.expiresAt ∧
    ∃ clock, OauthStateService.verify runtime spend.state clock = .ok (jsUnits spend.row.nonce)
  kept : ∀ minted ∈ db.minted, minted.row.consumedAt = none ∧ 0 ∉ jsUnits minted.row.nonce ∧
    (minted.row ∈ db.spent.map Spend.row ∨ minted.row ∈ db.states.rows ∨
      minted.row.expiresAt < db.now)

theorem OauthDb.Sound.keeps {runtime : OauthRuntime} {db after : OauthDb}
    (sound : db.Sound runtime) (mints : after.minted = db.minted)
    (more : db.spent.map Spend.row ⊆ after.spent.map Spend.row) (passed : db.now ≤ after.now)
    (places : ∀ row ∈ db.states.rows, row.consumedAt = none →
      row ∈ after.spent.map Spend.row ∨ row ∈ after.states.rows ∨ row.expiresAt < after.now) :
    ∀ minted ∈ after.minted, minted.row.consumedAt = none ∧ 0 ∉ jsUnits minted.row.nonce ∧
      (minted.row ∈ after.spent.map Spend.row ∨ minted.row ∈ after.states.rows ∨
        minted.row.expiresAt < after.now) := by
  intro minted member
  rw [mints] at member
  obtain ⟨unspent, text, place⟩ := sound.kept minted member
  refine ⟨unspent, text, ?_⟩
  rcases place with done | there | expired
  · exact .inl (more done)
  · exact places minted.row there unspent
  · exact .inr (.inr (expired.trans_le passed))

theorem OauthDb.Sound.later {runtime : OauthRuntime} {db after : OauthDb}
    (sound : db.Sound runtime) (states : after.states = db.states)
    (minted : after.minted = db.minted) (spent : after.spent = db.spent)
    (passed : db.now ≤ after.now) : after.Sound runtime := by
  obtain ⟨rows, mints, spends, refused, now⟩ := after
  dsimp only at states minted spent passed
  subst states minted spent
  exact ⟨sound.tickets, sound.spends,
    sound.keeps rfl (List.Subset.refl _) passed fun _ there _ => .inr (.inl there)⟩

theorem OauthMove.kept {runtime : OauthRuntime} {db after : OauthDb} {task : OauthTask}
    {tasks : List OauthTask} (move : OauthMove runtime db task tasks after)
    (ready : task.Sound runtime) (sound : db.Sound runtime) :
    after.Sound runtime ∧ ∀ next ∈ tasks, next.Sound runtime := by
  have tickets := sound.tickets.trans move.tickets
  cases move with
  | reads onward => exact ⟨sound, onward⟩
  | @creates payload states created =>
      refine ⟨⟨tickets, sound.spends, ?_⟩, List.forall_mem_nil _⟩
      unfold OauthStates.create at created
      split at created
      · obtain rfl := Option.some.inj created
        intro minted member
        rcases List.mem_cons.mp member with rfl | old
        · exact ⟨rfl, ready, .inr (.inl List.mem_cons_self)⟩
        · obtain ⟨unspent, text, place⟩ := sound.kept minted old
          exact ⟨unspent, text, place.imp_right fun rest => rest.imp_left (List.mem_cons_of_mem _)⟩
      · contradiction
  | @spends state nonce row found =>
      have opened := opens_iff.mp (List.find?_some found)
      refine ⟨⟨tickets, ?_, ?_⟩, List.forall_mem_nil _⟩
      · intro spend member
        rcases List.mem_cons.mp member with rfl | old
        · exact ⟨opened.2.2, opened.1 ▸ ready⟩
        · exact sound.spends spend old
      · refine sound.keeps rfl (List.subset_cons_self _ _) (Int.le_refl _) ?_
        intro other there unspent
        by_cases taken : OauthStates.opens nonce db.now other = true
        · left
          obtain rfl := Option.some.inj (found.symm.trans (find_opens there taken))
          exact List.mem_cons_self
        · right
          left
          exact List.mem_map.mpr ⟨other, there, if_neg taken⟩
  | @sweeps passes cutoff picked _ past onward =>
      refine ⟨⟨tickets, sound.spends, ?_⟩, onward⟩
      refine sound.keeps rfl (List.Subset.refl _) (Int.le_refl _) ?_
      intro row there unspent
      right
      by_cases settled : OauthStates.settledBefore cutoff row = true
      · right
        -- A row that is not spent is settled by its expiry alone.
        rw [OauthStates.settledBefore, unspent, Bool.and_eq_true, Bool.or_eq_true] at settled
        rcases settled.1 with consumed | expired
        · contradiction
        · exact (decide_eq_true_eq.mp expired).trans_le past
      · left
        rw [Bool.not_eq_true] at settled
        refine List.mem_filter.mpr ⟨there, ?_⟩
        rw [settled]
        rfl

section Runs

variable {runtime : OauthRuntime} {pool : Pool OauthDb OauthTask}

theorem oauth_sound (reached : OauthReaches runtime pool) : pool.shared.Sound runtime := by
  refine ((oauthMachine runtime).pool_invariant (fun db => db.Sound runtime)
    (fun _ task => task.Sound runtime) ?_ ?_ ?_ reached).1
  · exact ⟨.refl, List.forall_mem_nil _, List.forall_mem_nil _⟩
  · intro db call _ _ task member
    cases call with
    | buildAuthorizationUrl owner | handleCallback state | sweep =>
        exact List.mem_singleton.mp member ▸ trivial
  · intro db task choice sound ready permitted
    obtain ⟨passed, done | refusal⟩ := oauthStep_cases runtime permitted
    · obtain ⟨tasks, after, move, step⟩ := done
      have timed : ({ db with now := choice.now } : OauthDb).Sound runtime :=
        sound.later rfl rfl rfl passed
      obtain ⟨kept, onward⟩ := move.kept ready timed
      have ran : (oauthMachine runtime).run db task choice = (after, tasks) := step
      rw [ran]
      exact ⟨kept, onward, fun _ other => other⟩
    · obtain ⟨error, step⟩ := refusal
      have ran : (oauthMachine runtime).run db task choice =
          ({ db with now := choice.now, refused := (task, error) :: db.refused }, []) := step
      rw [ran]
      exact ⟨sound.later rfl rfl rfl passed, List.forall_mem_nil _, fun _ other => other⟩

/-- Whatever callbacks bring, in whatever order, a row is spent at most as often as it was
minted, before it expires, and by a state that is signed for its nonce. -/
theorem states_spent_once (reached : OauthReaches runtime pool) :
    (pool.shared.spent.map Spend.row).Subperm (pool.shared.minted.map Minted.row) ∧
      ∀ spend ∈ pool.shared.spent, spend.spentAt < spend.row.expiresAt ∧
        ∃ clock, OauthStateService.verify runtime spend.state clock =
          .ok (jsUnits spend.row.nonce) := by
  have sound := oauth_sound reached
  have empty : (⟨[], [], []⟩ : Tickets OauthStateRow).Sound := .refl []
  exact ⟨Tickets.used_subperm empty sound.tickets, sound.spends⟩

def digestRuntime : OauthRuntime where
  digest _ := [215, 222, 202, 129, 79, 228, 147, 84, 108, 93, 99, 20, 224, 127, 168, 199, 39, 206,
    20, 100, 182, 22, 182, 66, 75, 190, 250, 131, 173, 88, 98, 238]
  base64 _ := []

def firstRow : OauthStateRow where
  nonce := "AAAAAAAAAAAAAAAAAAAAAA"
  owner := ⟨1, none, by decide⟩
  expiresAt := 600000
  consumedAt := none
  createdAt := 0

def firstState : String :=
  "eyJlbnRlcnByaXNlSWQiOjEsImVtcGxveWVlSWQiOm51bGwsIm5vbmNlIjoiQUFBQUFBQUFBQUFBQUFBQUFBQUFBQSIsIm" ++
    "V4cCI6NjAwMDAwfQ.197KgU_kk1RsXWMU4H-oxyfOFGS2FrZCS776g61YYu4"

def oauthTurns (process count : Nat) (now : Int) : List (OauthCall ⊕ (Nat × OauthChoice)) :=
  List.replicate count
    (.inr (process, { now, clock := now, bytes := List.replicate 16 0, picked := [] }))

def replays : List (OauthCall ⊕ (Nat × OauthChoice)) :=
  .inl (.buildAuthorizationUrl firstRow.owner) :: oauthTurns 0 2 0 ++
    .inl (.handleCallback firstState) :: .inl (.handleCallback firstState) ::
    oauthTurns 1 1 5 ++ oauthTurns 2 1 6 ++ oauthTurns 2 1 7 ++ oauthTurns 1 1 8

/-- Both callbacks pass the checks, and one spends the row. -/
theorem states_spent_once_replayed :
    ∃ pool : Pool OauthDb OauthTask,
      pool.shared.spent = [⟨firstState, firstRow, 7⟩] ∧
      pool.shared.refused.map Prod.snd = [.oauthStateInvalid] ∧
      (pool.shared.spent.map Spend.row).Subperm (pool.shared.minted.map Minted.row) ∧
        ∀ spend ∈ pool.shared.spent, spend.spentAt < spend.row.expiresAt ∧
          ∃ clock, OauthStateService.verify digestRuntime spend.state clock =
            .ok (jsUnits spend.row.nonce) := by
  have runs : ((oauthMachine digestRuntime).playPool lawful ⟨.empty, []⟩ replays).any
      (fun pool => decide (pool.shared.spent = [⟨firstState, firstRow, 7⟩] ∧
        pool.shared.refused.map Prod.snd = [.oauthStateInvalid])) = true := by
    decide +kernel
  obtain ⟨pool, played, done⟩ := (Option.any_eq_true _ _).mp runs
  have reached := (oauthMachine digestRuntime).playPool_sound (fun _ _ passed => passed) played
  obtain ⟨spent, refused⟩ := of_decide_eq_true done
  exact ⟨pool, spent, refused, states_spent_once reached⟩

/-- A row is there until it is spent or expires: whoever brings its nonce spends it. -/
theorem unspent_state_opens (reached : OauthReaches runtime pool) {minted : Minted}
    (member : minted ∈ pool.shared.minted) (unspent : minted.row ∉ pool.shared.spent.map Spend.row)
    {choice : OauthChoice} (passed : pool.shared.now ≤ choice.now)
    (early : choice.now < minted.row.expiresAt) (state : String) :
    oauthStep runtime pool.shared (.consume state (jsUnits minted.row.nonce)) choice =
      ({ pool.shared with
          now := choice.now
          states := (pool.shared.states.consume (jsUnits minted.row.nonce) choice.now).1
          spent := ⟨state, minted.row, choice.now⟩ :: pool.shared.spent }, []) := by
  obtain ⟨fresh, text, place⟩ := (oauth_sound reached).kept minted member
  have there : minted.row ∈ pool.shared.states.rows := by
    rcases place with done | there | expired
    · contradiction
    · exact there
    · omega
  have found := find_opens there (opens_iff.mpr ⟨rfl, fresh, early⟩)
  unfold oauthStep
  rw [transact_of_ok]
  simp only [OauthTask.statement, OauthStateService.consume, if_neg text, OauthStates.consume, found]

/-- The row of a state that nobody brought back. -/
theorem unspent_state_opens_first :
    ∃ db : OauthDb, db.minted.map Minted.row = [firstRow] ∧
      oauthStep digestRuntime db (.consume firstState (jsUnits firstRow.nonce))
          ⟨599999, 0, [], []⟩ =
        ({ db with
            now := 599999
            states := (db.states.consume (jsUnits firstRow.nonce) 599999).1
            spent := ⟨firstState, firstRow, 599999⟩ :: db.spent }, []) := by
  have runs : ((oauthMachine digestRuntime).playPool lawful ⟨.empty, []⟩
      (replays.take 3)).any (fun pool => decide
        (pool.shared.minted = [⟨firstRow, firstState⟩] ∧ pool.shared.spent = [] ∧
          pool.shared.now = 0)) = true := by
    decide +kernel
  obtain ⟨pool, played, done⟩ := (Option.any_eq_true _ _).mp runs
  have reached := (oauthMachine digestRuntime).playPool_sound (fun _ _ passed => passed) played
  obtain ⟨minted, spent, now⟩ := of_decide_eq_true done
  refine ⟨pool.shared, congrArg (List.map Minted.row) minted, ?_⟩
  have passed : pool.shared.now ≤ (⟨599999, 0, [], []⟩ : OauthChoice).now := by
    rw [now]
    decide
  have unspent : firstRow ∉ pool.shared.spent.map Spend.row := by
    rw [spent]
    exact List.not_mem_nil
  have member : (⟨firstRow, firstState⟩ : Minted) ∈ pool.shared.minted := by
    rw [minted]
    exact List.mem_singleton_self _
  have early : (⟨599999, 0, [], []⟩ : OauthChoice).now < firstRow.expiresAt := by decide
  exact unspent_state_opens reached member unspent passed early firstState

end Runs

end UnifiedService.Connections
