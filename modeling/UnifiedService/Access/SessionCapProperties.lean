import Mathlib.Data.List.Pairwise
import UnifiedService.Access.MintingProperties

/-! The cap on sessions. Signing in inserts one and then, in a statement of its own, revokes
what lies beyond the newest ten; calls interleave between the two. -/

set_option autoImplicit false
namespace UnifiedService.Access

open UnifiedService.Library

/-! ### What statements do to sessions -/

def SessionTask.isCap : SessionTask → Bool
  | .revokeBeyondNewest _ _ _ => true
  | _ => false

inductive SessionMove (db after : SessionDb) : SessionTask → List SessionTask → Prop where
  | created {identityId : Nat} {employment : Option EmploymentSummary} {staffId : Option Nat}
      {refreshTokenHash : String} {expiresAt : Int}
      (inserted : db.createSession identityId refreshTokenHash expiresAt = .ok after) :
      SessionMove db after (.createSession identityId employment staffId)
        [.revokeBeyondNewest identityId employment staffId]
  | capped {identityId : Nat} {employment : Option EmploymentSummary} {staffId : Option Nat}
      {tasks : List SessionTask}
      (revoked : after = db.revokeBeyondNewest identityId maxSessionsPerIdentity) :
      SessionMove db after (.revokeBeyondNewest identityId employment staffId) tasks
  | left {task : SessionTask} {tasks : List SessionTask} (uncapped : task.isCap = false)
      (sessions : after.sessions = db.sessions)
      (nextSessionId : after.nextSessionId = db.nextSessionId) (now : after.now = db.now) :
      SessionMove db after task tasks
  | revoked {task : SessionTask} {tasks : List SessionTask} (uncapped : task.isCap = false)
      (wanted : SessionRow → Bool) (sessions : after.sessions = (db.revokeWhere wanted).sessions)
      (nextSessionId : after.nextSessionId = db.nextSessionId) (now : after.now = db.now) :
      SessionMove db after task tasks
  | deleted {task : SessionTask} {tasks : List SessionTask} (uncapped : task.isCap = false)
      (gone : SessionRow → Bool)
      (sessions : after.sessions = db.sessions.filter fun session => !gone session)
      (nextSessionId : after.nextSessionId = db.nextSessionId) (now : after.now = db.now) :
      SessionMove db after task tasks

section Steps

variable {runtime : SessionRuntime} {choice : AccessChoice} {db after : SessionDb}
  {task : SessionTask} {tasks : List SessionTask}

theorem access_moves {step : AccessTask} {others : List AccessTask} {afterwards : Afterwards}
    (success : accessStatement runtime.toRuntime choice step others afterwards db =
      .ok (tasks, after)) : SessionMove db after (.access step others afterwards) tasks := by
  unfold accessStatement at success
  obtain ⟨_, -, rest⟩ := bind_eq_ok.mp success
  obtain ⟨⟨left, people⟩, -, last⟩ := bind_eq_ok.mp rest
  obtain ⟨-, rfl⟩ := Prod.mk.inj (Except.ok.inj last)
  unfold endSessions
  split
  · next identity _ _ _ =>
      exact .revoked rfl (fun session => session.identityId == identity.id) rfl rfl rfl
  · exact .left rfl rfl rfl rfl

theorem statement_moves (success : task.statement runtime choice db = .ok (tasks, after)) :
    SessionMove db after task tasks := by
  cases task with
  | access step others afterwards => exact access_moves success
  | createSession identityId employment staffId =>
      obtain ⟨created, inserted, last⟩ := bind_eq_ok.mp success
      obtain ⟨rfl, rfl⟩ := Prod.mk.inj (Except.ok.inj last)
      exact .created inserted
  | revokeBeyondNewest identityId employment staffId =>
      obtain ⟨-, rfl⟩ := Prod.mk.inj (Except.ok.inj success)
      exact .capped rfl
  | recordSuccessfulLogin identityId employments staff =>
      simp only [SessionTask.statement, AuthService.completeLogin] at success
      have same : after = db.recordSuccessfulLogin identityId := by grind
      rw [same]
      exact .left rfl rfl rfl rfl
  | recordFailedLogin identityId | mint path claims | operate people withdrawn =>
      obtain ⟨-, rfl⟩ := Prod.mk.inj (Except.ok.inj success)
      exact .left rfl rfl rfl rfl
  | revoke sessionId =>
      obtain ⟨-, rfl⟩ := Prod.mk.inj (Except.ok.inj success)
      exact .revoked rfl (fun session => session.id == sessionId) rfl rfl rfl
  | revokeAll identityId =>
      obtain ⟨-, rfl⟩ := Prod.mk.inj (Except.ok.inj success)
      exact .revoked rfl (fun session => session.identityId == identityId) rfl rfl rfl
  | sweepExpired cutoff limit expired revoked | sweepRevoked cutoff limit picked =>
      obtain ⟨-, rfl⟩ := Prod.mk.inj (Except.ok.inj success)
      exact .deleted rfl _ rfl rfl rfl
  | refuse error => contradiction
  | _ =>
      obtain rfl := statement_reads success rfl
      exact .left rfl rfl rfl rfl

end Steps

/-! ### Live sessions -/

def SessionDb.liveOf (db : SessionDb) (identityId : Nat) : List SessionRow :=
  db.sessions.filter fun session => session.identityId == identityId && session.isLive db.now

structure SessionDb.InOrder (db : SessionDb) : Prop where
  sorted : db.sessions.Pairwise fun earlier later =>
    earlier.id < later.id ∧ earlier.createdAt ≤ later.createdAt
  created : ∀ session ∈ db.sessions, session.id < db.nextSessionId ∧ session.createdAt ≤ db.now

theorem SessionRow.isLive_earlier {session : SessionRow} {now later : Int} (passed : now ≤ later)
    (live : session.isLive later = true) : session.isLive now = true := by
  rw [SessionRow.isLive, Bool.and_eq_true, decide_eq_true_eq] at live ⊢
  exact ⟨live.1, passed.trans_lt live.2⟩

@[simp] theorem SessionRow.revokeAt_isLive (session : SessionRow) (now later : Int) :
    (session.revokeAt now).isLive later = false := by
  rw [SessionRow.isLive, SessionRow.revokeAt]
  cases session.revokedAt with
  | none => rfl
  | some revokedAt => rfl

namespace SessionDb

variable {db after : SessionDb} {identityId : Nat} {session other : SessionRow}

theorem mem_liveOf : session ∈ db.liveOf identityId ↔
    session ∈ db.sessions ∧ session.identityId = identityId ∧ session.isLive db.now = true := by
  rw [liveOf, List.mem_filter, Bool.and_eq_true, beq_iff_eq]

theorem liveOf_later {now : Int} (passed : db.now ≤ now) :
    (liveOf { db with now := now } identityId).length ≤ (db.liveOf identityId).length := by
  apply List.Sublist.length_le
  apply List.monotone_filter_right
  intro session live
  rw [Bool.and_eq_true] at live ⊢
  exact ⟨live.1, SessionRow.isLive_earlier passed live.2⟩

theorem liveOf_revokeWhere (wanted : SessionRow → Bool) :
    (db.revokeWhere wanted).liveOf identityId =
      (db.liveOf identityId).filter fun session => !wanted session := by
  unfold liveOf revokeWhere
  rw [List.filter_map, List.filter_filter]
  have kept : db.sessions.filter ((fun session => session.identityId == identityId &&
        session.isLive db.now) ∘ fun session =>
          if wanted session then session.revokeAt db.now else session) =
      db.sessions.filter fun session => !wanted session &&
        (session.identityId == identityId && session.isLive db.now) := by
    apply List.filter_congr
    intro session _
    rw [Function.comp_apply]
    cases wanted session with
    | true =>
        rw [if_pos rfl, SessionRow.revokeAt_isLive, Bool.and_false]
        rfl
    | false => rfl
  rw [kept]
  refine (List.map_congr_left fun session member => ?_).trans (List.map_id _)
  have unwanted := (Bool.and_eq_true_iff.mp (List.mem_filter.mp member).2).1
  rw [Bool.not_eq_true'] at unwanted
  rw [unwanted]
  rfl

theorem liveOf_revokeWhere_le (wanted : SessionRow → Bool) :
    ((db.revokeWhere wanted).liveOf identityId).length ≤ (db.liveOf identityId).length := by
  rw [liveOf_revokeWhere]
  exact List.length_filter_le _ _

theorem before_total : Std.Total SessionRow.before := by
  constructor
  intro one other
  unfold SessionRow.before
  omega

theorem before_trans : IsTrans SessionRow SessionRow.before := by
  constructor
  intro one other another
  unfold SessionRow.before
  omega

def newestOf (db : SessionDb) (identityId : Nat) : List SessionRow :=
  (db.liveOf identityId).insertionSort SessionRow.before

def evictedOf (db : SessionDb) (identityId keep : Nat) : List Nat :=
  ((db.newestOf identityId).drop keep).map (·.id)

theorem revokeBeyondNewest_eq (keep : Nat) : db.revokeBeyondNewest identityId keep =
    db.revokeWhere fun session => (db.evictedOf identityId keep).contains session.id := rfl

theorem newestOf_perm : (db.newestOf identityId).Perm (db.liveOf identityId) :=
  List.perm_insertionSort _ _

theorem liveOf_revokeBeyondNewest (keep : Nat) :
    ((db.revokeBeyondNewest identityId keep).liveOf identityId).length ≤ keep := by
  have gone : ((db.newestOf identityId).drop keep).filter (fun session =>
      !(db.evictedOf identityId keep).contains session.id) = [] := by
    apply List.filter_eq_nil_iff.mpr
    intro session member kept
    rw [Bool.not_eq_true', List.contains_eq_mem, decide_eq_false_iff_not] at kept
    exact kept (List.mem_map_of_mem member)
  rw [revokeBeyondNewest_eq, liveOf_revokeWhere, ← (newestOf_perm.filter _).length_eq,
    ← List.take_append_drop keep (db.newestOf identityId), List.filter_append, gone,
    List.append_nil]
  exact (List.length_filter_le _ _).trans (List.length_take_le _ _)

theorem InOrder.compare (ordered : db.InOrder) (one : session ∈ db.sessions)
    (two : other ∈ db.sessions) (different : session ≠ other) :
    (session.id < other.id ∧ session.createdAt ≤ other.createdAt) ∨
      (other.id < session.id ∧ other.createdAt ≤ session.createdAt) := by
  have symmetric : Std.Symm fun one other : SessionRow =>
      (one.id < other.id ∧ one.createdAt ≤ other.createdAt) ∨
        (other.id < one.id ∧ other.createdAt ≤ one.createdAt) :=
    ⟨fun _ _ => Or.symm⟩
  have either : db.sessions.Pairwise fun one other =>
      (one.id < other.id ∧ one.createdAt ≤ other.createdAt) ∨
        (other.id < one.id ∧ other.createdAt ≤ one.createdAt) :=
    ordered.sorted.imp Or.inl
  exact either.forall one two different

theorem InOrder.unique (ordered : db.InOrder) (one : session ∈ db.sessions)
    (two : other ∈ db.sessions) (same : session.id = other.id) : session = other := by
  by_contra different
  rcases ordered.compare one two different with less | less
  · exact absurd same (Nat.ne_of_lt less.1)
  · exact absurd same (Nat.ne_of_gt less.1)

theorem InOrder.created_after (ordered : db.InOrder) (one : session ∈ db.sessions)
    (two : other ∈ db.sessions) (different : other ≠ session) (before : other.before session) :
    session.id < other.id := by
  rcases ordered.compare one two different.symm with later | earlier
  · exact later.1
  · unfold SessionRow.before at before
    omega

/-- What the cap revokes was live, and as many as it keeps are live and were created after. -/
theorem InOrder.evicted (ordered : db.InOrder) {keep : Nat} (member : session ∈ db.sessions)
    (evicted : (db.evictedOf identityId keep).contains session.id = true) :
    session ∈ db.liveOf identityId ∧
      keep ≤ ((db.liveOf identityId).filter fun other => session.id < other.id).length := by
  rw [List.contains_eq_mem, decide_eq_true_eq] at evicted
  obtain ⟨last, dropped, same⟩ := List.mem_map.mp evicted
  have listed := newestOf_perm.mem_iff.mp (List.mem_of_mem_drop dropped)
  obtain rfl := ordered.unique (mem_liveOf.mp listed).1 member same
  refine ⟨listed, ?_⟩
  have beyond : keep < (db.newestOf identityId).length := by
    by_contra within
    rw [List.drop_eq_nil_of_le (Nat.le_of_not_lt within)] at dropped
    exact List.not_mem_nil dropped
  have distinct : (db.newestOf identityId).Nodup := by
    apply newestOf_perm.nodup_iff.mpr
    apply List.Nodup.filter
    refine ordered.sorted.imp fun {one other} less same => ?_
    exact Nat.ne_of_lt less.1 (congrArg SessionRow.id same)
  have newer : ∀ other ∈ (db.newestOf identityId).take keep, decide (last.id < other.id) = true := by
    intro other kept
    have live := newestOf_perm.mem_iff.mp (List.mem_of_mem_take kept)
    have := before_total
    have := before_trans
    have sorted : (db.newestOf identityId).Pairwise SessionRow.before :=
      List.pairwise_insertionSort _ _
    have before := sorted.rel_of_mem_take_of_mem_drop kept dropped
    have apart := distinct.rel_of_mem_take_of_mem_drop kept dropped
    exact decide_eq_true (ordered.created_after member (mem_liveOf.mp live).1 apart before)
  calc keep = ((db.newestOf identityId).take keep).length :=
        (List.length_take_of_le (Nat.le_of_lt beyond)).symm
    _ = (((db.newestOf identityId).take keep).filter fun other => last.id < other.id).length := by
        rw [List.filter_eq_self.mpr newer]
    _ ≤ ((db.newestOf identityId).filter fun other => last.id < other.id).length :=
        ((List.take_sublist _ _).filter _).length_le
    _ = ((db.liveOf identityId).filter fun other => last.id < other.id).length :=
        (newestOf_perm.filter _).length_eq

end SessionDb

namespace SessionDb

variable {db after : SessionDb} {identityId : Nat}

theorem InOrder.of_map (ordered : db.InOrder) {change : SessionRow → SessionRow}
    (sessions : after.sessions = db.sessions.map change)
    (nextSessionId : after.nextSessionId = db.nextSessionId) (now : after.now = db.now)
    (same : ∀ session, (change session).id = session.id ∧
      (change session).createdAt = session.createdAt) : after.InOrder := by
  constructor
  · rw [sessions, List.pairwise_map]
    refine ordered.sorted.imp fun {one other} less => ?_
    rw [(same one).1, (same one).2, (same other).1, (same other).2]
    exact less
  · intro session member
    rw [sessions] at member
    obtain ⟨old, there, rfl⟩ := List.mem_map.mp member
    rw [(same old).1, (same old).2, nextSessionId, now]
    exact ordered.created old there

theorem InOrder.of_sublist (ordered : db.InOrder) (sessions : after.sessions.Sublist db.sessions)
    (nextSessionId : after.nextSessionId = db.nextSessionId) (now : after.now = db.now) :
    after.InOrder := by
  constructor
  · exact ordered.sorted.sublist sessions
  · intro session member
    rw [nextSessionId, now]
    exact ordered.created session (sessions.subset member)

theorem InOrder.revokeWhere (ordered : db.InOrder) (wanted : SessionRow → Bool)
    (sessions : after.sessions = (db.revokeWhere wanted).sessions)
    (nextSessionId : after.nextSessionId = db.nextSessionId) (now : after.now = db.now) :
    after.InOrder := by
  refine ordered.of_map sessions nextSessionId now fun session => ?_
  split
  · exact ⟨rfl, rfl⟩
  · exact ⟨rfl, rfl⟩

theorem InOrder.created_session (ordered : db.InOrder) {refreshTokenHash : String}
    {expiresAt : Int}
    (inserted : db.createSession identityId refreshTokenHash expiresAt = .ok after) :
    after.InOrder := by
  unfold createSession at inserted
  split at inserted
  · contradiction
  · obtain rfl := Except.ok.inj inserted
    constructor
    · apply List.pairwise_append.mpr
      refine ⟨ordered.sorted, List.pairwise_singleton _ _, fun session member last there => ?_⟩
      obtain rfl := List.mem_singleton.mp there
      exact ordered.created session member
    · intro session member
      rcases List.mem_append.mp member with old | fresh
      · exact ⟨(ordered.created session old).1.trans (Nat.lt_succ_self _),
          (ordered.created session old).2⟩
      · obtain rfl := List.mem_singleton.mp fresh
        exact ⟨Nat.lt_succ_self _, le_refl _⟩

theorem InOrder.later (ordered : db.InOrder) {now : Int} (passed : db.now ≤ now) :
    InOrder { db with now := now } :=
  ⟨ordered.sorted, fun session member =>
    ⟨(ordered.created session member).1, (ordered.created session member).2.trans passed⟩⟩

theorem liveOf_createSession {refreshTokenHash : String} {expiresAt : Int} {owner : Nat}
    (inserted : db.createSession owner refreshTokenHash expiresAt = .ok after) :
    (after.liveOf identityId).length ≤
      (db.liveOf identityId).length + if owner = identityId then 1 else 0 := by
  unfold createSession at inserted
  split at inserted
  · contradiction
  · obtain rfl := Except.ok.inj inserted
    unfold liveOf
    rw [List.filter_append, List.length_append]
    apply Nat.add_le_add_left
    split
    · exact List.length_filter_le _ _
    · next stranger =>
        rw [List.filter_singleton, beq_false_of_ne stranger, Bool.false_and]
        rfl

end SessionDb

section Moves

variable {db after : SessionDb} {task : SessionTask} {tasks : List SessionTask} {identityId : Nat}

theorem SessionMove.inOrder (move : SessionMove db after task tasks) (ordered : db.InOrder) :
    after.InOrder := by
  cases move with
  | created inserted => exact ordered.created_session inserted
  | capped revoked =>
      subst revoked
      exact ordered.revokeWhere _ rfl rfl rfl
  | left _ sessions nextSessionId now =>
      exact ordered.of_sublist (sessions ▸ List.Sublist.refl _) nextSessionId now
  | revoked _ wanted sessions nextSessionId now =>
      exact ordered.revokeWhere wanted sessions nextSessionId now
  | deleted _ gone sessions nextSessionId now =>
      exact ordered.of_sublist (sessions ▸ List.filter_sublist) nextSessionId now

def SessionTask.capsOf (identityId : Nat) : SessionTask → Nat
  | .revokeBeyondNewest identity _ _ => if identity = identityId then 1 else 0
  | _ => 0

theorem SessionTask.capsOf_uncapped (uncapped : task.isCap = false) :
    task.capsOf identityId = 0 := by
  cases task with
  | revokeBeyondNewest _ _ _ => contradiction
  | _ => rfl

structure SessionDb.CappedAt (most identityId : Nat) (db : SessionDb) (due : Nat) : Prop where
  ordered : db.InOrder
  within : (db.liveOf identityId).length ≤ most + due

theorem SessionMove.keeps_cap (move : SessionMove db after task tasks) {most others : Nat}
    (allows : maxSessionsPerIdentity ≤ most)
    (capped : db.CappedAt most identityId (task.capsOf identityId + others)) :
    after.CappedAt most identityId (Machine.weigh (SessionTask.capsOf identityId) tasks + others) := by
  refine ⟨move.inOrder capped.ordered, ?_⟩
  have within := capped.within
  cases move with
  | created inserted =>
      have grown := @SessionDb.liveOf_createSession _ _ identityId _ _ _ inserted
      rw [Machine.weigh_cons, Machine.weigh_nil]
      change _ ≤ most + ((if _ then 1 else 0) + 0 + others)
      change _ ≤ most + (0 + others) at within
      omega
  | @capped owner _ _ _ revoked =>
      subst revoked
      by_cases same : owner = identityId
      · subst same
        have kept := @SessionDb.liveOf_revokeBeyondNewest db owner maxSessionsPerIdentity
        omega
      · have fewer := @SessionDb.liveOf_revokeWhere_le db identityId
          fun session => (db.evictedOf owner maxSessionsPerIdentity).contains session.id
        change _ ≤ most + ((if _ then 1 else 0) + others) at within
        rw [if_neg same] at within
        rw [SessionDb.revokeBeyondNewest_eq]
        omega
  | left uncapped sessions _ now =>
      rw [SessionTask.capsOf_uncapped uncapped] at within
      unfold SessionDb.liveOf at within ⊢
      rw [sessions, now]
      omega
  | revoked uncapped wanted sessions _ now =>
      rw [SessionTask.capsOf_uncapped uncapped] at within
      have fewer := @SessionDb.liveOf_revokeWhere_le db identityId wanted
      have same : after.liveOf identityId = (db.revokeWhere wanted).liveOf identityId := by
        unfold SessionDb.liveOf
        rw [sessions, now]
        rfl
      rw [same]
      omega
  | deleted uncapped gone sessions _ now =>
      rw [SessionTask.capsOf_uncapped uncapped] at within
      unfold SessionDb.liveOf at within ⊢
      rw [sessions, now]
      have fewer := ((List.filter_sublist (p := fun session => !gone session)
        (l := db.sessions)).filter fun session =>
          session.identityId == identityId && session.isLive db.now).length_le
      omega

end Moves

section Runs

variable {runtime : SessionRuntime} {start pool : Pool SessionDb SessionTask} {db : SessionDb}
  {most identityId : Nat}

theorem SessionDb.CappedAt.later {due : Nat} {now : Int} (capped : db.CappedAt most identityId due)
    (passed : db.now ≤ now) : CappedAt most identityId { db with now := now } due :=
  ⟨capped.ordered.later passed, (liveOf_later passed).trans capped.within⟩

theorem sessionStep_cap (owner : Nat) (employment : Option EmploymentSummary)
    (staffId : Option Nat) (choice : AccessChoice) :
    sessionStep runtime db (.revokeBeyondNewest owner employment staffId) choice =
      (SessionDb.revokeBeyondNewest { db with now := choice.now } owner maxSessionsPerIdentity,
        [.mint .session (AuthService.claimsOf owner employment staffId)]) := rfl

theorem sessionStep_keeps_cap {task : SessionTask} {choice : AccessChoice} {others : Nat}
    (allows : maxSessionsPerIdentity ≤ most) (passed : db.now ≤ choice.now)
    (capped : db.CappedAt most identityId (task.capsOf identityId + others)) :
    (sessionStep runtime db task choice).1.CappedAt most identityId
      (Machine.weigh (SessionTask.capsOf identityId) (sessionStep runtime db task choice).2 +
        others) := by
  have timed := capped.later passed
  cases cap : task.isCap with
  | true =>
      cases task with
      | revokeBeyondNewest owner employment staffId =>
          rw [sessionStep_cap]
          exact (SessionMove.capped rfl).keeps_cap allows timed
      | _ => contradiction
  | false =>
      rcases sessionStep_cases runtime db task choice with ⟨tasks, after, success, same⟩ | same
      · rw [same]
        exact (statement_moves success).keeps_cap allows timed
      · rw [same]
        rw [SessionTask.capsOf_uncapped cap] at timed
        exact timed

theorem run_capped (allows : maxSessionsPerIdentity ≤ most)
    (initially : db.CappedAt most identityId 0) (reached : SessionSteps runtime ⟨db, []⟩ pool) :
    pool.shared.CappedAt most identityId
      (Machine.weigh (SessionTask.capsOf identityId) pool.processes.flatten) := by
  refine (sessionMachine runtime).pool_weighed _ (SessionDb.CappedAt most identityId) initially
    ?_ ?_ reached
  · intro db call others _ capped
    exact ⟨capped.ordered, capped.within.trans (Nat.add_le_add_left (Nat.le_add_left _ _) _)⟩
  · intro pool process task choice others _ _ _ passes capped
    exact sessionStep_keeps_cap allows (timely_ran passes).1 capped

/-- However calls interleave, nobody has more live sessions than the cap allows, or had at
first, but for one more for each of their logins that has still to apply it. A login that
applies it leaves no more than it allows, and signs nobody out but its own person, and there
only sessions behind which as many live ones were created. -/
theorem sessions_capped (runtime : SessionRuntime) {start pool : Pool SessionDb SessionTask}
    (fresh : start.processes = []) (ordered : start.shared.InOrder)
    (reached : SessionSteps runtime start pool) (identityId : Nat) :
    (pool.shared.liveOf identityId).length ≤
        max maxSessionsPerIdentity (start.shared.liveOf identityId).length +
          Machine.weigh (SessionTask.capsOf identityId) pool.processes.flatten ∧
      ∀ employment staffId choice, pool.shared.now ≤ choice.now →
        ((sessionStep runtime pool.shared (.revokeBeyondNewest identityId employment staffId)
            choice).1.liveOf identityId).length ≤ maxSessionsPerIdentity ∧
          ∀ person, ∀ session ∈ SessionDb.liveOf { pool.shared with now := choice.now } person,
            session ∉ (sessionStep runtime pool.shared
                (.revokeBeyondNewest identityId employment staffId) choice).1.liveOf person →
            person = identityId ∧
              maxSessionsPerIdentity ≤
                ((SessionDb.liveOf { pool.shared with now := choice.now } identityId).filter
                  fun other => session.id < other.id).length := by
  obtain ⟨db, processes⟩ := start
  subst fresh
  have initially : db.CappedAt (max maxSessionsPerIdentity (db.liveOf identityId).length)
      identityId 0 := ⟨ordered, le_max_right _ _⟩
  have capped := run_capped (le_max_left _ _) initially reached
  refine ⟨capped.within, fun employment staffId choice passed => ?_⟩
  rw [sessionStep_cap]
  refine ⟨SessionDb.liveOf_revokeBeyondNewest _, fun person session live gone => ?_⟩
  have timed := capped.ordered.later passed
  rw [SessionDb.revokeBeyondNewest_eq, SessionDb.liveOf_revokeWhere, List.mem_filter,
    not_and] at gone
  have evicted := gone live
  rw [Bool.not_eq_true', Bool.not_eq_false] at evicted
  have behind := timed.evicted (SessionDb.mem_liveOf.mp live).1 evicted
  refine ⟨?_, behind.2⟩
  exact (SessionDb.mem_liveOf.mp live).2.1.symm.trans (SessionDb.mem_liveOf.mp behind.1).2.1

end Runs

/-! ### An eleventh login -/

def crowded : SessionDb :=
  { oneEmployed with
    sessions := (List.range 10).map fun device =>
      { id := device
        identityId := 0
        refreshTokenHash := "device " ++ toString device
        createdAt := 0
        expiresAt := dayMs
        revokedAt := none }
    nextSessionId := 10 }

def signInAgain : List (SessionCall ⊕ (Nat × AccessChoice)) :=
  .inl (.login ⟨atEmail "ana@mail.example", "secret"⟩) ::
    List.replicate 5 (.inr (0, { now := 1, random := "cookie" }))

/-- Eleven sessions are live for a moment, and ten once the cap is applied. -/
theorem eleventh_login_capped :
    ∃ pool, SessionSteps plainSessions ⟨crowded, []⟩ pool ∧
      (pool.shared.liveOf 0).length = 11 ∧
      Machine.weigh (SessionTask.capsOf 0) pool.processes.flatten = 1 ∧
      ((sessionStep plainSessions pool.shared (.revokeBeyondNewest 0 none none)
        { now := 1, random := "" }).1.liveOf 0).length ≤ maxSessionsPerIdentity := by
  have runs : ((sessionMachine plainSessions).playPool (timely plainSessions) ⟨crowded, []⟩
      signInAgain).any (fun pool => (pool.shared.liveOf 0).length == 11 && pool.shared.now == 1 &&
        Machine.weigh (SessionTask.capsOf 0) pool.processes.flatten == 1) = true := by
    decide +kernel
  obtain ⟨pool, played, found⟩ := (Option.any_eq_true _ _).mp runs
  rw [Bool.and_eq_true, Bool.and_eq_true, beq_iff_eq, beq_iff_eq, beq_iff_eq] at found
  obtain ⟨⟨live, now⟩, due⟩ := found
  have reached : SessionSteps plainSessions ⟨crowded, []⟩ pool :=
    (sessionMachine plainSessions).playPool_sound (fun _ _ passed => passed) played
  have ordered : crowded.InOrder :=
    ⟨by decide +kernel, by decide +kernel⟩
  refine ⟨pool, reached, live, due, ?_⟩
  exact ((sessions_capped plainSessions rfl ordered reached 0).2 none none
    { now := 1, random := "" } (le_of_eq now)).1

end UnifiedService.Access
