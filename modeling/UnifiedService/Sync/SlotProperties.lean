import Mathlib.Data.List.Induction
import UnifiedService.Sync.Jobs

/-! Which jobs may share a slot. The live index does not cover a failed job, so a second
job of its slot is kept out only as long as none is asked for while it waits. -/

set_option autoImplicit false

namespace UnifiedService.Sync

open UnifiedService.Library

def SyncJobStatus.isRunnable : SyncJobStatus → Bool
  | .pending | .running | .failed | .rateLimited | .paused => true
  | .completed | .deadLetter | .cancelled => false

def SyncJobRow.isRunnable (job : SyncJobRow) : Bool := !job.isDeleted && job.status.isRunnable

/-- No two jobs that run, or can run again, share a slot. -/
def OneJobPerSlot (jobs : Table SyncJobRow) : Prop :=
  ∀ first second job other, jobs.get? first = some job → jobs.get? second = some other →
    job.isRunnable = true → other.isRunnable = true → job.slot = other.slot → first = second

def SlotsKept (turns : List (Int × SyncCall)) : Prop :=
  ∀ done rest, turns = done ++ rest → OneJobPerSlot (jobsAfter done) ∧
    ∀ turn ∈ rest.head?, ∃ after, turn.2.apply turn.1 (jobsAfter done) = .ok after

/-- No job is asked for while a failed job of its slot waits for its retry. -/
def NoFailedTwin (jobs : Table SyncJobRow) : SyncCall → Prop
  | .enqueueIfAbsent input => ∀ id job, jobs.get? id = some job → job.isDeleted = false →
      job.status = .failed → job.slot ≠ input.slot
  | _ => True

def SyncJobRow.LeaseSound (job : SyncJobRow) : Prop :=
  job.leaseOwner.isSome = true → job.status = .running

def LeasesSound (jobs : Table SyncJobRow) : Prop :=
  ∀ id job, jobs.get? id = some job → job.LeaseSound

structure SyncJobRow.Follows (job later : SyncJobRow) : Prop where
  slot : later.slot = job.slot
  lease : later.LeaseSound
  runnable : later.isRunnable = true → job.isRunnable = true

theorem SyncJobRow.Follows.refl {job : SyncJobRow} (sound : job.LeaseSound) : job.Follows job :=
  ⟨rfl, sound, id⟩

/-! ### What each update does to a job -/

theorem runnable_of_claimable {status : SyncJobStatus} (claimable : status.isClaimable = true) :
    status.isRunnable = true := by
  cases status <;> first | rfl | contradiction

theorem runnable_of_live {job : SyncJobRow} (live : job.isLive = true) :
    job.isRunnable = true := by
  unfold SyncJobRow.isLive at live
  unfold SyncJobRow.isRunnable
  rw [Bool.and_eq_true] at live ⊢
  refine ⟨live.1, ?_⟩
  cases status : job.status <;> simp_all [SyncJobStatus.isLive, SyncJobStatus.isRunnable]

theorem live_or_failed {job : SyncJobRow} (runnable : job.isRunnable = true) :
    job.isLive = true ∨ job.isDeleted = false ∧ job.status = .failed := by
  unfold SyncJobRow.isRunnable at runnable
  unfold SyncJobRow.isLive
  rw [Bool.and_eq_true, Bool.not_eq_true'] at runnable
  obtain ⟨kept, able⟩ := runnable
  cases status : job.status <;> simp_all [SyncJobStatus.isLive, SyncJobStatus.isRunnable]

theorem follows_settled {job later : SyncJobRow} (slot : later.slot = job.slot)
    (released : later.leaseOwner = none) (deleted : later.isDeleted = job.isDeleted)
    (running : job.status.isRunnable = true) : job.Follows later where
  slot := slot
  lease := by
    intro leased
    rw [released] at leased
    contradiction
  runnable := by
    intro runnable
    unfold SyncJobRow.isRunnable at runnable ⊢
    rw [Bool.and_eq_true] at runnable ⊢
    exact ⟨deleted ▸ runnable.1, running⟩

theorem running_of_held {job : SyncJobRow} {leaseOwner : Nat} (sound : job.LeaseSound)
    (held : SyncJobRepository.heldBy leaseOwner job = true) : job.status.isRunnable = true := by
  have leased : job.leaseOwner = some leaseOwner := by
    simpa [SyncJobRepository.heldBy] using held
  rw [sound (by rw [leased]; rfl)]
  rfl

theorem updateIf_follows {jobs : Table SyncJobRow} {id : Nat} {applies : SyncJobRow → Bool}
    {change : SyncJobRow → SyncJobRow} (sound : LeasesSound jobs)
    (changed : ∀ job, job.LeaseSound → applies job = true → job.Follows (change job)) :
    Table.Kept SyncJobRow.Follows jobs (jobs.updateIf id applies change).2 := by
  intro other job found
  rw [Table.get?_updateIf, found]
  split
  · cases applied : applies job with
    | true => exact ⟨change job, by simp [applied], changed job (sound _ _ found) applied⟩
    | false => exact ⟨job, by simp [applied], .refl (sound _ _ found)⟩
  · exact ⟨job, rfl, .refl (sound _ _ found)⟩

theorem updatePicked_follows {jobs : Table SyncJobRow} {wanted : SyncJobRow → Bool}
    {before : Stored SyncJobRow → Stored SyncJobRow → Prop} [DecidableRel before] {limit : Nat}
    {skipped : List Nat} {change : SyncJobRow → SyncJobRow} (sound : LeasesSound jobs)
    (changed : ∀ job, job.LeaseSound → wanted job = true → job.Follows (change job)) :
    Table.Kept SyncJobRow.Follows jobs
      (jobs.updatePicked (jobs.pick wanted before limit skipped) change) := by
  intro id job found
  rw [Table.get?_updatePicked, found, Option.map_some]
  split
  · next picked =>
      exact ⟨change job, rfl,
        changed job (sound _ _ found) (Table.wanted_of_picked picked found)⟩
  · exact ⟨job, rfl, .refl (sound _ _ found)⟩

theorem revived_follows {jobs : Table SyncJobRow} {id : Nat} (triggerKind : SyncTriggerKind)
    (now : Int) (sound : LeasesSound jobs) :
    Table.Kept SyncJobRow.Follows jobs
      (jobs.updateIf id (·.status == .paused) (·.revived triggerKind now)).2 := by
  refine updateIf_follows sound fun job leases paused => ?_
  have status : job.status = .paused := by simpa using paused
  refine ⟨rfl, fun leased => ?_, fun runnable => ?_⟩
  · exact absurd ((leases leased).symm.trans status) (by decide)
  · simp_all [SyncJobRow.isRunnable, SyncJobRow.revived, SyncJobStatus.isRunnable]

theorem claimed_follows {jobs : Table SyncJobRow} (leaseOwner limit leaseSeconds : Nat)
    (now : Int) (skipped : List Nat) (sound : LeasesSound jobs) :
    Table.Kept SyncJobRow.Follows jobs
      (jobs.updatePicked (SyncJobRepository.dueRows limit now skipped jobs)
        (·.claimed leaseOwner leaseSeconds now)) := by
  refine updatePicked_follows sound fun job _ wanted => ⟨rfl, fun _ => rfl, fun _ => ?_⟩
  simp only [Bool.and_eq_true] at wanted
  unfold SyncJobRow.isRunnable
  rw [wanted.1.1, runnable_of_claimable wanted.1.2]
  rfl

theorem reclaimed_follows {jobs : Table SyncJobRow} (limit : Nat) (now : Int)
    (skipped : List Nat) (sound : LeasesSound jobs) :
    Table.Kept SyncJobRow.Follows jobs
      (SyncJobRepository.reclaimExpiredLeases limit now skipped jobs) := by
  refine updatePicked_follows sound fun job _ expired => follows_settled rfl rfl rfl ?_
  unfold SyncJobRepository.leaseExpired at expired
  rw [Bool.and_eq_true, beq_iff_eq] at expired
  rw [expired.1]
  rfl

theorem progress_follows {jobs : Table SyncJobRow} {id : Nat} (leaseOwner : Nat)
    {applies : SyncJobRow → Bool} {change : SyncJobRow → SyncJobRow}
    (held : ∀ job, applies job = true → SyncJobRepository.runningUnder leaseOwner job = true)
    (same : ∀ job, (change job).slot = job.slot ∧ (change job).isRunnable = job.isRunnable ∧
      (change job).status = job.status)
    (sound : LeasesSound jobs) :
    Table.Kept SyncJobRow.Follows jobs (jobs.updateIf id applies change).2 := by
  refine updateIf_follows sound fun job _ applied => ?_
  have running := held job applied
  unfold SyncJobRepository.runningUnder at running
  rw [Bool.and_eq_true, beq_iff_eq] at running
  obtain ⟨slot, runnable, status⟩ := same job
  exact ⟨slot, fun _ => status.trans running.2, fun able => runnable ▸ able⟩

/-! ### One statement -/

theorem SyncCall.follows {jobs after : Table SyncJobRow} {now : Int} {call : SyncCall}
    (sound : LeasesSound jobs) (applied : call.apply now jobs = .ok after) :
    Table.Kept SyncJobRow.Follows jobs after ∧ after.nextId = jobs.nextId ∨
      ∃ input, call = .enqueueIfAbsent input ∧ after = jobs.insert (input.row now) ∧
        ∀ id job, jobs.get? id = some job → job.isLive = true → job.slot ≠ input.slot := by
  cases call with
  | enqueueIfAbsent input =>
      simp only [SyncCall.apply, Except.ok.injEq] at applied
      subst applied
      unfold SyncJobRepository.enqueueIfAbsent
      split
      · next absent =>
          refine .inr ⟨input, rfl, rfl, fun id job found live same => ?_⟩
          have rejected := Table.find?_eq_none.mp absent id job found
          rw [live, same, beq_self_eq_true] at rejected
          contradiction
      · next stored found =>
          exact .inl ⟨revived_follows _ _ sound, Table.nextId_updateIf ..⟩
  | claimBatch leaseOwner limit leaseSeconds skipped =>
      simp only [SyncCall.apply, SyncJobRepository.claimBatch] at applied
      split at applied
      · simp only [Except.map, Except.ok.injEq] at applied
        subst applied
        exact .inl ⟨claimed_follows _ _ _ _ _ sound, Table.nextId_updatePicked ..⟩
      · contradiction
  | extendLease id leaseOwner leaseSeconds =>
      simp only [SyncCall.apply, Except.ok.injEq] at applied
      subst applied
      refine .inl ⟨progress_follows leaseOwner (fun job applied => ?_)
        (fun _ => ⟨rfl, rfl, rfl⟩) sound, Table.nextId_updateIf ..⟩
      exact (Bool.and_eq_true _ _ ▸ applied).1
  | saveProgress id leaseOwner pageCursor itemsAdded leaseSeconds =>
      simp only [SyncCall.apply, Except.ok.injEq] at applied
      subst applied
      exact .inl ⟨progress_follows leaseOwner (fun _ applied => applied)
        (fun _ => ⟨rfl, rfl, rfl⟩) sound, Table.nextId_updateIf ..⟩
  | markCompleted id leaseOwner itemsAdded =>
      simp only [SyncCall.apply, Except.ok.injEq] at applied
      subst applied
      exact .inl ⟨updateIf_follows sound fun job leases held =>
        follows_settled rfl rfl rfl (running_of_held leases held), Table.nextId_updateIf ..⟩
  | markFailed id leaseOwner nextAttemptAt =>
      simp only [SyncCall.apply, Except.ok.injEq] at applied
      subst applied
      exact .inl ⟨updateIf_follows sound fun job leases held =>
        follows_settled rfl rfl rfl (running_of_held leases held), Table.nextId_updateIf ..⟩
  | markRateLimited id leaseOwner until_ =>
      simp only [SyncCall.apply, Except.ok.injEq] at applied
      subst applied
      exact .inl ⟨updateIf_follows sound fun job leases held =>
        follows_settled rfl rfl rfl (running_of_held leases held), Table.nextId_updateIf ..⟩
  | markPaused id leaseOwner =>
      simp only [SyncCall.apply, Except.ok.injEq] at applied
      subst applied
      exact .inl ⟨updateIf_follows sound fun job leases held =>
        follows_settled rfl rfl rfl (running_of_held leases held), Table.nextId_updateIf ..⟩
  | reclaimExpiredLeases limit skipped =>
      simp only [SyncCall.apply, Except.ok.injEq] at applied
      subst applied
      exact .inl ⟨reclaimed_follows _ _ _ sound, Table.nextId_updatePicked ..⟩

theorem OneJobPerSlot.of_follows {jobs after : Table SyncJobRow} (one : OneJobPerSlot jobs)
    (kept : Table.Kept SyncJobRow.Follows jobs after) (keys : after.nextId = jobs.nextId) :
    OneJobPerSlot after := by
  intro first second job other found there runnable able same
  obtain ⟨before, earlier, follows⟩ := kept.origin keys found
  obtain ⟨twin, older, trails⟩ := kept.origin keys there
  exact one _ _ _ _ earlier older (follows.runnable runnable) (trails.runnable able)
    (follows.slot.symm.trans (same.trans trails.slot))

theorem LeasesSound.of_follows {jobs after : Table SyncJobRow}
    (kept : Table.Kept SyncJobRow.Follows jobs after) (keys : after.nextId = jobs.nextId) :
    LeasesSound after := by
  intro id job found
  obtain ⟨before, earlier, follows⟩ := kept.origin keys found
  exact follows.lease

theorem OneJobPerSlot.insert {jobs : Table SyncJobRow} {input : EnqueueSyncInput} {now : Int}
    (one : OneJobPerSlot jobs)
    (free : ∀ id job, jobs.get? id = some job → job.isRunnable = true → job.slot ≠ input.slot) :
    OneJobPerSlot (jobs.insert (input.row now)) := by
  intro first second job other found there runnable able same
  rw [Table.get?_insert] at found there
  split at found <;> split at there
  · next here again => exact here.trans again.symm
  · obtain rfl := Option.some.inj found
    exact absurd same.symm (free _ _ there able)
  · obtain rfl := Option.some.inj there
    exact absurd same (free _ _ found runnable)
  · exact one _ _ _ _ found there runnable able same

/-- Where no two runnable jobs share a slot, the live index holds. -/
theorem OneJobPerSlot.liveUniq {jobs : Table SyncJobRow} (one : OneJobPerSlot jobs) :
    liveUniq jobs = true := by
  unfold Sync.liveUniq
  rw [decide_eq_true_eq, List.Nodup, List.pairwise_map, List.pairwise_filter,
    List.pairwise_iff_getElem]
  intro first second bound later before live alive same
  have distinct := one _ _ _ _ (List.getElem?_eq_getElem bound) (List.getElem?_eq_getElem later)
    (runnable_of_live live) (runnable_of_live alive) same
  exact absurd distinct (Nat.ne_of_lt before)

theorem SyncCall.passes {jobs : Table SyncJobRow} (one : OneJobPerSlot jobs)
    (sound : LeasesSound jobs) (now : Int) (call : SyncCall) :
    ∃ after, call.apply now jobs = .ok after := by
  cases call with
  | claimBatch leaseOwner limit leaseSeconds skipped =>
      have kept := claimed_follows leaseOwner limit leaseSeconds now skipped sound
      have uniq := (one.of_follows kept (Table.nextId_updatePicked ..)).liveUniq
      simp only [SyncCall.apply, SyncJobRepository.claimBatch, uniq, if_true]
      exact ⟨_, rfl⟩
  | _ => exact ⟨_, rfl⟩

/-! ### Any sequence of statements -/

structure SlotsSound (jobs : Table SyncJobRow) : Prop where
  one : OneJobPerSlot jobs
  leases : LeasesSound jobs

theorem SlotsSound.empty : SlotsSound .empty := by
  constructor
  · intro first second job other found
    contradiction
  · intro id job found
    contradiction

theorem SlotsSound.step {jobs : Table SyncJobRow} (slots : SlotsSound jobs)
    {turn : Int × SyncCall} (alone : NoFailedTwin jobs turn.2) :
    SlotsSound (SyncCall.after jobs turn) := by
  obtain ⟨now, call⟩ := turn
  obtain ⟨after, applied⟩ := call.passes slots.one slots.leases now
  rw [SyncCall.after, applied]
  change SlotsSound after
  rcases SyncCall.follows slots.leases applied with ⟨kept, keys⟩ | ⟨input, rfl, rfl, free⟩
  · exact ⟨slots.one.of_follows kept keys, .of_follows kept keys⟩
  · constructor
    · refine slots.one.insert fun id job found runnable => ?_
      rcases live_or_failed runnable with live | ⟨there, failed⟩
      · exact free id job found live
      · exact alone id job found there failed
    · intro id job found
      rw [Table.get?_insert] at found
      split at found
      · obtain rfl := Option.some.inj found
        exact fun leased => absurd leased Bool.false_ne_true
      · exact slots.leases id job found

theorem jobsAfter_append (done : List (Int × SyncCall)) (turn : Int × SyncCall) :
    jobsAfter (done ++ [turn]) = SyncCall.after (jobsAfter done) turn := by
  rw [jobsAfter, List.foldl_append]
  rfl

/-- As long as no job is asked for beside a failed one, the slots stay sound. -/
theorem slotsSound_of_noFailedTwin {turns : List (Int × SyncCall)}
    (alone : ∀ done turn rest, turns = done ++ turn :: rest →
      NoFailedTwin (jobsAfter done) turn.2) :
    SlotsSound (jobsAfter turns) := by
  induction turns using List.reverseRecOn with
  | nil => exact .empty
  | append_singleton done turn ih =>
      rw [jobsAfter_append]
      refine (ih fun earlier other rest split => ?_).step (alone done turn [] rfl)
      refine alone earlier other (rest ++ [turn]) ?_
      rw [split, List.append_assoc, List.cons_append]

/-- A job asked for beside a failed one of its slot leaves the slot with two. -/
theorem twins_of_failedTwin {jobs : Table SyncJobRow} {now : Int} {input : EnqueueSyncInput}
    {id : Nat} {job : SyncJobRow} (one : OneJobPerSlot jobs) (found : jobs.get? id = some job)
    (kept : job.isDeleted = false) (failed : job.status = .failed) (same : job.slot = input.slot) :
    ¬OneJobPerSlot (SyncCall.after jobs (now, .enqueueIfAbsent input)) := by
  have runnable : job.isRunnable = true := by simp [SyncJobRow.isRunnable, kept, failed,
    SyncJobStatus.isRunnable]
  have inserted : SyncCall.after jobs (now, .enqueueIfAbsent input) =
      jobs.insert (input.row now) := by
    change (SyncJobRepository.enqueueIfAbsent input now jobs).2 = _
    unfold SyncJobRepository.enqueueIfAbsent
    split
    · rfl
    · next stored first =>
        obtain ⟨there, wanted⟩ := Table.find?_some first
        rw [Bool.and_eq_true, beq_iff_eq] at wanted
        have identified := one _ _ _ _ found there runnable (runnable_of_live wanted.1)
          (same.trans wanted.2.symm)
        rw [← identified, found, Option.some.injEq] at there
        rw [← there, SyncJobRow.isLive, failed] at wanted
        simp [SyncJobStatus.isLive] at wanted
  rw [inserted]
  intro still
  have equal := still _ _ _ _ (Table.get?_insert_of_some (input.row now) found)
    (Table.get?_insert_self jobs (input.row now)) runnable rfl same
  rw [equal, Table.get?_nextId] at found
  contradiction

/-- One live job per slot, and no claim that fails: exactly as long as no job is asked for
while a failed job of its slot waits for its retry. -/
theorem slots_kept_iff (turns : List (Int × SyncCall)) :
    SlotsKept turns ↔ ∀ done turn rest, turns = done ++ turn :: rest →
      NoFailedTwin (jobsAfter done) turn.2 := by
  constructor
  · intro kept done turn rest split
    obtain ⟨now, call⟩ := turn
    cases call with
    | enqueueIfAbsent input =>
        intro id job found there failed same
        have before := (kept done _ split).1
        have after := (kept (done ++ [(now, .enqueueIfAbsent input)]) rest (by simp [split])).1
        rw [jobsAfter_append] at after
        exact twins_of_failedTwin before found there failed same after
    | _ => trivial
  · intro alone done rest split
    have slots : SlotsSound (jobsAfter done) := slotsSound_of_noFailedTwin
      fun earlier turn later parted => alone earlier turn (later ++ rest) (by simp [split, parted])
    exact ⟨slots.one, fun turn _ => turn.2.passes slots.one slots.leases turn.1⟩

def askedTwice : List (Int × SyncCall) :=
  let walk : EnqueueSyncInput := ⟨1, 7, .backfillComments, .initialConnect, none⟩
  let other : EnqueueSyncInput := ⟨2, 8, .backfillPosts, .initialConnect, none⟩
  [(0, .enqueueIfAbsent walk), (1, .claimBatch 1 10 300 []), (2, .markFailed 0 1 (some 1000)),
    (3, .enqueueIfAbsent { walk with triggerKind := .reconnect }), (4, .enqueueIfAbsent other),
    (2000, .claimBatch 1 10 300 [])]

/-- Both jobs of the walk are due, and the claim of the batch fails for every channel. -/
theorem slots_not_kept : ¬∀ turns, SlotsKept turns := by
  intro kept
  obtain ⟨after, claimed⟩ :=
    (kept askedTwice (askedTwice.take 5) (askedTwice.drop 5) rfl).2 _ rfl
  have failed : SyncCall.apply 2000 (jobsAfter (askedTwice.take 5)) (.claimBatch 1 10 300 []) =
      .error .syncAlreadyRunning := by decide +kernel
  rw [failed] at claimed
  cases claimed

end UnifiedService.Sync
