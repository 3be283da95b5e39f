import UnifiedService.Inbound.Worker

/-! How often an inbound event is handed to a worker. Each claim spends an attempt, and both
a failed projection and a lapsed lease dead-letter the row once they are spent. -/

set_option autoImplicit false

namespace UnifiedService.Inbound

open UnifiedService.Library

variable {Inbox Payload Oracle : Type} {projectors : Projector Inbox Payload Oracle}

/-! ### What is counted -/

def handed (projectors : Projector Inbox Payload Oracle) (id : Nat) :
    IntakeState Inbox Payload → IntakeParty → IntakeChoice Payload Oracle → Nat :=
  (intake projectors).given fun task => task.rest.countP (·.id == id)

def replaysEvent (id : Nat) (_ : IntakeState Inbox Payload) (party : IntakeParty)
    (choice : IntakeChoice Payload Oracle) : Nat :=
  if party = .operator ∧ choice.replays = id then 1 else 0

/-! ### The budget of an event -/

/-- How often an event can still be claimed, if nobody puts it back. -/
def InboundEventRow.budget (event : InboundEventRow Payload) : Nat :=
  if event.status.isClaimable || event.status.isLeased then event.maxAttempts - event.attemptCount
  else 0

def budgetAt (id : Nat) (events : Table (InboundEventRow Payload)) : Nat :=
  events.measureAt InboundEventRow.budget inboundMaxAttempts id

structure InboundEventRow.Sound (event : InboundEventRow Payload) : Prop where
  whole : event.maxAttempts = inboundMaxAttempts
  waiting : event.status.isClaimable = true → event.attemptCount < event.maxAttempts

def EventsSound (events : Table (InboundEventRow Payload)) : Prop :=
  ∀ id event, events.get? id = some event → event.Sound

theorem eventsSound_empty : EventsSound (.empty : Table (InboundEventRow Payload)) := by
  intro id event found
  contradiction

/-! ### What each statement does -/

theorem settled_sound {event : InboundEventRow Payload} (sound : event.Sound)
    {status : InboundEventStatus} (done : status.isClaimable = false) :
    (event.settled status).Sound := by
  refine ⟨sound.whole, fun claimable => ?_⟩
  exact absurd (done.symm.trans claimable) Bool.false_ne_true

theorem markedFailed_sound {event : InboundEventRow Payload} (sound : event.Sound)
    (nextAttemptAt : Int) : (event.markedFailed nextAttemptAt).Sound := by
  refine ⟨sound.whole, fun claimable => ?_⟩
  by_cases spent : event.maxAttempts ≤ event.attemptCount
  · simp [InboundEventRow.markedFailed, spent, InboundEventStatus.isClaimable] at claimable
  · exact Nat.lt_of_not_le spent

theorem reclaimed_sound {event : InboundEventRow Payload} (sound : event.Sound) :
    event.reclaimed.Sound := by
  refine ⟨sound.whole, fun claimable => ?_⟩
  by_cases spent : event.maxAttempts ≤ event.attemptCount
  · simp [InboundEventRow.reclaimed, spent, InboundEventStatus.isClaimable] at claimable
  · exact Nat.lt_of_not_le spent

theorem replayed_sound {event : InboundEventRow Payload} (sound : event.Sound) (now : Int) :
    (event.replayed now).Sound := by
  refine ⟨sound.whole, fun _ => ?_⟩
  change 0 < event.maxAttempts
  rw [sound.whole]
  exact Nat.zero_lt_succ 2

theorem claimed_sound {event : InboundEventRow Payload} (sound : event.Sound)
    (leaseOwner leaseSeconds : Nat) (now : Int) :
    (event.claimed leaseOwner leaseSeconds now).Sound :=
  ⟨sound.whole, fun claimable => absurd claimable Bool.false_ne_true⟩

theorem EventsSound.updateIf {events : Table (InboundEventRow Payload)} {id : Nat}
    {applies : InboundEventRow Payload → Bool}
    {change : InboundEventRow Payload → InboundEventRow Payload} (sound : EventsSound events)
    (changed : ∀ event, event.Sound → applies event = true → (change event).Sound) :
    EventsSound (events.updateIf id applies change).2 := by
  intro other later found
  rw [Table.get?_updateIf] at found
  split at found
  · obtain ⟨event, there, rfl⟩ := Option.map_eq_some_iff.mp found
    split
    · next applied => exact changed event (sound other event there) applied
    · exact sound other event there
  · exact sound other later found

theorem EventsSound.updatePicked {events : Table (InboundEventRow Payload)}
    {picked : List (Stored (InboundEventRow Payload))}
    {change : InboundEventRow Payload → InboundEventRow Payload} (sound : EventsSound events)
    (changed : ∀ event, event.Sound → (change event).Sound) :
    EventsSound (events.updatePicked picked change) := by
  intro other later found
  rw [Table.get?_updatePicked] at found
  obtain ⟨event, there, rfl⟩ := Option.map_eq_some_iff.mp found
  split
  · exact changed event (sound other event there)
  · exact sound other event there

theorem insertIgnoringDuplicate_cases (input : InboundEventInput Payload) (now : Int)
    (events : Table (InboundEventRow Payload)) :
    (InboundEventRepository.insertIgnoringDuplicate input now events).2 = events ∨
      (InboundEventRepository.insertIgnoringDuplicate input now events).2 =
        events.insert (input.row now) := by
  unfold InboundEventRepository.insertIgnoringDuplicate
  split
  · exact .inl rfl
  · exact .inr rfl

theorem inserted_sound (input : InboundEventInput Payload) (now : Int)
    {events : Table (InboundEventRow Payload)} (sound : EventsSound events) :
    EventsSound (events.insert (input.row now)) := by
  intro id event found
  rw [Table.get?_insert] at found
  split at found
  · obtain rfl := Option.some.inj found
    exact ⟨rfl, fun _ => Nat.zero_lt_succ 2⟩
  · exact sound id event found

/-! ### The budget at each statement -/

section Budget

variable (id : Nat) {events : Table (InboundEventRow Payload)}

theorem settled_budget {other : Nat} {applies : InboundEventRow Payload → Bool}
    {status : InboundEventStatus} (done : status.isClaimable = false)
    (idle : status.isLeased = false) :
    budgetAt id (events.updateIf other applies (·.settled status)).2 ≤ budgetAt id events :=
  Table.measureAt_updateIf id 0 fun event _ _ _ => by
    simp [InboundEventRow.budget, InboundEventRow.settled, done, idle]

theorem markedFailed_budget {event : InboundEventRow Payload} (leased : event.status.isLeased = true)
    (nextAttemptAt : Int) : (event.markedFailed nextAttemptAt).budget ≤ event.budget := by
  have before : event.budget = event.maxAttempts - event.attemptCount := by
    simp [InboundEventRow.budget, leased]
  rw [before]
  unfold InboundEventRow.budget
  split
  · exact Nat.le_refl _
  · exact Nat.zero_le _

theorem reclaimed_budget {event : InboundEventRow Payload} (leased : event.status.isLeased = true) :
    event.reclaimed.budget = event.budget := by
  have before : event.budget = event.maxAttempts - event.attemptCount := by
    simp [InboundEventRow.budget, leased]
  rw [before]
  by_cases spent : event.maxAttempts ≤ event.attemptCount
  · rw [Nat.sub_eq_zero_of_le spent]
    simp [InboundEventRow.budget, InboundEventRow.reclaimed, spent,
      InboundEventStatus.isClaimable, InboundEventStatus.isLeased]
  · simp [InboundEventRow.budget, InboundEventRow.reclaimed, InboundEventRow.released, spent,
      InboundEventStatus.isClaimable]

theorem claimed_budget {event : InboundEventRow Payload} (sound : event.Sound)
    (claimable : event.status.isClaimable = true) (leaseOwner leaseSeconds : Nat) (now : Int) :
    1 + (event.claimed leaseOwner leaseSeconds now).budget ≤ event.budget := by
  have left := sound.waiting claimable
  have before : event.budget = event.maxAttempts - event.attemptCount := by
    simp [InboundEventRow.budget, claimable]
  have after : (event.claimed leaseOwner leaseSeconds now).budget =
      event.maxAttempts - (event.attemptCount + 1) := rfl
  omega

end Budget

/-! ### A lease shows in the status -/

def LeasesHeld (events : Table (InboundEventRow Payload)) : Prop :=
  ∀ id event, events.get? id = some event → event.leaseOwner.isSome = true →
    event.status.isLeased = true

theorem LeasesHeld.updateIf {events : Table (InboundEventRow Payload)} {id : Nat}
    {applies : InboundEventRow Payload → Bool}
    {change : InboundEventRow Payload → InboundEventRow Payload} (held : LeasesHeld events)
    (released : ∀ event, (change event).leaseOwner = none) :
    LeasesHeld (events.updateIf id applies change).2 := by
  intro other later found owned
  rw [Table.get?_updateIf] at found
  split at found
  · obtain ⟨event, there, rfl⟩ := Option.map_eq_some_iff.mp found
    split at owned
    · rw [released] at owned
      contradiction
    · next missed =>
        rw [if_neg missed]
        exact held other event there owned
  · exact held other later found owned

theorem LeasesHeld.claimed {events : Table (InboundEventRow Payload)}
    (picked : List (Stored (InboundEventRow Payload))) (leaseOwner leaseSeconds : Nat) (now : Int)
    (held : LeasesHeld events) :
    LeasesHeld (events.updatePicked picked (·.claimed leaseOwner leaseSeconds now)) := by
  intro other later found owned
  rw [Table.get?_updatePicked] at found
  obtain ⟨event, there, rfl⟩ := Option.map_eq_some_iff.mp found
  split at owned
  · next taken =>
      rw [if_pos taken]
      rfl
  · next left =>
      rw [if_neg left]
      exact held other event there owned

theorem LeasesHeld.reclaimed {events : Table (InboundEventRow Payload)}
    (picked : List (Stored (InboundEventRow Payload))) (held : LeasesHeld events) :
    LeasesHeld (events.updatePicked picked (·.reclaimed)) := by
  intro other later found owned
  rw [Table.get?_updatePicked] at found
  obtain ⟨event, there, rfl⟩ := Option.map_eq_some_iff.mp found
  split at owned
  · contradiction
  · next left =>
      rw [if_neg left]
      exact held other event there owned

theorem leased_of_heldBy {events : Table (InboundEventRow Payload)} {id leaseOwner : Nat}
    {event : InboundEventRow Payload} (held : LeasesHeld events)
    (found : events.get? id = some event)
    (owned : InboundEventRepository.heldBy leaseOwner event = true) :
    event.status.isLeased = true := by
  refine held id event found ?_
  have owner : event.leaseOwner = some leaseOwner := by
    simpa [InboundEventRepository.heldBy] using owned
  rw [owner]
  rfl

/-! ### A step of the ledger -/

structure LedgerSound (events : Table (InboundEventRow Payload)) : Prop where
  rows : EventsSound events
  leases : LeasesHeld events

inductive LedgerEffect (choice : IntakeChoice Payload Oracle)
    (events : Table (InboundEventRow Payload)) :
    IntakeParty → Table (InboundEventRow Payload) → List (ProjectorTask Payload) → Prop
  | untouched (party : IntakeParty) (tasks : List (ProjectorTask Payload)) :
      LedgerEffect choice events party events tasks
  | settled (leaseOwner id : Nat) (status : InboundEventStatus)
      (tasks : List (ProjectorTask Payload))
      (done : status = .processed ∨ status = .skipped) :
      LedgerEffect choice events (.worker leaseOwner)
        (events.updateIf id (InboundEventRepository.heldBy leaseOwner) (·.settled status)).2 tasks
  | failed (leaseOwner id : Nat) (nextAttemptAt : Int) (tasks : List (ProjectorTask Payload)) :
      LedgerEffect choice events (.worker leaseOwner)
        (InboundEventRepository.markFailed id leaseOwner nextAttemptAt events).2 tasks
  | reclaimed :
      LedgerEffect choice events .reaper
        (InboundEventRepository.reclaimExpiredLeases Outbound.leaseReaperBatch choice.now
          choice.skipped events) []
  | inserted (id : Nat) :
      LedgerEffect choice events (.ingest id)
        (InboundEventRepository.insertIgnoringDuplicate choice.input choice.now events).2 []
  | replayed :
      LedgerEffect choice events .operator
        (InboundEventRepository.replay choice.replays choice.now events).2 []

theorem runStep_ledger (projectors : Projector Inbox Payload Oracle) (leaseOwner : Nat)
    (choice : IntakeChoice Payload Oracle)
    (current : Intake Inbox Payload) (rest : List (ClaimedInboundEvent Payload))
    (step : ProjectorStep Payload) :
    LedgerEffect choice current.events (.worker leaseOwner)
      (InboundProjectorWorker.runStep projectors leaseOwner choice current rest step).1.events
      (InboundProjectorWorker.runStep projectors leaseOwner choice current rest step).2 := by
  cases step with
  | next => cases rest <;> exact .untouched _ _
  | findContext event =>
      simp only [InboundProjectorWorker.runStep]
      split <;> exact .untouched _ _
  | project event context =>
      simp only [InboundProjectorWorker.runStep]
      split <;> exact .untouched _ _
  | offerToRewards | reverseRewards => exact .untouched _ _
  | markSkipped event tried =>
      simp only [InboundProjectorWorker.runStep]
      split
      · exact .untouched _ _
      · exact .settled leaseOwner event.id .skipped _ (.inr rfl)
  | markProcessed event outcome =>
      simp only [InboundProjectorWorker.runStep]
      split
      · exact .untouched _ _
      · exact .settled leaseOwner event.id .processed _ (.inl rfl)
  | markFailed event nextAttemptAt =>
      simp only [InboundProjectorWorker.runStep]
      split
      · exact .untouched _ _
      · exact .failed leaseOwner event.id nextAttemptAt _

section Effect

variable {choice : IntakeChoice Payload Oracle} {events after : Table (InboundEventRow Payload)}
  {party : IntakeParty} {tasks : List (ProjectorTask Payload)}

theorem LedgerEffect.sound (effect : LedgerEffect choice events party after tasks)
    (sound : LedgerSound events) : LedgerSound after := by
  cases effect with
  | untouched => exact sound
  | settled leaseOwner id status tasks done =>
      refine ⟨sound.rows.updateIf fun event eventSound _ => settled_sound eventSound ?_,
        sound.leases.updateIf fun _ => rfl⟩
      rcases done with rfl | rfl <;> rfl
  | failed leaseOwner id nextAttemptAt =>
      exact ⟨sound.rows.updateIf fun event eventSound _ => markedFailed_sound eventSound _,
        sound.leases.updateIf fun _ => rfl⟩
  | reclaimed =>
      exact ⟨sound.rows.updatePicked fun event eventSound => reclaimed_sound eventSound,
        sound.leases.reclaimed _⟩
  | inserted id =>
      rcases insertIgnoringDuplicate_cases choice.input choice.now events with same | inserted
      · rw [same]
        exact sound
      · rw [inserted]
        refine ⟨inserted_sound _ _ sound.rows, fun other event found owned => ?_⟩
        rw [Table.get?_insert] at found
        split at found
        · obtain rfl := Option.some.inj found
          contradiction
        · exact sound.leases other event found owned
  | replayed =>
      exact ⟨sound.rows.updateIf fun event eventSound _ => replayed_sound eventSound _,
        sound.leases.updateIf fun _ => rfl⟩

theorem LedgerEffect.budget (effect : LedgerEffect choice events party after tasks)
    (sound : LedgerSound events) (id : Nat) {state : IntakeState Inbox Payload} :
    budgetAt id after ≤
      budgetAt id events + inboundMaxAttempts * replaysEvent id state party choice := by
  cases effect with
  | untouched => exact Nat.le_add_right _ _
  | settled leaseOwner other status tasks done =>
      refine (settled_budget id ?_ ?_).trans (Nat.le_add_right _ _) <;>
        rcases done with rfl | rfl <;> rfl
  | failed leaseOwner other nextAttemptAt =>
      refine Table.measureAt_updateIf id _ fun event found applied _ => ?_
      rw [Bool.and_eq_true] at applied
      exact (markedFailed_budget (leased_of_heldBy sound.leases found applied.1) _).trans
        (Nat.le_add_right _ _)
  | reclaimed =>
      refine (Nat.le_of_eq (Table.measureAt_updatePicked (fun event expired => ?_) id)).trans
        (Nat.le_add_right _ _)
      unfold InboundEventRepository.leaseExpired at expired
      rw [Bool.and_eq_true] at expired
      exact reclaimed_budget expired.1
  | inserted other =>
      refine le_trans ?_ (Nat.le_add_right _ _)
      rcases insertIgnoringDuplicate_cases choice.input choice.now events with same | inserted
      · rw [same]
      · rw [inserted]
        have whole : (choice.input.row choice.now).budget ≤ inboundMaxAttempts := Nat.le_refl _
        exact Table.measureAt_insert whole id
  | replayed =>
      refine Table.measureAt_updateIf id _ fun event found _ same => ?_
      have counted : replaysEvent id state .operator choice = 1 := by
        simp [replaysEvent, same]
      have whole : (event.replayed choice.now).budget ≤ inboundMaxAttempts := by
        have max := (sound.rows _ event found).whole
        change event.maxAttempts - 0 ≤ _
        rw [max]
        exact Nat.le_refl _
      rw [counted, Nat.mul_one]
      exact whole.trans (Nat.le_add_left _ _)

end Effect

/-! ### A run -/

theorem countP_claimed (due : List (Stored (InboundEventRow Payload))) (id : Nat) :
    ((due.insertionSort workedBefore).map claimOf).countP (·.id == id) =
      (due.map (·.id)).count id := by
  rw [List.countP_map, (List.perm_insertionSort workedBefore due).countP_eq, List.count,
    List.countP_map]
  rfl

section Run

variable {state : IntakeState Inbox Payload} {party : IntakeParty}
  {choice : IntakeChoice Payload Oracle}

theorem startIntake_ledger (notWorker : ∀ leaseOwner, party ≠ .worker leaseOwner)
    (choice : IntakeChoice Payload Oracle) (current : Intake Inbox Payload) :
    LedgerEffect choice current.events party (startIntake current party choice).1.events [] ∧
      (startIntake current party choice).2 = [] := by
  cases party with
  | worker leaseOwner => exact absurd rfl (notWorker leaseOwner)
  | reaper =>
      refine ⟨?_, rfl⟩
      simp only [startIntake]
      split
      · exact .untouched _ _
      · exact .reclaimed
  | ingest id =>
      refine ⟨?_, rfl⟩
      simp only [startIntake]
      split
      · exact .untouched _ _
      · exact .inserted id
  | operator =>
      refine ⟨?_, rfl⟩
      simp only [startIntake]
      split
      · exact .untouched _ _
      · exact .replayed

theorem intake_step (projectors : Projector Inbox Payload Oracle)
    (sound : LedgerSound state.store.events) (id : Nat) :
    LedgerSound ((intake projectors).step state party choice).store.events ∧
      handed projectors id state party choice +
          budgetAt id ((intake projectors).step state party choice).store.events ≤
        budgetAt id state.store.events + inboundMaxAttempts * replaysEvent id state party choice := by
  cases queued : state.left party with
  | nil =>
      rw [((intake projectors).step_start queued choice).1]
      unfold handed Crew.given
      rw [queued]
      by_cases working : ∃ leaseOwner, party = .worker leaseOwner
      · obtain ⟨leaseOwner, rfl⟩ := working
        change LedgerSound (InboundProjectorWorker.pollOnce leaseOwner choice
          state.store).1.events ∧ ((InboundProjectorWorker.pollOnce leaseOwner choice
          state.store).2.map _).sum + budgetAt id (InboundProjectorWorker.pollOnce leaseOwner
          choice state.store).1.events ≤ _
        unfold InboundProjectorWorker.pollOnce
        split
        · refine ⟨sound, ?_⟩
          simp
        · refine ⟨⟨sound.rows.updatePicked fun event eventSound => claimed_sound eventSound _ _ _,
            sound.leases.claimed _ _ _ _⟩, ?_⟩
          refine le_trans ?_ (Nat.le_add_right _ _)
          simp only [List.map_cons, List.map_nil, List.sum_cons, List.sum_nil, Nat.add_zero]
          change ((List.insertionSort _ _).map claimOf).countP _ + _ ≤ _
          rw [countP_claimed]
          refine Table.measureAt_claimed fun event found wanted => ?_
          rw [Bool.and_eq_true] at wanted
          exact claimed_budget (sound.rows id event found) wanted.1 _ _ _
      · obtain ⟨effect, nothing⟩ := startIntake_ledger
          (fun leaseOwner same => working ⟨leaseOwner, same⟩) choice state.store
        refine ⟨effect.sound sound, ?_⟩
        change ((startIntake state.store party choice).2.map _).sum + _ ≤ _
        rw [nothing, List.map_nil, List.sum_nil, Nat.zero_add]
        exact effect.budget sound id
  | cons task rest =>
      rw [((intake projectors).step_run queued choice).1]
      have unhanded : handed projectors id state party choice = 0 := by
        unfold handed Crew.given
        rw [queued]
      rw [unhanded, Nat.zero_add]
      cases party with
      | worker leaseOwner =>
          have effect := runStep_ledger projectors leaseOwner choice state.store task.rest
            task.step
          exact ⟨effect.sound sound, effect.budget sound id⟩
      | reaper | ingest | operator => exact ⟨sound, Nat.le_add_right _ _⟩

end Run

theorem ledgerSound_empty : LedgerSound (.empty : Table (InboundEventRow Payload)) :=
  ⟨eventsSound_empty, fun _ _ found => nomatch found⟩

/-- An inbound event is handed out within its attempts, with a new budget for each time it
is put back by hand. -/
theorem events_budgeted (projectors : Projector Inbox Payload Oracle) (inbox : Inbox)
    (script : List (IntakeParty × IntakeChoice Payload Oracle)) (id : Nat) :
    (intake projectors).tally (handed projectors id) (Crew.idle (.start inbox)) script +
        budgetAt id ((intake projectors).after (Crew.idle (.start inbox)) script).store.events ≤
      inboundMaxAttempts + inboundMaxAttempts *
        (intake projectors).tally (replaysEvent id) (Crew.idle (.start inbox)) script := by
  have initially : LedgerSound
      (Crew.idle (.start inbox) : IntakeState Inbox Payload).store.events := ledgerSound_empty
  have bounded := Crew.tally_le
    (fun state : IntakeState Inbox Payload => LedgerSound state.store.events)
    (fun state => budgetAt id state.store.events)
    (fun _ _ _ sound _ => (intake_step projectors sound id).1)
    (fun _ _ _ sound _ => (intake_step projectors sound id).2)
    initially (Crew.Permits.always _ script)
  rwa [Crew.tally_mul] at bounded

theorem events_sound (projectors : Projector Inbox Payload Oracle) (inbox : Inbox)
    (script : List (IntakeParty × IntakeChoice Payload Oracle)) :
    LedgerSound ((intake projectors).after (Crew.idle (.start inbox)) script).store.events :=
  Crew.Reaches.keeps (fun state : IntakeState Inbox Payload => LedgerSound state.store.events)
    (fun _ _ _ sound _ => (intake_step projectors sound 0).1)
    ledgerSound_empty (Crew.Permits.always _ script).reaches

theorem budget_pos_of_claimable {event : InboundEventRow Payload} (sound : event.Sound)
    (claimable : event.status.isClaimable = true) : 0 < event.budget := by
  have left := sound.waiting claimable
  simp only [InboundEventRow.budget, claimable, Bool.true_or, if_true]
  exact Nat.sub_pos_of_lt left

end UnifiedService.Inbound
