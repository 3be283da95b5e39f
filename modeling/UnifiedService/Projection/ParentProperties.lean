import UnifiedService.Projection.TransactionProperties

/-! Which message each message answers, in every order of the statements of the projections.
A message looks for its parent as it is stored, and for the replies that wait for it. -/

set_option autoImplicit false

namespace UnifiedService.Projection

open UnifiedService.Library

/-! ### Rows by the platform's ids -/

def Names (messages : Table MessageRow) (enterpriseId : Nat) (mid : String) (id : Nat) : Prop :=
  ∃ row, messages.get? id = some row ∧ row.isPlatform enterpriseId mid = true

def Awaits (messages : Table MessageRow) (enterpriseId : Nat) (mid : String) (id : Nat) : Prop :=
  ∃ row, messages.get? id = some row ∧ row.awaitsParent enterpriseId mid = true

def MessageRow.answered (message : MessageRow) : Option String :=
  message.metadata.replyToPlatformMessageId

theorem isPlatform_iff {row : MessageRow} {enterpriseId : Nat} {mid : String} :
    row.isPlatform enterpriseId mid = true ↔
      row.enterpriseId = enterpriseId ∧ row.platformMessageId = some mid := by
  simp [MessageRow.isPlatform]

theorem awaitsParent_iff {row : MessageRow} {enterpriseId : Nat} {mid : String} :
    row.awaitsParent enterpriseId mid = true ↔
      row.enterpriseId = enterpriseId ∧ row.parentMessageId = none ∧ row.answered = some mid := by
  simp [MessageRow.awaitsParent, MessageRow.answered, and_assoc]

theorem mem_orphans {inbox : Inbox} {enterpriseId : Nat} {mid : String} {id : Nat} :
    id ∈ inbox.orphans enterpriseId mid ↔ Awaits inbox.messages enterpriseId mid id := by
  constructor
  · intro member
    obtain ⟨stored, listed, rfl⟩ := List.mem_map.mp member
    exact ⟨stored.row, Table.mem_select.mp listed⟩
  · rintro ⟨row, found⟩
    exact List.mem_map.mpr ⟨⟨id, row⟩, Table.mem_select.mpr found, rfl⟩

structure Conversationalists where
  answers : Nat → String → Option String
  among : Nat → String → Bool

def Conversationalists.asks (set : Conversationalists) (enterpriseId : Nat) (mid : String) : Bool :=
  (set.answers enterpriseId mid).any (set.among enterpriseId)

structure Linked (set : Conversationalists) (messages : Table MessageRow) : Prop where
  unique : ∀ enterpriseId mid one other, Names messages enterpriseId mid one →
    Names messages enterpriseId mid other → one = other
  links : ∀ id row mid, messages.get? id = some row → row.answered = some mid →
    ∀ parent, Names messages row.enterpriseId mid parent ↔ row.parentMessageId = some parent
  sent : ∀ id row, messages.get? id = some row → row.platformMessageId = none →
    row.answered = none
  told : ∀ id row mid, messages.get? id = some row → row.platformMessageId = some mid →
    set.asks row.enterpriseId mid = true → row.answered = set.answers row.enterpriseId mid

/-! ### Storing a message -/

def MessageRow.pointed (adopted : List Nat) (new id : Nat) (message : MessageRow) : MessageRow :=
  { message with parentMessageId := if id ∈ adopted then some new else message.parentMessageId }

structure Files (before after : Table MessageRow) (new : Nat) (row : MessageRow)
    (adopted : List Nat) : Prop where
  get : ∀ id, after.get? id =
    if id = new then some row else (before.get? id).map (·.pointed adopted new id)
  replaced : ∀ old, before.get? new = some old → old.platformMessageId = none

section Files

variable {set : Conversationalists} {before after : Table MessageRow} {new : Nat}
  {row : MessageRow} {adopted : List Nat} {mid : String}

theorem Files.names (files : Files before after new row adopted)
    (named : row.platformMessageId = some mid) (enterpriseId : Nat) (other : String) (id : Nat) :
    Names after enterpriseId other id ↔
      (enterpriseId = row.enterpriseId ∧ other = mid ∧ id = new) ∨
        Names before enterpriseId other id := by
  unfold Names
  rw [files.get]
  by_cases same : id = new
  · subst same
    rw [if_pos rfl]
    constructor
    · rintro ⟨_, found, platform⟩
      obtain rfl := Option.some.inj found
      obtain ⟨enterprise, platform⟩ := isPlatform_iff.mp platform
      exact .inl ⟨enterprise.symm, Option.some.inj (platform.symm.trans named), rfl⟩
    · rintro (⟨rfl, rfl, -⟩ | ⟨old, there, platform⟩)
      · exact ⟨row, rfl, isPlatform_iff.mpr ⟨rfl, named⟩⟩
      · have unnamed := files.replaced old there
        rw [(isPlatform_iff.mp platform).2] at unnamed
        contradiction
  · rw [if_neg same]
    constructor
    · rintro ⟨_, there, platform⟩
      obtain ⟨old, before, rfl⟩ := Option.map_eq_some_iff.mp there
      exact .inr ⟨old, before, platform⟩
    · rintro (⟨-, -, rfl⟩ | ⟨old, there, platform⟩)
      · exact absurd rfl same
      · rw [there]
        exact ⟨_, rfl, platform⟩

structure Told (set : Conversationalists) (before : Table MessageRow) (row : MessageRow)
    (mid : String) (adopted : List Nat) : Prop where
  named : row.platformMessageId = some mid
  fresh : ∀ id, ¬Names before row.enterpriseId mid id
  adopts : ∀ id, id ∈ adopted ↔ Awaits before row.enterpriseId mid id
  links : ∀ other, row.answered = some other → other ≠ mid ∧
    ∀ parent, Names before row.enterpriseId other parent ↔ row.parentMessageId = some parent
  answered : set.asks row.enterpriseId mid = true →
    row.answered = set.answers row.enterpriseId mid

/-- A message that is told everything leaves every row linked. -/
theorem Files.linked (linked : Linked set before) (files : Files before after new row adopted)
    (told : Told set before row mid adopted) : Linked set after := by
  have names := files.names told.named
  constructor
  · intro enterpriseId other one two first second
    rw [names] at first second
    rcases first with ⟨rfl, rfl, rfl⟩ | first <;> rcases second with ⟨same, mids, rfl⟩ | second
    · rfl
    · exact absurd second (told.fresh two)
    · subst same mids
      exact absurd first (told.fresh one)
    · exact linked.unique enterpriseId other one two first second
  · intro id stored other there answers parent
    rw [names]
    rw [files.get] at there
    split at there
    · obtain rfl := Option.some.inj there
      obtain ⟨different, links⟩ := told.links other answers
      rw [links]
      simp [different]
    · next different =>
        obtain ⟨old, before, rfl⟩ := Option.map_eq_some_iff.mp there
        have oldAnswers : old.answered = some other := answers
        have links := linked.links id old other before oldAnswers
        by_cases ours : old.enterpriseId = row.enterpriseId ∧ other = mid
        · -- It waited for this very message, and was adopted.
          obtain ⟨enterprise, rfl⟩ := ours
          have orphan : old.parentMessageId = none := by
            cases pointed : old.parentMessageId with
            | none => rfl
            | some parent =>
                have named := (links parent).mpr pointed
                rw [enterprise] at named
                exact absurd named (told.fresh parent)
          have waits : id ∈ adopted := (told.adopts id).mpr
            ⟨old, before, awaitsParent_iff.mpr ⟨enterprise, orphan, oldAnswers⟩⟩
          simp only [MessageRow.pointed, if_pos waits, enterprise, true_and, Option.some.injEq]
          constructor
          · rintro (rfl | named)
            · rfl
            · exact absurd named (told.fresh parent)
          · rintro rfl
            exact .inl rfl
        · have kept : id ∉ adopted := by
            intro member
            obtain ⟨same, found, waits⟩ := (told.adopts id).mp member
            rw [before] at found
            obtain rfl := Option.some.inj found
            obtain ⟨enterprise, -, answered⟩ := awaitsParent_iff.mp waits
            exact ours ⟨enterprise, Option.some.inj (oldAnswers.symm.trans answered)⟩
          simp only [MessageRow.pointed, if_neg kept, ← links]
          constructor
          · rintro (⟨enterprise, rfl, -⟩ | named)
            · exact absurd ⟨enterprise, rfl⟩ ours
            · exact named
          · exact .inr
  · intro id stored there unnamed
    rw [files.get] at there
    split at there
    · rw [← Option.some.inj there, told.named] at unnamed
      contradiction
    · obtain ⟨old, before, rfl⟩ := Option.map_eq_some_iff.mp there
      exact linked.sent id old before unnamed
  · intro id stored other there named asks
    rw [files.get] at there
    split at there
    · obtain rfl := Option.some.inj there
      obtain rfl := Option.some.inj (named.symm.trans told.named)
      exact told.answered asks
    · obtain ⟨old, before, rfl⟩ := Option.map_eq_some_iff.mp there
      exact linked.told id old other before named asks

end Files

/-! ### What a projection under way has read -/

def Delivery.answered : Delivery → Option String
  | incoming message => message.metadata.replyToPlatformMessageId
  | echoed _ => none

def Delivery.isEcho (delivery : Delivery) : Prop := ∃ echoed, delivery = .echoed echoed

/-- What a projection has read still stands, and what it stores nobody else can store. -/
structure Prepared (set : Conversationalists) (messages : Table MessageRow) (state : DeliveryState)
    (locks : List InboxLock) : Prop where
  among : set.among state.delivery.enterpriseId state.delivery.mid = true
  loopless : state.delivery.answered ≠ some state.delivery.mid
  told : set.asks state.delivery.enterpriseId state.delivery.mid = true →
    state.delivery.answered = set.answers state.delivery.enterpriseId state.delivery.mid
  claims : state.step = .claim → state.delivery.isEcho
  thread : state.step.isJoined = true → .thread state.threadKey ∈ locks
  parent : state.step.isRead = true → ∀ mid, state.delivery.answered = some mid →
    ∀ id, Names messages state.delivery.enterpriseId mid id ↔ state.parentMessageId = some id
  writes : state.step = .adopt ∨ state.step.isCounting = true → state.written.isSome = true
  fresh : state.written.isSome = true → state.platformLock ∈ locks ∧
    ∀ id, ¬Names messages state.delivery.enterpriseId state.delivery.mid id
  stamped : ∀ id, state.written = some (.stamped id) → .message id ∈ locks ∧
    state.delivery.isEcho ∧ ∃ row, messages.get? id = some row ∧
      row.enterpriseId = state.delivery.enterpriseId ∧ row.platformMessageId = none
  adopted : state.written.isSome = true → state.step.isCounting = true ∨ state.step = .commit →
    ∀ id, id ∈ state.adopted ↔
      Awaits messages state.delivery.enterpriseId state.delivery.mid id
  settled : state.step = .commit → state.written = none →
    ∃ id, Names messages state.delivery.enterpriseId state.delivery.mid id

section Prepared

variable {set : Conversationalists} {state : DeliveryState} {locks : List InboxLock}

theorem findId_names {inbox : Inbox} {enterpriseId : Nat} {mid : String} {id : Nat}
    (found : inbox.findIdByPlatformMessageId enterpriseId mid = some id) :
    Names inbox.messages enterpriseId mid id := by
  obtain ⟨stored, first, rfl⟩ := Option.map_eq_some_iff.mp found
  exact ⟨stored.row, Table.find?_some first⟩

theorem findId_none_iff {inbox : Inbox} {enterpriseId : Nat} {mid : String} :
    inbox.findIdByPlatformMessageId enterpriseId mid = none ↔
      ∀ id, ¬Names inbox.messages enterpriseId mid id := by
  rw [Inbox.findIdByPlatformMessageId, Option.map_eq_none_iff, Table.find?_eq_none]
  constructor
  · rintro absent id ⟨row, found, platform⟩
    rw [absent id row found] at platform
    contradiction
  · intro nobody id row found
    exact Bool.eq_false_iff.mpr fun platform => nobody id ⟨row, found, platform⟩

theorem findId_eq_iff {inbox : Inbox} (linked : Linked set inbox.messages) {enterpriseId : Nat}
    {mid : String} {id : Nat} :
    Names inbox.messages enterpriseId mid id ↔
      inbox.findIdByPlatformMessageId enterpriseId mid = some id := by
  constructor
  · intro named
    cases result : inbox.findIdByPlatformMessageId enterpriseId mid with
    | none => exact absurd named (findId_none_iff.mp result id)
    | some other =>
        rw [linked.unique enterpriseId mid other id (findId_names result) named]
  · exact findId_names

theorem Prepared.opening {delivery : Delivery} {now : Int} {messages : Table MessageRow}
    (among : set.among delivery.enterpriseId delivery.mid = true)
    (loopless : delivery.answered ≠ some delivery.mid)
    (told : set.asks delivery.enterpriseId delivery.mid = true →
      delivery.answered = set.answers delivery.enterpriseId delivery.mid) :
    Prepared set messages (.opening delivery now) [] where
  among := among
  loopless := loopless
  told := told
  claims := nofun
  thread := nofun
  parent := nofun
  writes := by rintro (step | step) <;> contradiction
  fresh := nofun
  stamped := nofun
  adopted := nofun
  settled := nofun

theorem claimed_waits {choice : InboxChoice} {inbox : Inbox} {stored : Stored MessageRow}
    (claimed : state.claimed choice inbox = some stored) :
    state.delivery.isEcho ∧ inbox.messages.get? stored.id = some stored.row ∧
      stored.row.enterpriseId = state.delivery.enterpriseId ∧
      stored.row.platformMessageId = none := by
  unfold DeliveryState.claimed at claimed
  split at claimed
  · next echoed conversationId ours joined =>
      have listed := List.mem_of_find?_eq_some claimed
      obtain ⟨found, awaits⟩ := Table.mem_select.mp listed
      simp only [MessageRow.awaitsEcho, Bool.and_eq_true, beq_iff_eq,
        Option.isNone_iff_eq_none] at awaits
      refine ⟨⟨echoed, ours⟩, found, ?_, awaits.1.1.2⟩
      rw [ours]
      exact awaits.1.1.1.1.1
  · contradiction

theorem Prepared.weaken {messages : Table MessageRow} (prepared : Prepared set messages state locks)
    {more : List InboxLock} (kept : locks ⊆ more) : Prepared set messages state more :=
  { prepared with
    thread := fun joined => kept (prepared.thread joined)
    fresh := fun stored => ⟨kept (prepared.fresh stored).1, (prepared.fresh stored).2⟩
    stamped := fun id stamped =>
      ⟨kept (prepared.stamped id stamped).1, (prepared.stamped id stamped).2⟩ }

/-- A projection that has not joined its thread has read nothing that could change. -/
theorem Prepared.early {messages : Table MessageRow} (prepared : Prepared set messages state locks)
    {next : DeliveryState} (delivery : next.delivery = state.delivery)
    (written : next.written = state.written) (after : next.step.isJoined = false) :
    Prepared set messages next locks := by
  have elsewhere : ∀ {step : DeliveryStep}, step.isJoined = true → next.step ≠ step := by
    rintro step joined rfl
    rw [joined] at after
    contradiction
  have uncounted : next.step.isCounting = false := by
    revert after
    cases next.step <;> decide
  constructor
  case among => rw [delivery]; exact prepared.among
  case loopless => rw [delivery]; exact prepared.loopless
  case told => rw [delivery]; exact prepared.told
  case claims => exact fun at_ => absurd at_ (elsewhere rfl)
  case thread => exact fun joined => absurd (after.symm.trans joined) Bool.false_ne_true
  case parent =>
      intro read
      have joined : next.step.isJoined = true := by
        revert read
        cases next.step <;> decide
      exact absurd (after.symm.trans joined) Bool.false_ne_true
  case writes =>
      rintro (at_ | counting)
      · exact absurd at_ (elsewhere rfl)
      · exact absurd (uncounted.symm.trans counting) Bool.false_ne_true
  case fresh =>
      rw [written, DeliveryState.platformLock, delivery]
      exact prepared.fresh
  case stamped =>
      rw [written, delivery]
      exact prepared.stamped
  case adopted =>
      rintro _ (counting | at_)
      · exact absurd (uncounted.symm.trans counting) Bool.false_ne_true
      · exact absurd at_ (elsewhere rfl)
  case settled => exact fun at_ => absurd at_ (elsewhere rfl)

theorem Prepared.continues {choice : InboxChoice} {inbox : Inbox} {next : DeliveryState}
    (linked : Linked set inbox.messages) (prepared : Prepared set inbox.messages state locks)
    (decided : state.Decided choice inbox next) :
    Prepared set inbox.messages next (locks ++ state.takes choice inbox) := by
  have kept := prepared.weaken (List.subset_append_left locks (state.takes choice inbox))
  have locked : ∀ {step : DeliveryStep}, state.step = step → step.isJoined = true →
      .thread state.threadKey ∈ locks ++ state.takes choice inbox :=
    fun at_ joined => kept.thread (by rw [at_, joined])
  cases decided with
  | prepares step _ after => exact kept.early rfl rfl after
  | finds existing step _ after _ => exact kept.early rfl rfl after
  | creates _ _ => exact kept.early rfl rfl rfl
  | links _ _ _ _ => exact kept.early rfl rfl rfl
  | joins at_ stored _ =>
      have taken : .thread state.threadKey ∈ locks ++ state.takes choice inbox := by
        refine List.mem_append_right locks ?_
        rw [DeliveryState.takes, at_]
        exact List.mem_singleton_self _
      exact { kept with
        claims := by intro step; contradiction
        thread := fun _ => taken
        parent := by intro step; contradiction
        writes := by rintro (step | step) <;> contradiction
        adopted := by rintro _ (step | step) <;> contradiction
        settled := by intro step; contradiction }
  | opens at_ _ =>
      have taken : .thread state.threadKey ∈ locks ++ state.takes choice inbox := by
        refine List.mem_append_right locks ?_
        rw [DeliveryState.takes, at_]
        exact List.mem_singleton_self _
      exact { kept with
        claims := by intro step; contradiction
        thread := fun _ => taken
        parent := by intro step; contradiction
        writes := by rintro (step | step) <;> contradiction
        adopted := by rintro _ (step | step) <;> contradiction
        settled := by intro step; contradiction }
  | opened at_ =>
      exact { kept with
        claims := by intro step; contradiction
        thread := fun _ => locked at_ rfl
        parent := by intro step; contradiction
        writes := by rintro (step | step) <;> contradiction
        adopted := by rintro _ (step | step) <;> contradiction
        settled := by intro step; contradiction }
  | looks at_ incoming ours =>
      exact { kept with
        claims := by intro step; contradiction
        thread := fun _ => locked at_ rfl
        parent := by
          intro _ mid answers id
          rw [findId_eq_iff linked]
          simp only [ours, Delivery.answered, Delivery.enterpriseId] at answers ⊢
          rw [Incoming.parent, answers]
          rfl
        writes := by rintro (step | step) <;> contradiction
        adopted := by rintro _ (step | step) <;> contradiction
        settled := by intro step; contradiction }
  | misses at_ echoed ours =>
      exact { kept with
        claims := fun _ => ⟨echoed, ours⟩
        thread := fun _ => locked at_ rfl
        parent := by intro step; contradiction
        writes := by rintro (step | step) <;> contradiction
        adopted := by rintro _ (step | step) <;> contradiction
        settled := by intro step; contradiction }
  | passes at_ =>
      obtain ⟨echoed, ours⟩ := prepared.claims at_
      exact { kept with
        claims := by intro step; contradiction
        thread := fun _ => locked at_ rfl
        parent := by
          intro _ mid answers
          simp [ours, Delivery.answered] at answers
        writes := by rintro (step | step) <;> contradiction
        adopted := by rintro _ (step | step) <;> contradiction
        settled := by intro step; contradiction }
  | knows at_ held =>
      obtain ⟨id, found⟩ := Option.isSome_iff_exists.mp held
      have named := findId_names found
      have unwritten : ¬state.written.isSome = true := fun stored =>
        (prepared.fresh stored).2 id named
      exact { kept with
        claims := by intro step; contradiction
        thread := by
          intro _
          rcases at_ with at_ | ⟨at_, -⟩
          · exact locked at_ rfl
          · exact locked at_ rfl
        parent := by
          intro _ mid answers
          rcases at_ with at_ | ⟨-, echoed, ours⟩
          · exact kept.parent (by rw [at_]; rfl) mid answers
          · simp [ours, Delivery.answered] at answers
        writes := by rintro (step | step) <;> contradiction
        adopted := fun stored => absurd stored unwritten
        settled := fun _ _ => ⟨id, named⟩ }
  | stamps at_ stored claimed unheld =>
      obtain ⟨echo, found, enterprise, unnamed⟩ := claimed_waits claimed
      have taken : [InboxLock.message stored.id, state.platformLock] ⊆
          locks ++ state.takes choice inbox := by
        refine List.Subset.trans ?_ (List.subset_append_right locks _)
        rw [DeliveryState.takes, at_]
        simp only [claimed]
        exact List.Subset.refl _
      exact { kept with
        claims := by intro step; contradiction
        thread := fun _ => locked at_ rfl
        parent := by
          intro _ mid answers
          obtain ⟨echoed, ours⟩ := echo
          simp [ours, Delivery.answered] at answers
        writes := fun _ => rfl
        fresh := fun _ =>
          ⟨taken (List.mem_cons_of_mem _ List.mem_cons_self), findId_none_iff.mp unheld⟩
        stamped := by
          intro id stamped
          cases stamped
          exact ⟨taken List.mem_cons_self, echo, stored.row, found, enterprise, unnamed⟩
        adopted := by rintro _ (step | step) <;> contradiction
        settled := by intro step; contradiction }
  | inserts at_ unheld =>
      have taken : state.platformLock ∈ locks ++ state.takes choice inbox := by
        refine List.mem_append_right locks ?_
        rw [DeliveryState.takes, at_]
        simp only [unheld]
        exact List.mem_singleton_self _
      exact { kept with
        claims := by intro step; contradiction
        thread := fun _ => locked at_ rfl
        parent := fun _ => kept.parent (by rw [at_]; rfl)
        writes := fun _ => rfl
        fresh := fun _ => ⟨taken, findId_none_iff.mp unheld⟩
        stamped := by intro id step; cases step
        adopted := by rintro _ (step | step) <;> contradiction
        settled := by intro step; contradiction }
  | adopts at_ step next =>
      have stored := prepared.writes (.inl at_)
      exact { kept with
        claims := by
          rintro rfl
          rcases next with next | next <;> contradiction
        thread := fun _ => locked at_ rfl
        parent := fun _ => kept.parent (by rw [at_]; rfl)
        writes := fun _ => stored
        adopted := fun _ _ id => mem_orphans
        settled := by
          intro _ nothing
          change state.written = none at nothing
          rw [nothing] at stored
          contradiction }
  | counts at_ step next =>
      have stored := prepared.writes (.inr at_)
      have joined : state.step.isJoined = true := by
        revert at_
        cases state.step <;> decide
      have read : state.step.isRead = true := by
        revert at_
        cases state.step <;> decide
      exact { kept with
        claims := by
          rintro rfl
          rcases next with next | next <;> contradiction
        thread := fun _ => kept.thread joined
        parent := fun _ => kept.parent read
        writes := fun _ => stored
        adopted := fun _ _ => kept.adopted stored (.inl at_)
        settled := by
          intro _ nothing
          change state.written = none at nothing
          rw [nothing] at stored
          contradiction }

end Prepared

/-! ### What a commit leaves of the others -/

section Commits

variable {set : Conversationalists} {before after : Table MessageRow} {state : DeliveryState}
  {locks : List InboxLock}

/-- What a projection has read stands after another one stored a message that it neither
looked for nor is answered by. -/
theorem Prepared.filed {new : Nat} {row : MessageRow} {adopted : List Nat} {mid : String}
    (prepared : Prepared set before state locks) (linked : Linked set before)
    (files : Files before after new row adopted) (told : Told set before row mid adopted)
    (apart : state.written.isSome = true →
      ¬(state.delivery.enterpriseId = row.enterpriseId ∧ state.delivery.mid = mid))
    (unclaimed : ∀ id, state.written = some (.stamped id) → id ≠ new)
    (unread : state.step.isRead = true →
      ¬(state.delivery.enterpriseId = row.enterpriseId ∧ state.delivery.answered = some mid))
    (unasked : state.written.isSome = true → state.step.isCounting = true ∨ state.step = .commit →
      ¬(state.delivery.enterpriseId = row.enterpriseId ∧
        row.answered = some state.delivery.mid)) :
    Prepared set after state locks := by
  have names := files.names told.named
  refine { prepared with parent := ?_, fresh := ?_, stamped := ?_, adopted := ?_, settled := ?_ }
  · intro read other answers id
    rw [names, ← prepared.parent read other answers]
    constructor
    · rintro (⟨enterprise, rfl, -⟩ | named)
      · exact absurd ⟨enterprise, answers⟩ (unread read)
      · exact named
    · exact .inr
  · intro stored
    refine ⟨(prepared.fresh stored).1, fun id named => ?_⟩
    rcases (names ..).mp named with ⟨enterprise, same, -⟩ | old
    · exact apart stored ⟨enterprise, same⟩
    · exact (prepared.fresh stored).2 id old
  · intro id stamped
    obtain ⟨locked, echo, old, found, enterprise, unnamed⟩ := prepared.stamped id stamped
    refine ⟨locked, echo, old.pointed adopted new id, ?_, enterprise, unnamed⟩
    rw [files.get, if_neg (unclaimed id stamped), found]
    rfl
  · intro stored past id
    rw [prepared.adopted stored past]
    have others := apart stored
    constructor
    · rintro ⟨old, found, waits⟩
      obtain ⟨enterprise, orphan, answered⟩ := awaitsParent_iff.mp waits
      have different : id ≠ new := by
        rintro rfl
        have nothing := linked.sent id old found (files.replaced old found)
        rw [nothing] at answered
        contradiction
      have kept : id ∉ adopted := by
        intro member
        obtain ⟨same, there, waits⟩ := (told.adopts id).mp member
        rw [found] at there
        obtain rfl := Option.some.inj there
        obtain ⟨ours, -, mids⟩ := awaitsParent_iff.mp waits
        exact others ⟨enterprise.symm.trans ours, Option.some.inj (answered.symm.trans mids)⟩
      refine ⟨old.pointed adopted new id, ?_, ?_⟩
      · rw [files.get, if_neg different, found]
        rfl
      · refine awaitsParent_iff.mpr ⟨enterprise, ?_, answered⟩
        rw [MessageRow.pointed]
        simp only [if_neg kept]
        exact orphan
    · rintro ⟨later, found, waits⟩
      obtain ⟨enterprise, orphan, answered⟩ := awaitsParent_iff.mp waits
      rw [files.get] at found
      split at found
      · obtain rfl := Option.some.inj found
        exact absurd ⟨enterprise.symm, answered⟩ (unasked stored past)
      · obtain ⟨old, there, rfl⟩ := Option.map_eq_some_iff.mp found
        refine ⟨old, there, awaitsParent_iff.mpr ⟨enterprise, ?_, answered⟩⟩
        rw [MessageRow.pointed] at orphan
        simp only at orphan
        split at orphan
        · contradiction
        · exact orphan
  · intro at_ nothing
    obtain ⟨id, named⟩ := prepared.settled at_ nothing
    exact ⟨id, (names ..).mpr (.inr named)⟩

structure MessageRow.SameLinks (one other : MessageRow) : Prop where
  enterprise : other.enterpriseId = one.enterpriseId
  platform : other.platformMessageId = one.platformMessageId
  parent : other.parentMessageId = one.parentMessageId
  answered : other.answered = one.answered

structure Rests (before after : Table MessageRow) : Prop where
  rows : ∀ id row, after.get? id = some row →
    (∃ old, before.get? id = some old ∧ old.SameLinks row) ∨
      before.get? id = none ∧ row.platformMessageId = none ∧ row.answered = none
  kept : Table.Kept MessageRow.SameLinks before after

theorem Rests.refl (messages : Table MessageRow) : Rests messages messages :=
  ⟨fun _ row found => .inl ⟨row, found, rfl, rfl, rfl, rfl⟩, .refl (fun _ => ⟨rfl, rfl, rfl, rfl⟩) _⟩

theorem Rests.of_update (target : Nat) {change : MessageRow → MessageRow}
    (same : ∀ row, before.get? target = some row → row.SameLinks (change row)) :
    Rests before (before.update target change) := by
  constructor
  · intro id row found
    rw [Table.get?_update] at found
    split at found
    · next here =>
        subst here
        obtain ⟨old, there, rfl⟩ := Option.map_eq_some_iff.mp found
        exact .inl ⟨old, there, same old there⟩
    · exact .inl ⟨row, found, rfl, rfl, rfl, rfl⟩
  · intro id row found
    rw [Table.get?_update]
    split
    · next here =>
        subst here
        rw [found]
        exact ⟨_, rfl, same row found⟩
    · exact ⟨row, found, rfl, rfl, rfl, rfl⟩

theorem Rests.of_updateWhere (chosen : Nat → MessageRow → Bool)
    {change : MessageRow → MessageRow} (same : ∀ row : MessageRow, row.SameLinks (change row)) :
    Rests before (before.updateWhere chosen change) := by
  have related : ∀ id (row : MessageRow),
      row.SameLinks (if chosen id row then change row else row) := by
    intro id row
    split
    · exact same row
    · exact ⟨rfl, rfl, rfl, rfl⟩
  constructor
  · intro id row found
    rw [Table.get?_updateWhere] at found
    obtain ⟨old, there, rfl⟩ := Option.map_eq_some_iff.mp found
    exact .inl ⟨old, there, related id old⟩
  · intro id row found
    rw [Table.get?_updateWhere, found]
    exact ⟨_, rfl, related id row⟩

theorem Rests.of_insert {row : MessageRow} (unnamed : row.platformMessageId = none)
    (silent : row.answered = none) : Rests before (before.insert row) := by
  constructor
  · intro id later found
    rw [Table.get?_insert] at found
    split at found
    · next same =>
        subst same
        rw [← Option.some.inj found]
        exact .inr ⟨Table.get?_nextId before, unnamed, silent⟩
    · exact .inl ⟨later, found, rfl, rfl, rfl, rfl⟩
  · exact .insert (fun _ => ⟨rfl, rfl, rfl, rfl⟩) before row

theorem Rests.names (rests : Rests before after) (enterpriseId : Nat) (mid : String) (id : Nat) :
    Names after enterpriseId mid id ↔ Names before enterpriseId mid id := by
  constructor
  · rintro ⟨row, found, platform⟩
    obtain ⟨enterprise, named⟩ := isPlatform_iff.mp platform
    rcases rests.rows id row found with ⟨old, there, same⟩ | ⟨-, unnamed, -⟩
    · exact ⟨old, there, isPlatform_iff.mpr
        ⟨same.enterprise.symm.trans enterprise, same.platform.symm.trans named⟩⟩
    · rw [unnamed] at named
      contradiction
  · rintro ⟨row, found, platform⟩
    obtain ⟨enterprise, named⟩ := isPlatform_iff.mp platform
    obtain ⟨later, there, same⟩ := rests.kept id row found
    exact ⟨later, there, isPlatform_iff.mpr
      ⟨same.enterprise.trans enterprise, same.platform.trans named⟩⟩

theorem Rests.awaits (rests : Rests before after) (enterpriseId : Nat) (mid : String) (id : Nat) :
    Awaits after enterpriseId mid id ↔ Awaits before enterpriseId mid id := by
  constructor
  · rintro ⟨row, found, waits⟩
    obtain ⟨enterprise, orphan, answered⟩ := awaitsParent_iff.mp waits
    rcases rests.rows id row found with ⟨old, there, same⟩ | ⟨-, -, silent⟩
    · exact ⟨old, there, awaitsParent_iff.mpr ⟨same.enterprise.symm.trans enterprise,
        same.parent.symm.trans orphan, same.answered.symm.trans answered⟩⟩
    · rw [silent] at answered
      contradiction
  · rintro ⟨row, found, waits⟩
    obtain ⟨enterprise, orphan, answered⟩ := awaitsParent_iff.mp waits
    obtain ⟨later, there, same⟩ := rests.kept id row found
    exact ⟨later, there, awaitsParent_iff.mpr ⟨same.enterprise.trans enterprise,
      same.parent.trans orphan, same.answered.trans answered⟩⟩

theorem Rests.linked (linked : Linked set before) (rests : Rests before after) :
    Linked set after := by
  constructor
  · intro enterpriseId mid one other first second
    rw [rests.names] at first second
    exact linked.unique enterpriseId mid one other first second
  · intro id row mid found answers parent
    rw [rests.names]
    rcases rests.rows id row found with ⟨old, there, same⟩ | ⟨-, -, silent⟩
    · rw [same.enterprise, same.parent]
      exact linked.links id old mid there (same.answered.symm.trans answers) parent
    · rw [silent] at answers
      contradiction
  · intro id row found unnamed
    rcases rests.rows id row found with ⟨old, there, same⟩ | ⟨-, -, silent⟩
    · rw [same.answered]
      exact linked.sent id old there (same.platform.symm.trans unnamed)
    · exact silent
  · intro id row mid found named asks
    rcases rests.rows id row found with ⟨old, there, same⟩ | ⟨-, unnamed, -⟩
    · rw [same.enterprise] at asks ⊢
      rw [same.answered]
      exact linked.told id old mid there (same.platform.symm.trans named) asks
    · rw [unnamed] at named
      contradiction

theorem Prepared.rested (prepared : Prepared set before state locks) (rests : Rests before after) :
    Prepared set after state locks := by
  refine { prepared with parent := ?_, fresh := ?_, stamped := ?_, adopted := ?_, settled := ?_ }
  · intro read mid answers id
    rw [rests.names]
    exact prepared.parent read mid answers id
  · intro stored
    refine ⟨(prepared.fresh stored).1, fun id => ?_⟩
    rw [rests.names]
    exact (prepared.fresh stored).2 id
  · intro id stamped
    obtain ⟨locked, echo, old, found, enterprise, unnamed⟩ := prepared.stamped id stamped
    obtain ⟨later, there, same⟩ := rests.kept id old found
    exact ⟨locked, echo, later, there, same.enterprise.trans enterprise,
      same.platform.trans unnamed⟩
  · intro stored past id
    rw [rests.awaits]
    exact prepared.adopted stored past id
  · intro at_ nothing
    obtain ⟨id, named⟩ := prepared.settled at_ nothing
    exact ⟨id, (rests.names ..).mpr named⟩

end Commits

/-! ### What each transaction commits -/

section Row

variable (delivery : Delivery) (customerId conversationId : Nat) (parentMessageId : Option Nat)
  (now : Int)

theorem Delivery.row_enterpriseId :
    (delivery.row customerId conversationId parentMessageId now).enterpriseId =
      delivery.enterpriseId := by
  cases delivery <;> rfl

theorem Delivery.row_platformMessageId :
    (delivery.row customerId conversationId parentMessageId now).platformMessageId =
      some delivery.mid := by
  cases delivery <;> rfl

theorem Delivery.row_answered :
    (delivery.row customerId conversationId parentMessageId now).answered = delivery.answered := by
  cases delivery <;> rfl

theorem Delivery.row_parentMessageId {mid : String} (answers : delivery.answered = some mid) :
    (delivery.row customerId conversationId parentMessageId now).parentMessageId =
      parentMessageId := by
  cases delivery with
  | incoming message => rfl
  | echoed message => contradiction

end Row

theorem publishAdoption_get {inbox : Inbox} (adopted : List Nat) (parentId id : Nat) :
    (inbox.publishAdoption adopted parentId).messages.get? id =
      if id = parentId then inbox.messages.get? id
      else (inbox.messages.get? id).map (·.pointed adopted parentId id) := by
  unfold Inbox.publishAdoption
  rw [Table.get?_updateWhere]
  by_cases same : id = parentId
  · subst same
    simp
  · rw [if_neg same]
    refine congrArg (Option.map · _) (funext fun row => ?_)
    unfold MessageRow.pointed
    by_cases member : id ∈ adopted
    · simp [member, same]
    · simp [member]

section Publish

variable {set : Conversationalists} {state : DeliveryState} {locks : List InboxLock}
  {inbox : Inbox}

/-- A projection that stored nothing found its message stored. -/
theorem publish_messages_of_known (customer : Entry CustomerResolution)
    (conversation : Entry Nat) (unwritten : state.written = none) :
    (state.publish customer conversation inbox).messages = inbox.messages := by
  unfold DeliveryState.publish
  rw [unwritten]
  exact state.publishEntry_messages customer conversation inbox

theorem Prepared.publishes (prepared : Prepared set inbox.messages state locks)
    (linked : Linked set inbox.messages) (at_ : state.step = .commit)
    (customer : Entry CustomerResolution) (conversation : Entry Nat)
    (stored : state.written.isSome = true) :
    ∃ new row, Files inbox.messages (state.publish customer conversation inbox).messages new row
        state.adopted ∧
      Told set inbox.messages row state.delivery.mid state.adopted ∧
      row.enterpriseId = state.delivery.enterpriseId ∧
      (row.answered = state.delivery.answered) ∧
      (new = inbox.messages.nextId ∨ .message new ∈ locks) := by
  have messages := state.publishEntry_messages customer conversation inbox
  obtain ⟨_, fresh⟩ := prepared.fresh stored
  have adopts := prepared.adopted stored (.inr at_)
  unfold DeliveryState.publish
  generalize state.publishEntry customer conversation inbox = published at messages ⊢
  obtain ⟨resolved, joined, current⟩ := published
  dsimp only at messages ⊢
  cases written : state.written with
  | none =>
      rw [written] at stored
      contradiction
  | some way =>
      cases way with
      | inserted =>
          dsimp only
          rw [Delivery.count_messages, messages]
          have enterprise := state.delivery.row_enterpriseId resolved.customerId joined.id
            state.parentMessageId state.now
          have answered := state.delivery.row_answered resolved.customerId joined.id
            state.parentMessageId state.now
          refine ⟨inbox.messages.nextId, state.delivery.row resolved.customerId joined.id
            state.parentMessageId state.now, ⟨fun id => ?_, fun old found => ?_⟩,
            ⟨Delivery.row_platformMessageId .., ?_, ?_, fun other answers => ?_, ?_⟩, enterprise,
            answered, .inl rfl⟩
          · rw [publishAdoption_get, Table.get?_insert]
            split
            · rfl
            · rfl
          · rw [Table.get?_nextId] at found
            contradiction
          · rw [enterprise]
            exact fresh
          · rw [enterprise]
            exact adopts
          · rw [answered] at answers
            rw [enterprise, Delivery.row_parentMessageId _ _ _ _ _ answers]
            refine ⟨?_, prepared.parent (by rw [at_]; rfl) other answers⟩
            rintro rfl
            exact prepared.loopless answers
          · rw [enterprise, answered]
            exact prepared.told
      | stamped id =>
          obtain ⟨locked, ⟨echoed, ours⟩, old, found, enterprise, unnamed⟩ :=
            prepared.stamped id written
          have silent := linked.sent id old found unnamed
          have answered : (old.stamped state.delivery.mid state.now).answered =
              state.delivery.answered := by
            rw [ours]
            exact silent
          dsimp only
          refine ⟨id, old.stamped state.delivery.mid state.now, ⟨fun other => ?_, fun same there => ?_⟩,
            ⟨rfl, ?_, ?_, fun other answers => ?_, ?_⟩, enterprise, answered, .inr locked⟩
          · rw [publishAdoption_get, messages, Table.get?_update]
            by_cases here : other = id
            · subst here
              rw [if_pos rfl, if_pos rfl, if_pos rfl, found]
              rfl
            · rw [if_neg here, if_neg here, if_neg (Ne.symm here)]
          · rw [found] at there
            rwa [← Option.some.inj there]
          · intro other
            change ¬Names inbox.messages old.enterpriseId _ other
            rw [enterprise]
            exact fresh other
          · intro other
            change _ ↔ Awaits inbox.messages old.enterpriseId _ other
            rw [enterprise]
            exact adopts other
          · rw [answered, ours] at answers
            contradiction
          · intro asks
            change set.asks old.enterpriseId _ = true at asks
            change _ = set.answers old.enterpriseId _
            rw [enterprise] at asks ⊢
            rw [answered]
            exact prepared.told asks

end Publish

/-- The delivery write-back gives a row the id of a message, or leaves what links it. -/
theorem recordDelivery_messages (inbox : Inbox) (messageId : Nat)
    (platformMessageId : Option String) (status : Outbound.MessageStatus) (now : Int) :
    (inbox.recordDelivery messageId platformMessageId status now).messages = inbox.messages ∨
      ∃ message, inbox.messages.get? messageId = some message ∧
        (∀ mid, platformMessageId = some mid → ∀ other,
          inbox.findIdByPlatformMessageId message.enterpriseId mid = some other →
            other = messageId) ∧
        (inbox.recordDelivery messageId platformMessageId status now).messages =
          inbox.messages.update messageId (·.delivered platformMessageId status now) := by
  unfold Inbox.recordDelivery
  split
  · exact .inl rfl
  · next message found =>
      split
      · exact .inl rfl
      · next free =>
          refine .inr ⟨message, found, ?_, rfl⟩
          rintro mid rfl other taken
          by_contra different
          refine free ?_
          rw [Option.any_some, taken, Option.any_some]
          exact bne_iff_ne.mpr different

/-! ### Orders -/

namespace DeliveryState

def reads (state : DeliveryState) (enterpriseId : Nat) (mid : String) : Bool :=
  state.step.isRead && state.delivery.enterpriseId == enterpriseId &&
    state.delivery.answered == some mid

def hasAdopted (state : DeliveryState) : Bool :=
  state.written.isSome && (state.step.isCounting || state.step == .commit)

/-- A message and its answer, of different threads, do not see each other: one is about to be
stored after the other one looked for it. -/
def crosses (state other : DeliveryState) : Bool :=
  state.written.isSome && state.threadKey != other.threadKey &&
    (other.reads state.delivery.enterpriseId state.delivery.mid ||
      (other.hasAdopted && other.delivery.enterpriseId == state.delivery.enterpriseId &&
        state.delivery.answered == some other.delivery.mid))

end DeliveryState

namespace InboxServer

def delivering (server : InboxServer) : List DeliveryState :=
  server.transactions.rows.filterMap fun entry =>
    entry.bind fun open_ =>
      match open_.state with
      | .deliver state => some state
      | .reply _ _ _ | .clearBadge _ | .markRowsRead _ | .recordDelivery _ _ _ _ => none

def crossed (server : InboxServer) : InboxTurn → Bool
  | .begins _ => false
  | .advances id _ =>
      match server.transactions.get? id with
      | some (some ⟨.deliver state, _⟩) =>
          state.step == .commit && server.delivering.any state.crosses
      | _ => false

/-- Whether a write-back is about to replace an id, or to bring one that a message waits for or
was looked for under. -/
def unadopted (set : Conversationalists) (server : InboxServer) : InboxTurn → Bool
  | .begins _ => false
  | .advances id _ =>
      match server.transactions.get? id with
      | some (some ⟨.recordDelivery messageId (some mid) _ _, _⟩) =>
          (server.store.inbox.messages.get? messageId).any fun message =>
            message.platformMessageId != some mid &&
              (message.platformMessageId.isSome || set.asks message.enterpriseId mid ||
                !(server.store.inbox.orphans message.enterpriseId mid).isEmpty ||
                server.delivering.any fun state => state.reads message.enterpriseId mid)
      | _ => false

end InboxServer

def Brings (set : Conversationalists) : InboxTurn → Bool
  | .begins (.deliver state) =>
      state == .opening state.delivery state.now &&
        set.among state.delivery.enterpriseId state.delivery.mid &&
        match state.delivery with
        | .incoming message =>
            message.metadata.replyToPlatformMessageId ==
              set.answers message.enterpriseId message.mid
        | .echoed _ => true
  | .begins (.reply _ _ _) | .begins (.clearBadge _) | .begins (.markRowsRead _)
  | .begins (.recordDelivery _ _ _ _) | .advances _ _ => true

def echoAsks (set : Conversationalists) : InboxTurn → Bool
  | .begins (.deliver state) =>
      !state.delivery.isIncoming && set.asks state.delivery.enterpriseId state.delivery.mid
  | .begins (.reply _ _ _) | .begins (.clearBadge _) | .begins (.markRowsRead _)
  | .begins (.recordDelivery _ _ _ _) | .advances _ _ => false

/-- No echo answers a message of the set, no message of one thread crosses its answer in
another, and no write-back brings an id that an answer waits for. -/
def Orderly (set : Conversationalists) (server : InboxServer) (turn : InboxTurn) : Prop :=
  Brings set turn = true ∧ echoAsks set turn = false ∧ server.crossed turn = false ∧
    server.unadopted set turn = false

instance (set : Conversationalists) (server : InboxServer) (turn : InboxTurn) :
    Decidable (Orderly set server turn) :=
  inferInstanceAs (Decidable (_ ∧ _))

structure StoreLinked (set : Conversationalists) (store : InboxStore) : Prop where
  rows : Linked set store.inbox.messages
  stored : ∀ delivery ∈ store.delivered,
    set.among delivery.enterpriseId delivery.mid = true ∧
      ∃ id, Names store.inbox.messages delivery.enterpriseId delivery.mid id

def ReadsStand (set : Conversationalists) (store : InboxStore) :
    InboxTransaction → List InboxLock → Prop
  | .deliver state, locks => Prepared set store.inbox.messages state locks
  | .reply _ _ _, _ | .clearBadge _, _ | .markRowsRead _, _ | .recordDelivery _ _ _ _, _ => True

theorem mem_delivering {server : InboxServer} {id : Nat} {state : DeliveryState}
    {locks : List InboxLock}
    (found : server.transactions.get? id = some (some ⟨.deliver state, locks⟩)) :
    state ∈ server.delivering :=
  List.mem_filterMap.mpr ⟨_, Table.mem_rows_iff.mpr ⟨id, found⟩, rfl⟩

section Turns

variable {set : Conversationalists} {server : InboxServer}

theorem StoreLinked.empty : StoreLinked set .empty := by
  constructor
  · constructor
    · rintro enterpriseId mid one other ⟨row, found, -⟩
      rw [show InboxStore.empty.inbox.messages = Table.empty from rfl, Table.get?_empty] at found
      contradiction
    · intro id row mid found
      rw [show InboxStore.empty.inbox.messages = Table.empty from rfl, Table.get?_empty] at found
      contradiction
    · intro id row found
      rw [show InboxStore.empty.inbox.messages = Table.empty from rfl, Table.get?_empty] at found
      contradiction
    · intro id row mid found
      rw [show InboxStore.empty.inbox.messages = Table.empty from rfl, Table.get?_empty] at found
      contradiction
  · intro delivery member
    exact absurd member List.not_mem_nil

theorem rested_commit (linked : StoreLinked set server.store)
    (ready : ∀ id running, server.transactions.get? id = some (some running) →
      ReadsStand set server.store running.state running.locks) {next : InboxStore}
    (rests : Rests server.store.inbox.messages next.inbox.messages)
    (same : next.delivered = server.store.delivered) :
    StoreLinked set next ∧ ∀ id running, server.transactions.get? id = some (some running) →
      ReadsStand set next running.state running.locks := by
  constructor
  · refine ⟨rests.linked linked.rows, fun delivery member => ?_⟩
    rw [same] at member
    obtain ⟨among, id, named⟩ := linked.stored delivery member
    exact ⟨among, id, (rests.names ..).mpr named⟩
  · intro id running found
    have stands := ready id running found
    obtain ⟨state, locks⟩ := running
    cases state with
    | deliver state => exact Prepared.rested stands rests
    | reply _ _ _ => trivial
    | clearBadge _ => trivial
    | markRowsRead _ => trivial
    | recordDelivery _ _ _ _ => trivial

/-- What a projection read stands after another one stored a message it did not cross. -/
theorem Prepared.other {messages after : Table MessageRow} {state waiting : DeliveryState}
    {locks others : List InboxLock} (linked : Linked set messages)
    (prepared : Prepared set messages state locks) (at_ : state.step = .commit)
    (stored : state.written.isSome = true) {new : Nat} {row : MessageRow}
    (files : Files messages after new row state.adopted)
    (told : Told set messages row state.delivery.mid state.adopted)
    (enterprise : row.enterpriseId = state.delivery.enterpriseId)
    (answered : row.answered = state.delivery.answered)
    (place : new = messages.nextId ∨ .message new ∈ locks)
    (waits : Prepared set messages waiting others) (disjoint : locks.Disjoint others)
    (uncrossed : state.crosses waiting = false) : Prepared set after waiting others := by
  have joined : .thread state.threadKey ∈ locks := prepared.thread (by rw [at_]; rfl)
  -- Of one thread, the other one would have to hold the lock that is held here.
  have elsewhere : waiting.step.isJoined = true → (state.threadKey != waiting.threadKey) = true := by
    intro there
    refine bne_iff_ne.mpr fun same => ?_
    exact disjoint (same ▸ joined) (waits.thread there)
  unfold DeliveryState.crosses at uncrossed
  rw [stored, Bool.true_and] at uncrossed
  refine waits.filed linked files told ?_ ?_ ?_ ?_
  · rintro stores ⟨same, mids⟩
    have lock := (waits.fresh stores).1
    rw [DeliveryState.platformLock, same, mids, enterprise] at lock
    exact disjoint (prepared.fresh stored).1 lock
  · rintro id stamped rfl
    obtain ⟨lock, -, old, found, -⟩ := waits.stamped id stamped
    rcases place with rfl | held
    · rw [Table.get?_nextId] at found
      contradiction
    · exact disjoint held lock
  · rintro read ⟨same, answers⟩
    have there : waiting.step.isJoined = true := by
      revert read
      cases waiting.step <;> decide
    have reads : waiting.reads state.delivery.enterpriseId state.delivery.mid = true := by
      simp [DeliveryState.reads, read, same, enterprise, answers]
    rw [elsewhere there, reads, Bool.true_or, Bool.and_self] at uncrossed
    contradiction
  · rintro stores past ⟨same, asks⟩
    have there : waiting.step.isJoined = true := by
      rcases past with past | past
      · revert past
        cases waiting.step <;> decide
      · rw [past]
        rfl
    have adopted : waiting.hasAdopted = true := by
      rcases past with past | past <;> simp [DeliveryState.hasAdopted, stores, past]
    have names : (state.delivery.answered == some waiting.delivery.mid) = true := by
      rw [← answered, asks, beq_self_eq_true]
    rw [elsewhere there, adopted, names, same, enterprise, beq_self_eq_true, Bool.and_self,
      Bool.and_self, Bool.or_true, Bool.and_self] at uncrossed
    contradiction

theorem deliver_commit (keeps : server.Keeps (StoreLinked set) (ReadsStand set)) {id : Nat}
    {state : DeliveryState} {locks : List InboxLock}
    (found : server.transactions.get? id = some (some ⟨.deliver state, locks⟩))
    (at_ : state.step = .commit) (uncrossed : server.delivering.any state.crosses = false)
    (customer : Entry CustomerResolution) (conversation : Entry Nat) {next : InboxStore}
    (inbox : next.inbox = state.publish customer conversation server.store.inbox)
    (delivered : next.delivered = server.store.delivered ++ [state.delivery]) :
    StoreLinked set next ∧ ∀ other waiting, other ≠ id →
      server.transactions.get? other = some (some waiting) → locks.Disjoint waiting.locks →
      ReadsStand set next waiting.state waiting.locks := by
  have prepared : Prepared set server.store.inbox.messages state locks :=
    keeps.transactions id _ found
  cases written : state.written with
  | none =>
      have rests : Rests server.store.inbox.messages next.inbox.messages := by
        rw [inbox, publish_messages_of_known customer conversation written]
        exact Rests.refl _
      constructor
      · refine ⟨rests.linked keeps.store.rows, fun delivery member => ?_⟩
        rw [delivered, List.mem_append, List.mem_singleton] at member
        rcases member with member | rfl
        · obtain ⟨among, id, named⟩ := keeps.store.stored delivery member
          exact ⟨among, id, (rests.names ..).mpr named⟩
        · obtain ⟨id, named⟩ := prepared.settled at_ written
          exact ⟨prepared.among, id, (rests.names ..).mpr named⟩
      · intro other waiting _ there _
        have stands := keeps.transactions other waiting there
        obtain ⟨other, others⟩ := waiting
        cases other with
        | deliver other => exact Prepared.rested stands rests
        | reply _ _ _ => trivial
        | clearBadge _ => trivial
        | markRowsRead _ => trivial
        | recordDelivery _ _ _ _ => trivial
  | some way =>
      have stored : state.written.isSome = true := by rw [written]; rfl
      obtain ⟨new, row, files, told, enterprise, answered, place⟩ :=
        prepared.publishes keeps.store.rows at_ customer conversation stored
      rw [← inbox] at files
      have names := files.names told.named
      constructor
      · refine ⟨files.linked keeps.store.rows told, fun delivery member => ?_⟩
        rw [delivered, List.mem_append, List.mem_singleton] at member
        rcases member with member | rfl
        · obtain ⟨among, id, named⟩ := keeps.store.stored delivery member
          exact ⟨among, id, (names ..).mpr (.inr named)⟩
        · exact ⟨prepared.among, new, (names ..).mpr (.inl ⟨enterprise.symm, rfl, rfl⟩)⟩
      · intro other waiting different there disjoint
        have stands := keeps.transactions other waiting there
        obtain ⟨other, others⟩ := waiting
        cases other with
        | deliver other =>
            have crosses : state.crosses other = false :=
              Bool.eq_false_iff.mpr fun crosses => Bool.false_ne_true
                (uncrossed.symm.trans (List.any_eq_true.mpr ⟨other, mem_delivering there, crosses⟩))
            exact prepared.other keeps.store.rows at_ stored files told enterprise answered place
              stands disjoint crosses
        | reply _ _ _ => trivial
        | clearBadge _ => trivial
        | markRowsRead _ => trivial
        | recordDelivery _ _ _ _ => trivial

theorem record_commit (keeps : server.Keeps (StoreLinked set) (ReadsStand set)) {id : Nat}
    {messageId : Nat} {platformMessageId : Option String} {status : Outbound.MessageStatus}
    {now : Int} {locks : List InboxLock} {choice : InboxChoice}
    (found : server.transactions.get? id =
      some (some ⟨.recordDelivery messageId platformMessageId status now, locks⟩))
    (adopted : server.unadopted set (.advances id choice) = false) {next : InboxStore}
    (inbox : next.inbox =
      server.store.inbox.recordDelivery messageId platformMessageId status now)
    (same : next.delivered = server.store.delivered) :
    StoreLinked set next ∧ ∀ other waiting, other ≠ id →
      server.transactions.get? other = some (some waiting) →
      (InboxTransaction.waits server.store choice
        (.recordDelivery messageId platformMessageId status now)).Disjoint waiting.locks →
      ReadsStand set next waiting.state waiting.locks := by
  have rested : Rests server.store.inbox.messages next.inbox.messages →
      StoreLinked set next ∧ ∀ other waiting, other ≠ id →
        server.transactions.get? other = some (some waiting) →
        (InboxTransaction.waits server.store choice
          (.recordDelivery messageId platformMessageId status now)).Disjoint waiting.locks →
        ReadsStand set next waiting.state waiting.locks := by
    intro rests
    obtain ⟨linked, ready⟩ := rested_commit keeps.store keeps.transactions rests same
    exact ⟨linked, fun other waiting _ there _ => ready other waiting there⟩
  rcases recordDelivery_messages server.store.inbox messageId platformMessageId status now with
    unchanged | ⟨message, there, free, changed⟩
  · refine rested ?_
    rw [inbox, unchanged]
    exact Rests.refl _
  · rw [← inbox] at changed
    cases platformMessageId with
    | none =>
        refine rested ?_
        rw [changed]
        exact Rests.of_update messageId fun _ _ => ⟨rfl, rfl, rfl, rfl⟩
    | some mid =>
        by_cases has : message.platformMessageId = some mid
        · refine rested ?_
          rw [changed]
          refine Rests.of_update messageId fun row at_ => ?_
          rw [there] at at_
          obtain rfl := Option.some.inj at_
          exact ⟨rfl, has.symm, rfl, rfl⟩
        · -- The row gets its id now, and nobody waits for that.
          simp only [InboxServer.unadopted, found, there, Option.any_some, bne_iff_ne.mpr has,
            Bool.true_and, Bool.or_eq_false_iff, Option.isSome_eq_false_iff,
            Option.isNone_iff_eq_none, Bool.not_eq_false', List.isEmpty_iff] at adopted
          obtain ⟨⟨⟨unnamed, unasking⟩, unwanted⟩, unread⟩ := adopted
          have silent := keeps.store.rows.sent messageId message there unnamed
          have files : Files server.store.inbox.messages next.inbox.messages messageId
              (message.delivered (some mid) status now) [] := by
            constructor
            · intro other
              rw [changed, Table.get?_update]
              by_cases here : other = messageId
              · subst here
                rw [if_pos rfl, if_pos rfl, there]
                rfl
              · rw [if_neg (Ne.symm here), if_neg here]
                simp [MessageRow.pointed]
            · intro old at_
              rw [there] at at_
              rwa [← Option.some.inj at_]
          have told : Told set server.store.inbox.messages
              (message.delivered (some mid) status now) mid [] := by
            refine ⟨rfl, fun other named => ?_, fun other => ?_, fun other answers => ?_,
              fun asks => ?_⟩
            · have here := free mid rfl other ((findId_eq_iff keeps.store.rows).mp named)
              subst here
              obtain ⟨row, at_, platform⟩ := named
              rw [there] at at_
              obtain rfl := Option.some.inj at_
              exact has (isPlatform_iff.mp platform).2
            · rw [← unwanted]
              exact mem_orphans
            · rw [show (message.delivered (some mid) status now).answered = none from silent]
                at answers
              contradiction
            · exact absurd (unasking.symm.trans asks) Bool.false_ne_true
          have names := files.names told.named
          constructor
          · refine ⟨files.linked keeps.store.rows told, fun delivery member => ?_⟩
            rw [same] at member
            obtain ⟨among, id, named⟩ := keeps.store.stored delivery member
            exact ⟨among, id, (names ..).mpr (.inr named)⟩
          · intro other waiting _ waits disjoint
            have stands := keeps.transactions other waiting waits
            obtain ⟨other, others⟩ := waiting
            simp only [InboxTransaction.waits, InboxTransaction.takes, there] at disjoint
            cases other with
            | reply _ _ _ => trivial
            | clearBadge _ => trivial
            | markRowsRead _ => trivial
            | recordDelivery _ _ _ _ => trivial
            | deliver other =>
                have stands : Prepared set server.store.inbox.messages other others := stands
                refine stands.filed keeps.store.rows files told ?_ ?_ ?_ ?_
                · rintro stores ⟨enterprise, mids⟩
                  have lock := (stands.fresh stores).1
                  rw [DeliveryState.platformLock, enterprise, mids] at lock
                  exact disjoint (List.mem_cons_of_mem _ List.mem_cons_self) lock
                · rintro id stamped rfl
                  exact disjoint List.mem_cons_self (stands.stamped id stamped).1
                · rintro read ⟨enterprise, answers⟩
                  have reads : other.reads message.enterpriseId mid = true := by
                    simp [DeliveryState.reads, read, answers,
                      show other.delivery.enterpriseId = message.enterpriseId from enterprise]
                  exact Bool.false_ne_true
                    (unread.symm.trans (List.any_eq_true.mpr ⟨other, mem_delivering waits, reads⟩))
                · rintro _ _ ⟨-, answers⟩
                  rw [show (message.delivered (some mid) status now).answered = none from silent]
                    at answers
                  contradiction

theorem linked_turn {turn : InboxTurn} (forest : ∀ enterpriseId mid,
      set.answers enterpriseId mid ≠ some mid)
    (keeps : server.Keeps (StoreLinked set) (ReadsStand set)) (orderly : Orderly set server turn) :
    (server.turn inboxTransactions turn).Keeps (StoreLinked set) (ReadsStand set) := by
  obtain ⟨brings, unasking, uncrossed, adopted⟩ := orderly
  cases turn with
  | begins state =>
      refine keeps.begin ?_
      cases state with
      | reply _ _ _ => trivial
      | clearBadge _ => trivial
      | markRowsRead _ => trivial
      | recordDelivery _ _ _ _ => trivial
      | deliver state =>
          simp only [Brings, Bool.and_eq_true, beq_iff_eq] at brings
          obtain ⟨⟨opens, among⟩, answers⟩ := brings
          rw [opens]
          change Prepared set server.store.inbox.messages _ []
          cases ours : state.delivery with
          | incoming message =>
              rw [ours] at answers among
              have told := eq_of_beq answers
              refine .opening among ?_ fun _ => told
              exact fun loop => forest _ _ (told.symm.trans loop)
          | echoed message =>
              rw [ours] at among
              simp only [echoAsks, ours] at unasking
              refine .opening among (by exact nofun) fun asks => ?_
              exact absurd (unasking.symm.trans asks) Bool.false_ne_true
  | advances id choice =>
      refine keeps.advance_of ?_ ?_
      · intro running next found result
        have ready := keeps.transactions id running found
        obtain ⟨state, locks⟩ := running
        obtain ⟨runs, continues⟩ := inboxTransactions_continues result
        rw [takes_of_runs runs]
        cases continues with
        | replies _ _ _ _ => trivial
        | delivers decided => exact Prepared.continues keeps.store.rows ready decided
      · intro running next found result
        obtain ⟨state, locks⟩ := running
        have rested : Rests server.store.inbox.messages next.inbox.messages →
            next.delivered = server.store.delivered →
            StoreLinked set next ∧ ∀ other waiting, other ≠ id →
              server.transactions.get? other = some (some waiting) →
              (locks ++ inboxTransactions.waits server.store state choice).Disjoint
                waiting.locks → ReadsStand set next waiting.state waiting.locks := by
          intro rests same
          obtain ⟨linked, ready⟩ := rested_commit keeps.store keeps.transactions rests same
          exact ⟨linked, fun other waiting _ there _ => ready other waiting there⟩
        cases inboxTransactions_commits result with
        | @delivers state at_ customer resolved conversation joined =>
            simp only [InboxServer.crossed, found, at_, beq_self_eq_true, Bool.true_and]
              at uncrossed
            have committed : ∀ {next}, _ → _ → _ :=
              @deliver_commit set server keeps id state locks found at_ uncrossed customer
                conversation
            refine ⟨(committed (by rfl) (by rfl)).1,
              fun other waiting different there disjoint => ?_⟩
            exact (committed (by rfl) (by rfl)).2 other waiting different there
              (List.disjoint_append_left.mp disjoint).1
        | replies input now =>
            refine rested ?_ rfl
            change Rests _ (server.store.inbox.reply input now).messages
            unfold Inbox.reply
            split
            · exact Rests.refl _
            · split
              · exact Rests.refl _
              · rw [recordEngagement_messages]
                exact Rests.of_insert rfl rfl
        | clears _ => exact rested (Rests.refl _) rfl
        | reads _ => exact rested (Rests.of_updateWhere _ fun _ => ⟨rfl, rfl, rfl, rfl⟩) rfl
        | givesUp _ _ => exact rested (Rests.refl _) rfl
        | records runs messageId platformMessageId status now =>
            have committed : ∀ {next}, _ → _ → _ :=
              @record_commit set server keeps id messageId platformMessageId status now locks choice
                found adopted
            refine ⟨(committed (by rfl) (by rfl)).1,
              fun other waiting different there disjoint => ?_⟩
            rw [waits_of_runs runs] at disjoint
            exact (committed (by rfl) (by rfl)).2 other waiting different there
              (List.disjoint_append_left.mp disjoint).2

end Turns

/-- In every order of the statements of the projections of a set of messages, beside replies,
notes, reads and write-backs, where no echo answers one of the set, no message of one thread
crosses its answer in another and no write-back brings an id an answer waits for: the row of
every projected message that answers another projected one points at the row of that. -/
theorem answers_linked {set : Conversationalists}
    (forest : ∀ enterpriseId mid, set.answers enterpriseId mid ≠ some mid)
    {script : List InboxTurn}
    (orderly : Server.Permits inboxTransactions (Orderly set) (.idle .empty) script)
    {child parent : Delivery}
    (projected : child ∈ ((Server.idle .empty).turns inboxTransactions script).store.delivered)
    (also : parent ∈ ((Server.idle .empty).turns inboxTransactions script).store.delivered)
    (same : parent.enterpriseId = child.enterpriseId)
    (answers : set.answers child.enterpriseId child.mid = some parent.mid) :
    ∃ childRow parentRow,
      held child.enterpriseId child.mid
          ((Server.idle .empty).turns inboxTransactions script).store.inbox.messages =
        some childRow ∧
      held parent.enterpriseId parent.mid
          ((Server.idle .empty).turns inboxTransactions script).store.inbox.messages =
        some parentRow ∧
      childRow.row.parentMessageId = some parentRow.id := by
  have start : Server.Keeps (StoreLinked set) (ReadsStand set) (Server.idle .empty) :=
    .idle StoreLinked.empty
  have kept := orderly.keeps _ (fun _ _ keeps allowed => linked_turn forest keeps allowed) start
  generalize (Server.idle .empty).turns inboxTransactions script = server at *
  obtain ⟨linked, stored⟩ := kept.store
  obtain ⟨_, childId, childNamed⟩ := stored child projected
  obtain ⟨among, parentId, parentNamed⟩ := stored parent also
  have holds : ∀ {enterpriseId mid id}, Names server.store.inbox.messages enterpriseId mid id →
      ∃ row, held enterpriseId mid server.store.inbox.messages = some row ∧ row.id = id := by
    intro enterpriseId mid id named
    exact Option.map_eq_some_iff.mp ((findId_eq_iff linked).mp named)
  obtain ⟨childRow, childHeld, -⟩ := holds childNamed
  obtain ⟨parentRow, parentHeld, rfl⟩ := holds parentNamed
  refine ⟨childRow, parentRow, childHeld, parentHeld, ?_⟩
  obtain ⟨found, platform⟩ := Table.find?_some childHeld
  obtain ⟨enterprise, named⟩ := isPlatform_iff.mp platform
  have asks : set.asks childRow.row.enterpriseId child.mid = true := by
    rw [enterprise, Conversationalists.asks, answers, Option.any_some, ← same]
    exact among
  have told := linked.told childRow.id childRow.row child.mid found named asks
  rw [enterprise, answers] at told
  refine (linked.links childRow.id childRow.row parent.mid found told parentRow.id).mp ?_
  rw [enterprise, ← same]
  exact parentNamed

/-! ### An answer of our own -/

def questionAndAnswer : Conversationalists where
  answers enterpriseId mid := if enterpriseId = 1 ∧ mid = "m2" then some "m1" else none
  among enterpriseId mid := enterpriseId == 1 && (mid == "m1" || mid == "m2")

theorem questionAndAnswer_forest (enterpriseId : Nat) (mid : String) :
    questionAndAnswer.answers enterpriseId mid ≠ some mid := by
  unfold questionAndAnswer
  dsimp only
  split
  · next second =>
      rw [second.2]
      decide
  · exact nofun

def inTurn (answer : Delivery) : List InboxTurn :=
  .begins (.deliver (.opening (greeting "m1" 1 none) 1)) :: statements 0 13 ++
    .begins (.deliver (.opening answer 2)) :: statements 1 13

/-- An answer written in the platform's app is never linked, though the event names what it
answers. -/
theorem ownAnswer_unlinked : ¬∀ (set : Conversationalists) (script : List InboxTurn),
    (∀ enterpriseId mid, set.answers enterpriseId mid ≠ some mid) →
    Server.Permits inboxTransactions (fun _ turn => Brings set turn = true) (.idle .empty) script →
    ((Server.idle .empty).turns inboxTransactions script).isQuiet = true →
    ∀ child ∈ ((Server.idle .empty).turns inboxTransactions script).store.delivered,
    ∀ parent ∈ ((Server.idle .empty).turns inboxTransactions script).store.delivered,
      parent.enterpriseId = child.enterpriseId →
      set.answers child.enterpriseId child.mid = some parent.mid →
      ∃ childRow parentRow,
        held child.enterpriseId child.mid
            ((Server.idle .empty).turns inboxTransactions script).store.inbox.messages =
          some childRow ∧
        held parent.enterpriseId parent.mid
            ((Server.idle .empty).turns inboxTransactions script).store.inbox.messages =
          some parentRow ∧
        childRow.row.parentMessageId = some parentRow.id := by
  intro always
  obtain ⟨childRow, parentRow, childHeld, -, linked⟩ := always questionAndAnswer
    (inTurn (ownMessage "m2" 2)) questionAndAnswer_forest (by decide +kernel) (by decide +kernel)
    (ownMessage "m2" 2) (by decide +kernel) (greeting "m1" 1 none) (by decide +kernel) rfl
    (by decide)
  have unlinked : ((held 1 "m2" ((Server.idle .empty).turns inboxTransactions
      (inTurn (ownMessage "m2" 2))).store.inbox.messages).map
        (·.row.parentMessageId)) = some none := by decide +kernel
  change held 1 "m2" _ = some childRow at childHeld
  rw [childHeld, Option.map_some, linked] at unlinked
  exact absurd (Option.some.inj unlinked) (by exact nofun)

theorem answers_linked_inTurn : ∃ childRow parentRow,
    held 1 "m2" ((Server.idle .empty).turns inboxTransactions
      (inTurn (greeting "m2" 2 (some "m1")))).store.inbox.messages = some childRow ∧
    held 1 "m1" ((Server.idle .empty).turns inboxTransactions
      (inTurn (greeting "m2" 2 (some "m1")))).store.inbox.messages = some parentRow ∧
    childRow.row.parentMessageId = some parentRow.id :=
  @answers_linked questionAndAnswer questionAndAnswer_forest
    (inTurn (greeting "m2" 2 (some "m1"))) (by decide +kernel) (greeting "m2" 2 (some "m1"))
    (greeting "m1" 1 none) (by decide +kernel) (by decide +kernel) rfl (by decide)

end UnifiedService.Projection
