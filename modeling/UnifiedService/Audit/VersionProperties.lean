import Mathlib.Data.List.Chain
import UnifiedService.Audit.Versions

/-! The versions of an entity as one chain: how they are numbered, and when each says what
changed since the one before it. -/

set_option autoImplicit false

namespace UnifiedService.Audit

open UnifiedService.Library

/-! ### What a summary says -/

def SameField (before after : Snapshot) (field : String) : Prop :=
  Option.Rel Json.SameWritten (before.value field) (after.value field)

structure Describes (summary : List FieldChange) (before after : Snapshot) : Prop where
  fields : ∀ field, field ∈ summary.map (·.field) ↔ ¬SameField before after field
  values : ∀ change ∈ summary,
    Json.SameWritten change.from_ ((before.value change.field).getD .null) ∧
      change.to_ = (after.value change.field).getD .null
  once : (summary.map (·.field)).Nodup

/-- What jsonb gives back is the value, but for the order of fields. -/
structure Rereads (reread : Json → Json) : Prop where
  parsed : ∀ value, value.wellFormed = true → (reread value).wellFormed = true
  same : ∀ value, value.wellFormed = true → Json.SameWritten (reread value) value

/-- Whether a comparison of texts tells if two values of a field are the same: the fields inside
a value that stays are written as jsonb orders them, and no null appears or disappears. -/
def Comparable (reread : Json → Json) : Option Json → Option Json → Prop
  | some before, some after =>
      Json.SameWritten before after → Json.SameLayout (reread before) after
  | some value, none | none, some value => value.writesNull = false
  | none, none => True

def Snapshot.reread (reread : Json → Json) (snapshot : Snapshot) : List (String × Json) :=
  snapshot.fields.map fun field => (field.1, reread field.2)

def texts (reread : Json → Json) (before after : Snapshot) (field : String) : String × String :=
  ((((before.value field).map reread).getD .null).stringify,
    ((after.value field).getD .null).stringify)

section Summaries

variable {reread : Json → Json} {before after : Snapshot}

theorem nodup_eraseDups {Item : Type} [BEq Item] [LawfulBEq Item] (items : List Item) :
    items.eraseDups.Nodup := by
  induction length : items.length using Nat.strong_induction_on generalizing items with
  | _ size ih =>
      cases items with
      | nil => exact List.nodup_nil
      | cons item items =>
          rw [List.eraseDups_cons, List.nodup_cons, List.mem_eraseDups]
          constructor
          · simp
          · have shorter := List.length_filter_le (fun other => !other == item) items
            exact ih _ (by rw [← length, List.length_cons]; omega) _ rfl

theorem Snapshot.value_parsed {field : String} {value : Json} (found : before.value field = some value) :
    value.wellFormed = true := by
  have parsed := Json.wellFormed_obj.mp before.parsed
  unfold Snapshot.value Json.field at found
  obtain ⟨entry, there, rfl⟩ := Option.map_eq_some_iff.mp found
  exact parsed.2 entry (List.mem_of_find?_eq_some there)

theorem Snapshot.value_isSome {field : String} {value : Json} (found : before.value field = some value) :
    field ∈ before.fields.map Prod.fst := by
  unfold Snapshot.value Json.field at found
  obtain ⟨entry, there, -⟩ := Option.map_eq_some_iff.mp found
  have named := List.find?_some there
  exact List.mem_map.mpr ⟨entry, List.mem_of_find?_eq_some there, beq_iff_eq.mp named⟩

theorem field_reread (snapshot : Snapshot) (field : String) :
    (Json.obj (snapshot.reread reread)).field field = (snapshot.value field).map reread := by
  change Option.map Prod.snd ((snapshot.reread reread).find? (·.1 == field)) =
    Option.map reread (Option.map Prod.snd (snapshot.fields.find? (·.1 == field)))
  rw [Snapshot.reread, List.find?_map, Option.map_map, Option.map_map]
  rfl

theorem fields_diff : (diff (some (before.reread reread)) after.fields).map (·.field) =
    (before.fields.map Prod.fst ++ after.fields.map Prod.fst).eraseDups.filter fun field =>
      decide ((texts reread before after field).1 ≠ (texts reread before after field).2) := by
  have names : (before.reread reread).map Prod.fst = before.fields.map Prod.fst := by
    rw [Snapshot.reread, List.map_map]
    rfl
  unfold diff
  rw [List.map_filterMap, names, ← List.filterMap_eq_filter]
  apply List.filterMap_congr
  intro field _
  rw [field_reread]
  change Option.map _ (if (texts reread before after field).1 ≠ (texts reread before after field).2
    then _ else _) = _
  unfold Option.guard
  split
  · next apart => rw [if_pos (decide_eq_true apart), Option.map_some]
  · next same => rw [if_neg (by simpa using same), Option.map_none]

theorem mem_fields_diff {field : String} :
    field ∈ (diff (some (before.reread reread)) after.fields).map (·.field) ↔
      (texts reread before after field).1 ≠ (texts reread before after field).2 := by
  rw [fields_diff, List.mem_filter, List.mem_eraseDups, List.mem_append, decide_eq_true_eq]
  constructor
  · exact And.right
  · intro apart
    refine ⟨?_, apart⟩
    cases there : before.value field with
    | some value => exact .inl (Snapshot.value_isSome there)
    | none =>
        cases here : after.value field with
        | some value => exact .inr (Snapshot.value_isSome here)
        | none =>
            unfold texts at apart
            rw [there, here] at apart
            exact absurd rfl apart

variable (rereads : Rereads reread)

include rereads

theorem stringify_reread_eq {value other : Json} (parsed : value.wellFormed = true)
    (otherParsed : other.wellFormed = true) :
    (reread value).stringify = other.stringify ↔ Json.SameLayout (reread value) other :=
  Json.stringify_eq_iff (rereads.parsed value parsed) otherParsed

theorem stringify_reread_null {value : Json} (parsed : value.wellFormed = true) :
    (reread value).stringify = Json.null.stringify ↔ value.writesNull = true := by
  rw [stringify_reread_eq rereads parsed rfl, Json.sameLayout_null,
    (rereads.same value parsed).writesNull_eq]

theorem comparable_iff {field : String} :
    ((texts reread before after field).1 ≠ (texts reread before after field).2 ↔
      ¬SameField before after field) ↔
      Comparable reread (before.value field) (after.value field) := by
  unfold texts SameField
  cases there : before.value field with
  | none =>
      cases here : after.value field with
      | none => simp [Comparable]
      | some value =>
          have parsed := Snapshot.value_parsed here
          have text : Json.null.stringify = value.stringify ↔ value.writesNull = true := by
            rw [eq_comm, Json.stringify_eq_iff parsed rfl, Json.sameLayout_null]
          simp [Comparable, text]
  | some value =>
      have parsed := Snapshot.value_parsed there
      cases here : after.value field with
      | none =>
          have text := stringify_reread_null rereads parsed
          simp [Comparable, text]
      | some other =>
          have otherParsed := Snapshot.value_parsed here
          have text := stringify_reread_eq rereads parsed otherParsed
          simp only [Option.map_some, Option.getD_some, ne_eq, not_iff_not, text,
            Option.rel_some_some, Comparable]
          constructor
          · exact Iff.mpr
          · intro written
            refine ⟨fun same => ?_, written⟩
            exact ((rereads.same value parsed).symm (rereads.parsed value parsed) parsed).trans
              same.sameWritten parsed (rereads.parsed value parsed) otherParsed

/-- The summary describes what changed if and only if every field can be compared by its text. -/
theorem describes_iff :
    Describes (diff (some (before.reread reread)) after.fields) before after ↔
      ∀ field, Comparable reread (before.value field) (after.value field) := by
  constructor
  · intro describes field
    rw [← comparable_iff rereads, ← mem_fields_diff, describes.fields]
  · intro comparable
    refine ⟨fun field => ?_, fun change member => ?_, ?_⟩
    · rw [mem_fields_diff, (comparable_iff rereads).mpr (comparable field)]
    · obtain ⟨field, -, named⟩ := List.mem_filterMap.mp member
      rw [field_reread] at named
      dsimp only at named
      split at named
      · obtain rfl := Option.some.inj named
        refine ⟨?_, rfl⟩
        cases there : before.value field with
        | none => exact .leaf (.inl rfl)
        | some value => exact rereads.same value (Snapshot.value_parsed there)
      · cases named
    · rw [fields_diff]
      exact (nodup_eraseDups _).filter _

end Summaries

/-! ### Chains of versions -/

structure Chained (linked : EntityVersionRow → EntityVersionRow → Prop)
    (versions : List EntityVersionRow) : Prop where
  numbered : versions.map (·.version) = List.range' 1 versions.length
  linked : versions.IsChain linked

def History (linked : EntityVersionRow → EntityVersionRow → Prop) (rows : List EntityVersionRow) :
    Prop :=
  ∀ entity, Chained linked (versionsOf rows entity)

section Chains

variable {linked : EntityVersionRow → EntityVersionRow → Prop} {rows : List EntityVersionRow}
  {entity : EntityKey}

@[simp] theorem versionsOf_append (rows others : List EntityVersionRow) :
    versionsOf (rows ++ others) entity = versionsOf rows entity ++ versionsOf others entity :=
  List.filter_append ..

theorem mem_versionsOf {row : EntityVersionRow} :
    row ∈ versionsOf rows entity ↔ row ∈ rows ∧ row.entity = entity := by
  simp [versionsOf]

theorem Chained.getElem_version {versions : List EntityVersionRow} (chained : Chained linked versions)
    {place : Nat} {row : EntityVersionRow} (there : versions[place]? = some row) :
    row.version = place + 1 := by
  obtain ⟨inside, there⟩ := List.getElem?_eq_some_iff.mp there
  have numbers := congrArg (·[place]?) chained.numbered
  simp [there, inside] at numbers
  omega

theorem nextVersion_eq (chained : Chained linked (versionsOf rows entity)) :
    EntityVersionRepository.nextVersion rows entity = (versionsOf rows entity).length + 1 := by
  rw [EntityVersionRepository.nextVersion, chained.numbered]
  cases length : (versionsOf rows entity).length with
  | zero => rfl
  | succ count =>
      have greatest : (List.range' 1 (count + 1)).max? = some (count + 1) := by
        rw [List.max?_eq_some_iff]
        simp only [List.mem_range'_1]
        constructor
        · omega
        · intro other member
          omega
      rw [greatest]
      rfl

theorem latest_mem {row : EntityVersionRow}
    (found : EntityVersionRepository.latest rows entity = some row) :
    row ∈ versionsOf rows entity :=
  List.argmax_mem found

theorem Chained.concat {versions : List EntityVersionRow} {row : EntityVersionRow}
    (chained : Chained linked versions) (next : row.version = versions.length + 1)
    (links : ∀ last ∈ versions, last.version + 1 = row.version → linked last row) :
    Chained linked (versions ++ [row]) := by
  constructor
  · rw [List.map_append, chained.numbered, List.length_append, List.length_singleton,
      List.range'_concat, List.map_singleton, next]
    simp [Nat.add_comm]
  · rw [List.isChain_append]
    refine ⟨chained.linked, List.isChain_singleton row, ?_⟩
    intro last there other same
    rw [List.head?_cons, Option.mem_some_iff] at same
    subst same
    have placed : versions[versions.length - 1]? = some last := by
      rw [← List.getLast?_eq_getElem?]
      exact there
    have inside := (List.getElem?_eq_some_iff.mp placed).1
    have number := chained.getElem_version placed
    exact links last (List.mem_of_mem_getLast? there) (by omega)

theorem Chained.version_next {committed later : List EntityVersionRow} {row : EntityVersionRow}
    (chained : Chained linked (committed ++ row :: later)) :
    row.version = committed.length + 1 :=
  chained.getElem_version (by simp)

/-- Two histories of one store go together if they have no version of one number. -/
theorem History.beside {store first second : List EntityVersionRow}
    (history : History linked (store ++ first)) (other : History linked (store ++ second))
    (apart : ∀ row ∈ first, ∀ another ∈ second,
      (row.entity, row.version) ≠ (another.entity, another.version)) :
    History linked (store ++ first ++ second) := by
  intro entity
  rw [versionsOf_append, versionsOf_append]
  have before := history entity
  have after := other entity
  rw [versionsOf_append] at before after
  cases one : versionsOf first entity with
  | nil => rwa [List.append_nil]
  | cons row later =>
      cases two : versionsOf second entity with
      | nil => rwa [List.append_nil, ← one]
      | cons another rest =>
          rw [one] at before
          rw [two] at after
          have here := mem_versionsOf.mp (one ▸ List.mem_cons_self)
          have there := mem_versionsOf.mp (two ▸ List.mem_cons_self)
          refine absurd ?_ (apart row here.1 another there.1)
          rw [here.2, there.2, before.version_next, after.version_next]

end Chains

/-! ### Transactions -/

/-- What a transaction has read is among the rows, and the number it chose comes after at most
all of them. -/
def RecordStep.Fits (rows : List EntityVersionRow) : RecordStep → Prop
  | .ready => True
  | .read event previous => ∀ row ∈ previous, row ∈ versionsOf rows event.entity
  | .numbered event previous version =>
      (∀ row ∈ previous, row ∈ versionsOf rows event.entity) ∧
        1 ≤ version ∧ version ≤ (versionsOf rows event.entity).length + 1

structure Ready (linked : EntityVersionRow → EntityVersionRow → Prop)
    (store : List EntityVersionRow) (transaction : VersionTransaction)
    (locks : List (EntityKey × Nat)) : Prop where
  history : History linked (transaction.sees store)
  locked : ∀ row ∈ transaction.pending, (row.entity, row.version) ∈ locks
  fits : transaction.step.Fits (transaction.sees store)

structure AppendsVersion (store : List EntityVersionRow) (transaction : VersionTransaction)
    (choice : RecordChoice) (event : EntityVersionEvent) (previous : Option EntityVersionRow)
    (version : Nat) : Prop where
  proceeds : choice = .proceed
  step : transaction.step = .numbered event previous version
  free : ∀ row ∈ versionsOf (transaction.sees store) event.entity, row.version ≠ version

def Appends (reread : Json → Json) (linked : EntityVersionRow → EntityVersionRow → Prop)
    (store : List EntityVersionRow) (transaction : VersionTransaction) (choice : RecordChoice) :
    Prop :=
  ∀ event previous version, AppendsVersion store transaction choice event previous version →
    ∀ last ∈ versionsOf (transaction.sees store) event.entity, last.version + 1 = version →
      linked last (VersionTransaction.appended reread event previous version)

section Transactions

variable {reread : Json → Json} {linked : EntityVersionRow → EntityVersionRow → Prop}
  {store : List EntityVersionRow} {transaction next : VersionTransaction}
  {locks : List (EntityKey × Nat)}

theorem RecordStep.Fits.mono {rows later : List EntityVersionRow} {step : RecordStep}
    (fits : step.Fits rows) (grow : rows.Sublist later) : step.Fits later := by
  have versions (entity : EntityKey) : (versionsOf rows entity).Sublist (versionsOf later entity) :=
    grow.filter _
  cases step with
  | ready => trivial
  | read event previous => exact fun row member => (versions event.entity).subset (fits row member)
  | numbered event previous version =>
      obtain ⟨known, positive, bound⟩ := fits
      refine ⟨fun row member => (versions event.entity).subset (known row member), positive, ?_⟩
      have more := (versions event.entity).length_le
      omega

theorem version_next {rows : List EntityVersionRow} {entity : EntityKey} {version : Nat}
    (chained : Chained linked (versionsOf rows entity)) (positive : 1 ≤ version)
    (bound : version ≤ (versionsOf rows entity).length + 1)
    (free : ∀ row ∈ versionsOf rows entity, row.version ≠ version) :
    version = (versionsOf rows entity).length + 1 := by
  by_contra other
  have inside : version - 1 < (versionsOf rows entity).length := by omega
  have there := List.getElem?_eq_getElem inside
  have number := chained.getElem_version there
  exact free _ (List.getElem_mem inside) (by omega)

theorem history_append {rows : List EntityVersionRow} {row : EntityVersionRow}
    (history : History linked rows)
    (next : row.version = (versionsOf rows row.entity).length + 1)
    (links : ∀ last ∈ versionsOf rows row.entity, last.version + 1 = row.version →
      linked last row) : History linked (rows ++ [row]) := by
  intro entity
  rw [versionsOf_append]
  by_cases own : row.entity = entity
  · subst own
    have single : versionsOf [row] row.entity = [row] := by simp [versionsOf]
    rw [single]
    exact (history row.entity).concat next links
  · have none : versionsOf [row] entity = [] := by simp [versionsOf, own]
    rw [none, List.append_nil]
    exact history entity

theorem statement_continues {choice : RecordChoice} (ready : Ready linked store transaction locks)
    (appends : Appends reread linked store transaction choice)
    (result : VersionTransaction.statement reread store transaction choice = .continues next) :
    Ready linked store next (locks ++ VersionTransaction.takes store transaction choice) := by
  have kept : Ready linked store transaction
      (locks ++ VersionTransaction.takes store transaction choice) :=
    { ready with locked := fun row member => List.mem_append_left _ (ready.locked row member) }
  cases choice with
  | record event =>
      unfold VersionTransaction.statement at result
      cases step : transaction.step with
      | ready =>
          simp only [step] at result
          obtain rfl := Outcome.continues.inj result
          exact { kept with fits := fun row read => latest_mem read }
      | read _ _ | numbered _ _ _ =>
          simp only [step] at result
          obtain rfl := Outcome.continues.inj result
          exact kept
  | proceed =>
      unfold VersionTransaction.statement at result
      have fits := ready.fits
      cases step : transaction.step with
      | ready =>
          simp only [step] at result
          obtain rfl := Outcome.continues.inj result
          exact kept
      | read event previous =>
          simp only [step] at result fits
          obtain rfl := Outcome.continues.inj result
          refine { kept with fits := ⟨fits, ?_⟩ }
          rw [nextVersion_eq (ready.history event.entity)]
          exact ⟨Nat.le_add_left 1 _, Nat.le_refl _⟩
      | numbered event previous version =>
          simp only [step] at result fits
          split at result
          · cases result
          · next free =>
              obtain rfl := Outcome.continues.inj result
              obtain ⟨-, positive, bound⟩ := fits
              have unused : ∀ row ∈ versionsOf (transaction.sees store) event.entity,
                  row.version ≠ version := by
                intro row member same
                obtain ⟨there, own⟩ := mem_versionsOf.mp member
                exact free (List.any_eq_true.mpr ⟨row, there, decide_eq_true ⟨own, same⟩⟩)
              have number := version_next (ready.history event.entity) positive bound unused
              refine ⟨?_, ?_, trivial⟩
              · change History linked (store ++ (transaction.pending ++ [_]))
                rw [← List.append_assoc]
                exact history_append ready.history number
                  (appends event previous version ⟨rfl, step, unused⟩)
              · intro row member
                rw [VersionTransaction.takes, step]
                cases List.mem_append.mp member with
                | inl member => exact List.mem_append_left _ (ready.locked row member)
                | inr member =>
                    rw [List.mem_singleton.mp member]
                    exact List.mem_append_right _ (List.mem_singleton_self _)
  | commit =>
      unfold VersionTransaction.statement at result
      cases step : transaction.step with
      | ready =>
          simp only [step] at result
          cases result
      | read _ _ | numbered _ _ _ =>
          simp only [step] at result
          obtain rfl := Outcome.continues.inj result
          exact kept
  | rollback => cases result

theorem statement_commits {choice : RecordChoice} {committed : List EntityVersionRow}
    (result : VersionTransaction.statement reread store transaction choice = .commits committed) :
    committed = transaction.sees store := by
  unfold VersionTransaction.statement at result
  cases choice with
  | record event =>
      cases step : transaction.step with
      | ready | read _ _ | numbered _ _ _ => simp [step] at result
  | proceed =>
      cases step : transaction.step with
      | ready | read _ _ => simp [step] at result
      | numbered event previous version =>
          simp only [step] at result
          split at result
          · cases result
          · cases result
  | commit =>
      cases step : transaction.step with
      | ready =>
          simp only [step] at result
          exact (Outcome.commits.inj result).symm
      | read _ _ | numbered _ _ _ => simp [step] at result
  | rollback => cases result

theorem Ready.spared {other : VersionTransaction} {otherLocks : List (EntityKey × Nat)}
    (ready : Ready linked store transaction locks) (waits : Ready linked store other otherLocks)
    (apart : locks.Disjoint otherLocks) :
    Ready linked (transaction.sees store) other otherLocks := by
  refine ⟨?_, waits.locked, waits.fits.mono ?_⟩
  · refine ready.history.beside waits.history fun row member another there same => ?_
    exact apart (ready.locked row member) (same ▸ waits.locked another there)
  · exact (List.sublist_append_left store transaction.pending).append (.refl other.pending)

end Transactions

/-! ### Runs -/

abbrev VersionServer := Server (List EntityVersionRow) VersionTransaction (EntityKey × Nat)

abbrev VersionTurn := Server.Turn VersionTransaction RecordChoice

def Opens (_ : VersionServer) : VersionTurn → Prop
  | .begins transaction => transaction = .opening
  | .advances _ _ => True

/-- A version is appended right after the one that was read, and the values of their fields can
be compared by their texts. -/
def AppendsNext (reread : Json → Json) (store : List EntityVersionRow)
    (transaction : VersionTransaction) (choice : RecordChoice) : Prop :=
  ∀ event previous version, AppendsVersion store transaction choice event previous version →
    (previous.map (·.version)).getD 0 + 1 = version ∧
      ∀ before ∈ previous, ∀ field,
        Comparable reread (before.snapshot.value field) (event.snapshot.value field)

def Orderly (reread : Json → Json) (server : VersionServer) : VersionTurn → Prop
  | .begins transaction => transaction = .opening
  | .advances id choice => ∀ running, server.transactions.get? id = some (some running) →
      AppendsNext reread server.store running.state choice

def Follows (before row : EntityVersionRow) : Prop :=
  Describes row.changeSummary before.snapshot row.snapshot

/-- The versions of each entity are numbered from one, without a gap or a repeat. -/
def Numbered (rows : List EntityVersionRow) : Prop :=
  ∀ entity, (versionsOf rows entity).map (·.version) =
    List.range' 1 (versionsOf rows entity).length

def Faithful (rows : List EntityVersionRow) : Prop :=
  ∀ before ∈ rows, ∀ row ∈ rows, row.entity = before.entity →
    row.version = before.version + 1 → Follows before row

section Runs

variable {reread : Json → Json} {linked : EntityVersionRow → EntityVersionRow → Prop}
  {server : VersionServer} {script : List VersionTurn}

theorem turn_keeps {turn : VersionTurn}
    (keeps : server.Keeps (History linked) (Ready linked)) (opens : Opens server turn)
    (appends : ∀ id choice running, turn = .advances id choice →
      server.transactions.get? id = some (some running) →
      Appends reread linked server.store running.state choice) :
    (server.turn (versionTransactions reread) turn).Keeps (History linked) (Ready linked) := by
  cases turn with
  | begins transaction =>
      cases opens
      refine keeps.begin ⟨?_, by simp [VersionTransaction.opening], trivial⟩
      simpa [VersionTransaction.sees, VersionTransaction.opening] using keeps.store
  | advances id choice =>
      refine keeps.advance_of ?_ ?_
      · intro running next found result
        exact statement_continues (keeps.transactions id running found)
          (appends id choice running rfl found) result
      · intro running committed found result
        have ready := keeps.transactions id running found
        rw [statement_commits result]
        refine ⟨ready.history, fun other waiting different there apart => ?_⟩
        exact ready.spared (keeps.transactions other waiting there)
          (List.disjoint_append_left.mp apart).1

theorem history_empty : History linked [] :=
  fun _ => ⟨rfl, .nil⟩

theorem orderly_appends (rereads : Rereads reread) {store : List EntityVersionRow}
    {transaction : VersionTransaction} {locks : List (EntityKey × Nat)} {choice : RecordChoice}
    (ready : Ready Follows store transaction locks)
    (next : AppendsNext reread store transaction choice) :
    Appends reread Follows store transaction choice := by
  intro event previous version appends last member number
  obtain ⟨after, comparable⟩ := next event previous version appends
  have fits := ready.fits
  rw [appends.step] at fits
  have chained := ready.history event.entity
  obtain ⟨place, there⟩ := List.getElem?_of_mem member
  have lastNumber := chained.getElem_version there
  cases previous with
  | none =>
      -- Nothing comes before the first version.
      simp only [Option.map_none, Option.getD_none] at after
      omega
  | some before =>
      obtain ⟨beforePlace, beforeThere⟩ := List.getElem?_of_mem (fits.1 before rfl)
      have beforeNumber := chained.getElem_version beforeThere
      simp only [Option.map_some, Option.getD_some] at after
      obtain rfl : place = beforePlace := by omega
      obtain rfl : last = before := by
        rw [there] at beforeThere
        exact Option.some.inj beforeThere
      exact (describes_iff rereads).mpr (comparable last rfl)

theorem faithful_of_history {rows : List EntityVersionRow} (history : History Follows rows) :
    Faithful rows := by
  intro before member row later same next
  have chained := history before.entity
  obtain ⟨place, there⟩ := List.getElem?_of_mem (mem_versionsOf.mpr ⟨member, rfl⟩)
  obtain ⟨nextPlace, nextThere⟩ := List.getElem?_of_mem (mem_versionsOf.mpr ⟨later, same⟩)
  have number := chained.getElem_version there
  have nextNumber := chained.getElem_version nextThere
  obtain rfl : nextPlace = place + 1 := by omega
  obtain ⟨inside, found⟩ := List.getElem?_eq_some_iff.mp nextThere
  have linked := List.isChain_iff_getElem.mp chained.linked place inside
  rw [found, (List.getElem?_eq_some_iff.mp there).2] at linked
  exact linked

theorem orderly_opens {turn : VersionTurn} (orderly : Orderly reread server turn) :
    Opens server turn := by
  cases turn with
  | begins transaction => exact orderly
  | advances id choice => trivial

/-- However the transactions that record versions interleave, the versions of each entity are
numbered without a gap. Each says what changed since the one before it, as long as each is
appended right after the one that was read, with values that can be compared by their texts. -/
theorem version_chain (reread : Json → Json) (rereads : Rereads reread)
    (script : List VersionTurn)
    (opens : Server.Permits (versionTransactions reread) Opens (.idle []) script) :
    Numbered ((Server.idle []).turns (versionTransactions reread) script).store ∧
      (Server.Permits (versionTransactions reread) (Orderly reread) (.idle []) script →
        Faithful ((Server.idle []).turns (versionTransactions reread) script).store) := by
  constructor
  · intro entity
    have keeps := opens.keeps (fun server => server.Keeps (History fun _ _ => True) (Ready fun _ _ => True))
      (fun server turn keeps opens => turn_keeps keeps opens fun _ _ _ _ _ _ _ _ _ _ _ _ => trivial)
      (.idle history_empty)
    exact (keeps.store entity).numbered
  · intro orderly
    have keeps := orderly.keeps (fun server => server.Keeps (History Follows) (Ready Follows))
      (fun server turn keeps orderly => turn_keeps keeps (orderly_opens orderly)
        fun id choice running same found => by
          subst same
          exact orderly_appends rereads (keeps.transactions id running found) (orderly running found))
      (.idle history_empty)
    exact faithful_of_history keeps.store

end Runs

def program : EntityKey := ⟨1, .rewardProgram, 7⟩

def spring : Snapshot := ⟨[("name", .str "Spring")], rfl⟩

def springWithoutEnd : Snapshot := ⟨[("name", .str "Spring"), ("endsAt", .null)], rfl⟩

def summer : Snapshot := ⟨[("name", .str "Summer")], rfl⟩

def records (id : Nat) (snapshot : Snapshot) : List VersionTurn :=
  [.begins .opening, .advances id (.record ⟨program, snapshot⟩), .advances id .proceed,
    .advances id .proceed, .advances id .commit]

theorem rereads_id : Rereads id := ⟨fun _ parsed => parsed, fun _ _ => .leaf (.inl rfl)⟩

theorem records_open (server : VersionServer) (first second : Snapshot) :
    Server.Permits (versionTransactions id) Opens server (records 0 first ++ records 1 second) :=
  ⟨rfl, trivial, trivial, trivial, trivial, rfl, trivial, trivial, trivial, trivial, trivial⟩

theorem comparable_name (field : String) :
    Comparable id (spring.value field) (summer.value field) := by
  by_cases name : field = "name"
  · subst name
    intro same
    cases same with
    | leaf same => exact .leaf same
  · have other : ("name" == field) = false := beq_eq_false_iff_ne.mpr (Ne.symm name)
    simp [Snapshot.value, Json.field, spring, summer, other, Comparable]

theorem records_orderly :
    Server.Permits (versionTransactions id) (Orderly id) (.idle [])
      (records 0 spring ++ records 1 summer) := by
  refine ⟨rfl, ?_, ?_, ?_, ?_, rfl, ?_, ?_, ?_, ?_, trivial⟩
  all_goals
    intro running found event previous version appends
    cases found
    obtain ⟨proceeds, step, -⟩ := appends
    cases proceeds <;> cases step
  · exact ⟨rfl, fun _ none => by cases none⟩
  · refine ⟨rfl, fun before same field => ?_⟩
    cases same
    exact comparable_name field

theorem version_chain_renamed :
    Numbered ((Server.idle []).turns (versionTransactions id)
        (records 0 spring ++ records 1 summer)).store ∧
      Faithful ((Server.idle []).turns (versionTransactions id)
        (records 0 spring ++ records 1 summer)).store :=
  have chain := version_chain id rereads_id _ (records_open (.idle []) spring summer)
  ⟨chain.1, chain.2 records_orderly⟩

/-- A field that appears with the value null is no change to `diff`. -/
theorem null_appears_unseen :
    ¬ ∀ (reread : Json → Json), Rereads reread → ∀ script : List VersionTurn,
      Server.Permits (versionTransactions reread) Opens (.idle []) script →
        Numbered ((Server.idle []).turns (versionTransactions reread) script).store ∧
        Faithful ((Server.idle []).turns (versionTransactions reread) script).store := by
  intro claimed
  have chain := claimed id rereads_id _ (records_open (.idle []) spring springWithoutEnd)
  have follows := chain.2 _ (List.mem_cons_self ..) _
    (List.mem_cons_of_mem _ (List.mem_cons_self ..)) rfl rfl
  have differs : ¬SameField spring springWithoutEnd "endsAt" := by
    intro same
    cases same
  have named := (follows.fields "endsAt").mpr differs
  revert named
  decide +kernel

end UnifiedService.Audit
