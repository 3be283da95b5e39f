import UnifiedService.Inbound.DedupKey
import UnifiedService.Library.StableText

/-! Which webhook items share a dedup key. -/

set_option autoImplicit false

namespace UnifiedService.Inbound

open UnifiedService.Library
open UnifiedService.Outbound (Platform)

structure KeyParts where
  platform : Platform
  eventType : InboundEventType
  platformEventId : Option String
  verb : Option String
  payload : Json
  parsed : payload.wellFormed = true

namespace KeyParts

def id? (parts : KeyParts) : Option String := parts.platformEventId.filter (· ≠ "")

def verb? (parts : KeyParts) : Option String := parts.verb.filter (· ≠ "")

def identity? (parts : KeyParts) : Option String :=
  parts.id?.map fun id => (parts.verb?.map fun verb => id ++ ":" ++ verb).getD id

def plain? (parts : KeyParts) : Option String :=
  parts.identity?.filter (jsLength · ≤ maxIdentityChars)

section Keys

variable (sha256 : String → String)

def key (parts : KeyParts) : String :=
  composeDedupKey sha256 parts.platform parts.eventType parts.platformEventId parts.verb
    parts.payload

def payloadDigits (parts : KeyParts) : String :=
  String.ofList ((sha256 parts.payload.stableStringify).toList.take 48)

def digits? (parts : KeyParts) : Option String :=
  match parts.identity? with
  | some identity =>
      if jsLength identity ≤ maxIdentityChars then none else some (sha256 identity)
  | none => some (parts.payloadDigits sha256)

def tail (parts : KeyParts) : String :=
  match parts.identity? with
  | some identity => boundIdentity sha256 identity
  | none => "h:" ++ parts.payloadDigits sha256

theorem key_eq (parts : KeyParts) :
    parts.key sha256 =
      parts.platform.text ++ ":" ++ (parts.eventType.text ++ ":" ++ parts.tail sha256) := by
  have grouped : ∀ rest : String,
      parts.platform.text ++ ":" ++ parts.eventType.text ++ ":" ++ rest =
        parts.platform.text ++ ":" ++ (parts.eventType.text ++ ":" ++ rest) := by
    intro rest
    simp only [String.append_assoc]
  unfold key composeDedupKey tail identity? id? verb?
  cases parts.platformEventId.filter (· ≠ "") with
  | none =>
      rw [Option.map_none, inboundDedupKeyFromPayload]
      simp only [String.append_assoc]
      rfl
  | some id =>
      cases parts.verb.filter (· ≠ "") with
      | none => exact grouped _
      | some verb => exact grouped _

end Keys

end KeyParts

/-! ### The parts of a key -/

theorem Platform.colon_notMem (platform : Platform) : ':' ∉ platform.text.toList := by
  cases platform <;> decide

theorem Platform.text_inj {first second : Platform} (same : first.text = second.text) :
    first = second := by
  revert same
  cases first <;> cases second <;> decide

theorem InboundEventType.colon_notMem (eventType : InboundEventType) :
    ':' ∉ eventType.text.toList := by
  cases eventType <;> decide

theorem InboundEventType.text_inj {first second : InboundEventType}
    (same : first.text = second.text) : first = second := by
  revert same
  cases first <;> cases second <;> decide

/-- A text is told from what follows its first colon. -/
theorem colon_append_inj {first second rest other : String} (firstClean : ':' ∉ first.toList)
    (secondClean : ':' ∉ second.toList)
    (same : first ++ ":" ++ rest = second ++ ":" ++ other) : first = second ∧ rest = other := by
  have letters := congrArg String.toList same
  rw [String.toList_append, String.toList_append, String.toList_append, String.toList_append,
    List.append_assoc, List.append_assoc] at letters
  have apart := append_cons_first_inj firstClean secondClean letters
  exact ⟨String.toList_inj.mp apart.1, String.toList_inj.mp apart.2⟩

namespace KeyParts

variable {sha256 : String → String} {first second : KeyParts}

theorem key_eq_iff :
    first.key sha256 = second.key sha256 ↔
      first.platform = second.platform ∧ first.eventType = second.eventType ∧
        first.tail sha256 = second.tail sha256 := by
  constructor
  · intro same
    rw [key_eq, key_eq] at same
    obtain ⟨platforms, rest⟩ := colon_append_inj (Platform.colon_notMem _)
      (Platform.colon_notMem _) same
    obtain ⟨types, tails⟩ := colon_append_inj (InboundEventType.colon_notMem _)
      (InboundEventType.colon_notMem _) rest
    exact ⟨Platform.text_inj platforms, InboundEventType.text_inj types, tails⟩
  · rintro ⟨platforms, types, tails⟩
    rw [key_eq, key_eq, platforms, types, tails]

theorem identity?_eq_iff (firstClean : ∀ id, first.id? = some id → ':' ∉ id.toList)
    (secondClean : ∀ id, second.id? = some id → ':' ∉ id.toList) {id other : String}
    (named : first.id? = some id) (otherNamed : second.id? = some other) :
    first.identity? = second.identity? ↔ id = other ∧ first.verb? = second.verb? := by
  have clean := firstClean id named
  have otherClean := secondClean other otherNamed
  unfold identity?
  rw [named, otherNamed, Option.map_some, Option.map_some, Option.some_inj]
  have colon : ∀ {id verb other : String}, ':' ∉ other.toList → id ++ ":" ++ verb ≠ other := by
    intro id verb other clean same
    rw [← same, String.toList_append, String.toList_append] at clean
    exact clean (List.mem_append_left _ (List.mem_append_right _ (List.mem_singleton.mpr rfl)))
  cases first.verb? with
  | none =>
      cases second.verb? with
      | none => exact ⟨fun same => ⟨same, rfl⟩, fun same => same.1⟩
      | some verb =>
          constructor
          · intro same
            exact absurd same.symm (colon clean)
          · rintro ⟨-, verbs⟩
            cases verbs
  | some verb =>
      cases second.verb? with
      | none =>
          constructor
          · intro same
            exact absurd same (colon otherClean)
          · rintro ⟨-, verbs⟩
            cases verbs
      | some otherVerb =>
          constructor
          · intro same
            have apart := colon_append_inj clean otherClean same
            exact ⟨apart.1, congrArg some apart.2⟩
          · rintro ⟨ids, verbs⟩
            rw [ids, Option.some.inj verbs]

end KeyParts

/-! ### Which keys are equal -/

open KeyParts

section Keys

variable (sha256 : String → String)

/-- A digest is 64 hexadecimal digits, and those of two items collide neither in full nor in
the part that a key carries. -/
structure NoCollision (first second : KeyParts) : Prop where
  length : ∀ text, (sha256 text).toList.length = 64
  identities : ∀ identity other, first.identity? = some identity →
    second.identity? = some other → sha256 identity = sha256 other → identity = other
  payloads : first.payloadDigits sha256 = second.payloadDigits sha256 →
    first.payload.stableStringify = second.payload.stableStringify

/-- The identity of one item is, as it is, what a key carries for the hash of another. -/
def Forges (first second : KeyParts) : Prop :=
  ∃ digits, second.digits? sha256 = some digits ∧ first.plain? = some ("h:" ++ digits)

end Keys

def SameIdentity (first second : KeyParts) : Prop :=
  first.id? ≠ none ∧ first.id? = second.id? ∧ first.verb? = second.verb?

def SamePayload (first second : KeyParts) : Prop :=
  first.id? = none ∧ second.id? = none ∧ Json.SameValue first.payload second.payload

structure SameEvent (first second : KeyParts) : Prop where
  platform : first.platform = second.platform
  eventType : first.eventType = second.eventType
  about : SameIdentity first second ∨ SamePayload first second

variable {sha256 : String → String} {first second : KeyParts}

theorem identity?_eq_none {parts : KeyParts} : parts.identity? = none ↔ parts.id? = none :=
  Option.map_eq_none_iff

/-- The hash of an identity is longer than what a key carries of the hash of a payload. -/
theorem NoCollision.digest_ne (clean : NoCollision sha256 first second) (text : String)
    (parts : KeyParts) : sha256 text ≠ parts.payloadDigits sha256 := by
  intro same
  have lengths := congrArg (fun text => text.toList.length) same
  simp only [payloadDigits, String.toList_ofList, List.length_take, clean.length] at lengths
  cases lengths

def ColonFree (parts : KeyParts) : Prop := ∀ id, parts.id? = some id → ':' ∉ id.toList

theorem sameIdentity_iff (firstClean : ColonFree first) (secondClean : ColonFree second) :
    SameIdentity first second ↔
      first.identity? ≠ none ∧ first.identity? = second.identity? := by
  constructor
  · rintro ⟨present, ids, verbs⟩
    refine ⟨fun none => present (identity?_eq_none.mp none), ?_⟩
    unfold identity?
    rw [ids, verbs]
  · rintro ⟨present, same⟩
    cases named : first.id? with
    | none => exact absurd (identity?_eq_none.mpr named) present
    | some id =>
        cases otherNamed : second.id? with
        | none => exact absurd (same.trans (identity?_eq_none.mpr otherNamed)) present
        | some other =>
            obtain ⟨ids, verbs⟩ := (identity?_eq_iff firstClean secondClean named otherNamed).mp same
            refine ⟨?_, ?_, verbs⟩
            · rw [named]
              nofun
            · rw [named, otherNamed, ids]

/-- Two items whose keys carry the same, as far as what they carry is meant. -/
def SameTail (first second : KeyParts) : Prop :=
  (first.identity? ≠ none ∧ first.identity? = second.identity?) ∨
    (first.identity? = none ∧ second.identity? = none ∧
      first.payload.stableStringify = second.payload.stableStringify)

theorem tail_cases (sha256 : String → String) (parts : KeyParts) :
    (∃ plain, parts.plain? = some plain ∧ parts.digits? sha256 = none ∧
      parts.identity? = some plain ∧ parts.tail sha256 = plain) ∨
    ∃ digits, parts.plain? = none ∧ parts.digits? sha256 = some digits ∧
      parts.tail sha256 = "h:" ++ digits := by
  unfold plain? digits? tail boundIdentity
  cases parts.identity? with
  | none => exact .inr ⟨_, rfl, rfl, rfl⟩
  | some identity =>
      by_cases short : jsLength identity ≤ maxIdentityChars
      · refine .inl ⟨identity, Option.filter_some_pos (by simpa using short), ?_, rfl, ?_⟩
        · exact if_pos short
        · exact if_pos short
      · refine .inr ⟨sha256 identity, Option.filter_some_neg (by simpa using short), ?_, ?_⟩
        · exact if_neg short
        · exact if_neg short

theorem SameTail.plain?_eq (same : SameTail first second) : first.plain? = second.plain? := by
  unfold plain?
  cases same with
  | inl same => rw [same.2]
  | inr same => rw [same.1, same.2.1]

theorem digits?_cases {parts : KeyParts} {digits : String}
    (isHash : parts.digits? sha256 = some digits) :
    (∃ identity, parts.identity? = some identity ∧ digits = sha256 identity) ∨
      (parts.identity? = none ∧ digits = parts.payloadDigits sha256) := by
  unfold digits? at isHash
  cases named : parts.identity? with
  | none =>
      rw [named] at isHash
      cases isHash
      exact .inr ⟨rfl, rfl⟩
  | some identity =>
      rw [named] at isHash
      dsimp only at isHash
      split at isHash
      · cases isHash
      · cases isHash
        exact .inl ⟨identity, rfl, rfl⟩

theorem digits_eq_iff (clean : NoCollision sha256 first second) {digits other : String}
    (isHash : first.digits? sha256 = some digits) (otherHash : second.digits? sha256 = some other) :
    digits = other ↔ SameTail first second := by
  unfold SameTail
  obtain ⟨identity, named, rfl⟩ | ⟨named, rfl⟩ := digits?_cases isHash
  · obtain ⟨otherIdentity, otherNamed, rfl⟩ | ⟨otherNamed, rfl⟩ := digits?_cases otherHash
    · rw [named, otherNamed]
      constructor
      · intro same
        exact .inl ⟨nofun, congrArg some (clean.identities _ _ named otherNamed same)⟩
      · rintro (⟨-, same⟩ | ⟨absent, -⟩)
        · rw [Option.some.inj same]
        · cases absent
    · rw [named, otherNamed]
      constructor
      · intro same
        exact absurd same (clean.digest_ne identity second)
      · rintro (⟨-, same⟩ | ⟨absent, -⟩)
        · cases same
        · cases absent
  · obtain ⟨otherIdentity, otherNamed, rfl⟩ | ⟨otherNamed, rfl⟩ := digits?_cases otherHash
    · rw [named, otherNamed]
      constructor
      · intro same
        exact absurd same.symm (clean.digest_ne otherIdentity first)
      · rintro (⟨present, -⟩ | ⟨-, absent, -⟩)
        · exact absurd rfl present
        · cases absent
    · rw [named, otherNamed]
      constructor
      · intro same
        exact .inr ⟨rfl, rfl, clean.payloads same⟩
      · rintro (⟨present, -⟩ | ⟨-, -, same⟩)
        · exact absurd rfl present
        · unfold payloadDigits
          rw [same]

/-- A plain identity and a hash make one tail exactly if the identity is what is written for
the hash. -/
theorem plain_eq_iff_forges {plain digits : String} (isPlain : first.plain? = some plain)
    (isHash : second.digits? sha256 = some digits) :
    plain = "h:" ++ digits ↔ Forges sha256 first second := by
  constructor
  · intro same
    exact ⟨digits, isHash, isPlain.trans (congrArg some same)⟩
  · rintro ⟨other, hash, forged⟩
    rw [isHash] at hash
    cases hash
    exact Option.some.inj (isPlain.symm.trans forged)

theorem not_forges_of_plain (isPlain : second.digits? sha256 = none) :
    ¬Forges sha256 first second := by
  rintro ⟨digits, isHash, -⟩
  rw [isPlain] at isHash
  cases isHash

theorem not_forges_of_hash (isHash : first.plain? = none) : ¬Forges sha256 first second := by
  rintro ⟨digits, -, isPlain⟩
  rw [isHash] at isPlain
  cases isPlain

/-- What two keys carry is equal exactly if it is meant so, or if the identity of one item is
what is written for the hash of the other. -/
theorem tail_eq_iff (clean : NoCollision sha256 first second) :
    first.tail sha256 = second.tail sha256 ↔
      SameTail first second ∨ Forges sha256 first second ∨ Forges sha256 second first := by
  obtain ⟨plain, isPlain, noHash, named, tail⟩ | ⟨digits, noPlain, isHash, tail⟩ :=
    tail_cases sha256 first
  · obtain ⟨other, otherPlain, otherNoHash, otherNamed, otherTail⟩ |
        ⟨digits, otherNoPlain, isHash, otherTail⟩ := tail_cases sha256 second
    · rw [tail, otherTail, or_iff_left (not_or.mpr
        ⟨not_forges_of_plain otherNoHash, not_forges_of_plain noHash⟩)]
      constructor
      · intro same
        refine .inl ⟨?_, ?_⟩
        · rw [named]
          nofun
        · rw [named, otherNamed, same]
      · intro same
        exact Option.some.inj (isPlain.symm.trans (same.plain?_eq.trans otherPlain))
    · have apart : ¬SameTail first second := by
        intro same
        have plains := isPlain.symm.trans (same.plain?_eq.trans otherNoPlain)
        cases plains
      rw [tail, otherTail, plain_eq_iff_forges isPlain isHash, or_iff_right apart,
        or_iff_left (not_forges_of_plain noHash)]
  · obtain ⟨other, otherPlain, otherNoHash, otherNamed, otherTail⟩ |
        ⟨otherDigits, otherNoPlain, otherHash, otherTail⟩ := tail_cases sha256 second
    · have apart : ¬SameTail first second := by
        intro same
        have plains := noPlain.symm.trans (same.plain?_eq.trans otherPlain)
        cases plains
      rw [tail, otherTail, eq_comm, plain_eq_iff_forges otherPlain isHash, or_iff_right apart,
        or_iff_right (not_forges_of_plain otherNoHash)]
    · rw [tail, otherTail, String.append_right_inj, digits_eq_iff clean isHash otherHash,
        or_iff_left (not_or.mpr ⟨not_forges_of_hash noPlain, not_forges_of_hash otherNoPlain⟩)]

theorem Forges.not_sameTail (forged : Forges sha256 first second) : ¬SameTail first second := by
  obtain ⟨digits, isHash, isPlain⟩ := forged
  intro same
  obtain ⟨other, otherPlain, otherNoHash, -, -⟩ | ⟨other, otherNoPlain, -, -⟩ :=
    tail_cases sha256 second
  · rw [otherNoHash] at isHash
    cases isHash
  · rw [same.plain?_eq, otherNoPlain] at isPlain
    cases isPlain

theorem SameTail.symm (same : SameTail first second) : SameTail second first := by
  cases same with
  | inl same => exact .inl ⟨same.2 ▸ same.1, same.2.symm⟩
  | inr same => exact .inr ⟨same.2.1, same.1, same.2.2.symm⟩

/-! ### What the keys separate -/

/-- Two items share a key exactly if they are one event. -/
def KeysSeparate (sha256 : String → String) (first second : KeyParts) : Prop :=
  first.key sha256 = second.key sha256 ↔ SameEvent first second

/-- Two payloads share a text exactly if they are the same up to the order of fields. -/
def TextsSeparate (first second : KeyParts) : Prop :=
  first.payload.stableStringify = second.payload.stableStringify ↔
    Json.SameValue first.payload second.payload

/-- The payloads do not differ only in numbers too great for a double, where the other has
null or another such number. -/
def Readable (first second : KeyParts) : Prop :=
  Json.SameWritten first.payload second.payload → Json.SameValue first.payload second.payload

/-- Neither item takes the name of the hash of the other, and where neither has an id the
payloads can be told apart. -/
structure Separable (sha256 : String → String) (first second : KeyParts) : Prop where
  unforged : ¬Forges sha256 first second
  otherUnforged : ¬Forges sha256 second first
  readable : first.id? = none → second.id? = none → Readable first second

theorem sameTail_iff (firstClean : ColonFree first) (secondClean : ColonFree second) :
    SameTail first second ↔
      SameIdentity first second ∨ (first.id? = none ∧ second.id? = none ∧
        Json.SameWritten first.payload second.payload) := by
  rw [sameIdentity_iff firstClean secondClean, ← Json.stableStringify_eq_iff first.parsed
    second.parsed, ← identity?_eq_none, ← identity?_eq_none]
  exact Iff.rfl

theorem sameTail_of_about (firstClean : ColonFree first) (secondClean : ColonFree second)
    (about : SameIdentity first second ∨ SamePayload first second) : SameTail first second := by
  rw [sameTail_iff firstClean secondClean]
  cases about with
  | inl identity => exact .inl identity
  | inr payload => exact .inr ⟨payload.1, payload.2.1, payload.2.2.sameWritten⟩

/-- Exactly when equal keys are those of one event, and equal texts those of one payload. -/
theorem keys_separate_iff (clean : NoCollision sha256 first second)
    (firstClean : ColonFree first) (secondClean : ColonFree second) :
    (KeysSeparate sha256 first second ↔
      (first.platform = second.platform → first.eventType = second.eventType →
        Separable sha256 first second)) ∧
      (TextsSeparate first second ↔ Readable first second) := by
  have carried := tail_eq_iff clean
  constructor
  · constructor
    · intro separate platforms types
      have event : first.tail sha256 = second.tail sha256 →
          SameIdentity first second ∨ SamePayload first second := by
        intro tails
        exact (separate.mp (key_eq_iff.mpr ⟨platforms, types, tails⟩)).about
      have unforged : ∀ {forged : Prop}, (forged → ¬SameTail first second) →
          (forged → first.tail sha256 = second.tail sha256) → ¬forged := by
        intro _ apart tails forged
        exact apart forged (sameTail_of_about firstClean secondClean (event (tails forged)))
      constructor
      · exact unforged Forges.not_sameTail fun forged => carried.mpr (.inr (.inl forged))
      · exact unforged (fun forged same => forged.not_sameTail same.symm)
          fun forged => carried.mpr (.inr (.inr forged))
      · intro absent otherAbsent written
        have tails := carried.mpr (.inl ((sameTail_iff firstClean secondClean).mpr
          (.inr ⟨absent, otherAbsent, written⟩)))
        cases event tails with
        | inl identity => exact absurd absent identity.1
        | inr payload => exact payload.2.2
    · intro separable
      constructor
      · intro same
        obtain ⟨platforms, types, tails⟩ := key_eq_iff.mp same
        have apart := separable platforms types
        refine ⟨platforms, types, ?_⟩
        cases carried.mp tails with
        | inl same =>
            cases (sameTail_iff firstClean secondClean).mp same with
            | inl identity => exact .inl identity
            | inr payload =>
                obtain ⟨absent, otherAbsent, written⟩ := payload
                exact .inr ⟨absent, otherAbsent, apart.readable absent otherAbsent written⟩
        | inr forged =>
            cases forged with
            | inl forged => exact absurd forged apart.unforged
            | inr forged => exact absurd forged apart.otherUnforged
      · intro event
        exact key_eq_iff.mpr ⟨event.platform, event.eventType,
          carried.mpr (.inl (sameTail_of_about firstClean secondClean event.about))⟩
  · unfold TextsSeparate
    rw [Json.stableStringify_eq_iff first.parsed second.parsed]
    constructor
    · intro separate
      exact separate.mp
    · intro readable
      exact ⟨readable, Json.SameValue.sameWritten⟩

section Example

private def sampleDigest (text : String) : String :=
  if text = "\x7b\"field\":\"feed\",\"value\":\x7b\"item\":\"status\",\"published\":1\x7d\x7d" then
    "5b27c5caf4aa4b7a3a261308fbb3a8035a9fcc379b500347ed6d9419c69d2a13"
  else "0000000000000000000000000000000000000000000000000000000000000000"

private def statusChange (payload : Json) (parsed : payload.wellFormed = true) : KeyParts where
  platform := .facebook
  eventType := .postUpdate
  platformEventId := none
  verb := none
  payload := payload
  parsed := parsed

private def published : KeyParts :=
  statusChange (.obj [("field", .str "feed"),
    ("value", .obj [("item", .str "status"), ("published", .num 1)])]) (by decide)

private def republished : KeyParts :=
  statusChange (.obj [("value", .obj [("published", .num 1), ("item", .str "status")]),
    ("field", .str "feed")]) (by decide)

theorem keys_separate_published :
    (KeysSeparate sampleDigest published republished ↔
      (published.platform = republished.platform → published.eventType = republished.eventType →
        Separable sampleDigest published republished)) ∧
      (TextsSeparate published republished ↔ Readable published republished) := by
  refine keys_separate_iff ⟨?_, nofun, fun _ => by decide +kernel⟩ nofun nofun
  intro text
  unfold sampleDigest
  split
  · decide
  · decide

/-- A change whose value is a number too great for a double, and one whose value is null. -/
theorem vast_number_shares_key :
    ¬∃ sha256, KeysSeparate sha256 (statusChange (.obj [("value", .infinite false)]) rfl)
      (statusChange (.obj [("value", .null)]) rfl) := by
  rintro ⟨sha256, separate⟩
  cases (separate.mp rfl).about with
  | inl identity => exact identity.1 rfl
  | inr payload =>
      cases payload.2.2 with
      | leaf same => cases same
      | obj permuted _ alike otherPermuted =>
          rw [← List.singleton_perm.mp permuted, List.perm_singleton.mp otherPermuted] at alike
          cases alike with
          | cons value _ =>
              cases value with
              | leaf same => cases same

end Example

end UnifiedService.Inbound
