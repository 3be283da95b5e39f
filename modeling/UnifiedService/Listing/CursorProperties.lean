import UnifiedService.Listing.Cursor

/-! An encoded cursor decodes to the key and the id it was made from. -/

set_option autoImplicit false

namespace UnifiedService.Listing

open UnifiedService.Library

theorem isoLetter_plain {letter : Char} (iso : isIsoLetter letter = true) :
    JsonText.isPlain letter = true ∧ letter.toNat < 0x80 ∧
      Json.quoteChar letter = String.singleton letter := by
  have each : ∀ code : Fin 128, isIsoLetter (Char.ofNat code) = true →
      JsonText.isPlain (Char.ofNat code) = true ∧
        Json.quoteChar (Char.ofNat code) = String.singleton (Char.ofNat code) := by
    decide +kernel
  have ascii : letter.toNat < 0x80 := by
    rw [isIsoLetter, Bool.or_eq_true] at iso
    rcases iso with digit | listed
    · simp only [Char.isDigit, Bool.and_eq_true, decide_eq_true_eq] at digit
      have upper : letter.toNat ≤ 57 := UInt32.le_iff_toNat_le.mp digit.2
      omega
    · have named : (['-', ':', '.', 'T', 'Z', '+'].all fun other =>
          decide (other.toNat < 0x80)) = true := rfl
      exact decide_eq_true_eq.mp
        (List.all_eq_true.mp named letter (List.contains_iff_mem.mp listed))
  have found := each ⟨letter.toNat, ascii⟩
  rw [Char.ofNat_toNat] at found
  exact ⟨(found iso).1, ascii, (found iso).2⟩

theorem toISOString_plain (date : JsDate) :
    date.toISOString.toList.all JsonText.isPlain = true :=
  List.all_eq_true.mpr fun letter member =>
    (isoLetter_plain (List.all_eq_true.mp (toIsoString_letters date.getTime) letter member)).1

theorem quote_toISOString (date : JsDate) :
    (Json.quote date.toISOString).toList = '"' :: date.toISOString.toList ++ ['"'] := by
  have plain : ∀ letters : List Char, (∀ letter ∈ letters, isIsoLetter letter = true) →
      (String.join (letters.map Json.quoteChar)).toList = letters := by
    intro letters iso
    induction letters with
    | nil => rfl
    | cons letter letters ih =>
        have rest := ih fun other member => iso other (List.mem_cons_of_mem _ member)
        rw [List.map_cons, (isoLetter_plain (iso letter List.mem_cons_self)).2.2]
        rw [String.join_cons, String.toList_append, rest, String.toList_singleton,
          List.singleton_append]
  have letters := plain _ (List.all_eq_true.mp (toIsoString_letters date.getTime))
  have mark : "\"".toList = ['"'] := rfl
  unfold Json.quote JsDate.toISOString
  rw [String.toList_append, String.toList_append, letters, mark, List.singleton_append]

def cursorValue (key : Option JsDate) (id : SafeId) : JsonText.Value :=
  .record [(jsUnits "t", match key with
      | some date => .text (date.toISOString.toList.map Char.toNat)
      | none => .null),
    (jsUnits "i", .number id.value 0)]

theorem cursorText_toList (key : Option JsDate) (id : SafeId) :
    (cursorText key id).toList = '\x7b' :: '"' :: 't' :: '"' :: ':' ::
      ((match key with
        | some date => '"' :: (date.toISOString.toList ++ ['"'])
        | none => ['n', 'u', 'l', 'l']) ++
      ',' :: '"' :: 'i' :: '"' :: ':' :: (Nat.toDigits 10 id.value ++ ['\x7d'])) := by
  have digits : (toString id.value).toList = Nat.toDigits 10 id.value := by
    rw [Nat.toString_eq_ofList_toDigits, String.toList_ofList]
  have opening : "\x7b\"t\":".toList = ['\x7b', '"', 't', '"', ':'] := rfl
  have middle : ",\"i\":".toList = [',', '"', 'i', '"', ':'] := rfl
  have closing : "\x7d".toList = ['\x7d'] := rfl
  unfold cursorText
  rw [String.toList_append, String.toList_append, String.toList_append, String.toList_append,
    digits, opening, middle, closing]
  cases key with
  | none =>
      have null : "null".toList = ['n', 'u', 'l', 'l'] := rfl
      dsimp only
      rw [null]
      simp only [List.cons_append, List.nil_append]
  | some date =>
      dsimp only
      rw [quote_toISOString]
      simp only [List.append_assoc, List.cons_append, List.nil_append]

theorem parse_cursorText (key : Option JsDate) (id : SafeId) :
    JsonText.parse (cursorText key id) = .ok (cursorValue key id) := by
  have text := cursorText_toList key id
  obtain ⟨fuel, enough⟩ : ∃ fuel, 2 * (cursorText key id).toList.length + 1 = fuel + 5 := by
    refine ⟨2 * (cursorText key id).toList.length - 4, ?_⟩
    have some_ : 2 ≤ (cursorText key id).toList.length := by
      rw [text]
      exact Nat.succ_le_succ (Nat.succ_pos _)
    omega
  have number := @JsonText.readValue_toDigits (fuel + 1) id.value '\x7d' rfl (by decide) (by decide)
    (by decide) []
  have second : JsonText.readFields (fuel + 3) ('"' :: 'i' :: '"' :: ':' ::
      (Nat.toDigits 10 id.value ++ ['\x7d'])) = .ok ([(jsUnits "i", .number id.value 0)], []) := by
    rw [JsonText.readFields]
    change (JsonText.readValue (fuel + 2) (Nat.toDigits 10 id.value ++ ['\x7d']) >>= _) = _
    rw [number]
    rfl
  have first : ∀ (value : JsonText.Value) (written : List Char) ,
      (∀ rest, JsonText.readValue (fuel + 3) (written ++ rest) = .ok (value, rest)) →
      JsonText.readValue (fuel + 5) ('\x7b' :: '"' :: 't' :: '"' :: ':' :: (written ++
        ',' :: '"' :: 'i' :: '"' :: ':' :: (Nat.toDigits 10 id.value ++ ['\x7d']))) =
      .ok (.record [(jsUnits "t", value), (jsUnits "i", .number id.value 0)], []) := by
    intro value written reads
    rw [JsonText.readValue]
    change (JsonText.readFields (fuel + 4) _).map _ = _
    rw [JsonText.readFields]
    change (JsonText.readValue (fuel + 3) (written ++ _) >>= _).map _ = _
    rw [reads]
    change ((JsonText.readFields (fuel + 3) _).map _).map _ = _
    rw [second]
    rfl
  unfold JsonText.parse
  rw [enough, text]
  cases key with
  | none =>
      rw [first .null ['n', 'u', 'l', 'l'] fun _ => rfl]
      rfl
  | some date =>
      have plain := toISOString_plain date
      unfold cursorValue
      dsimp only
      generalize date.toISOString.toList = letters at plain ⊢
      rw [first (.text (letters.map Char.toNat)) ('"' :: (letters ++ ['"'])) fun rest => by
        rw [List.cons_append, List.append_assoc, List.singleton_append,
          JsonText.readValue_plain _ plain]]
      rfl

theorem safeInteger_natCast (id : SafeId) : safeInteger (.number id.value 0) = some id := by
  have nearest : Double.nearest (((id.value : Int) : ℚ) * 10 ^ (0 : Int)) = id.value := by
    rw [zpow_zero, mul_one, Int.cast_natCast]
    exact Double.nearest_natCast (Nat.lt_of_le_of_lt id.safe (by decide))
  have safe : (id.value : ℚ).den = 1 ∧ 0 ≤ (id.value : ℚ).num ∧
      (id.value : ℚ).num ≤ 9007199254740991 :=
    ⟨rfl, Int.natCast_nonneg _, Int.ofNat_le.mpr id.safe⟩
  unfold safeInteger
  simp only [nearest]
  rw [dif_pos safe]
  rfl

theorem cursorOf_cursorValue (runtime : Runtime) (key : Option JsDate) (id : SafeId) :
    cursorOf runtime (cursorValue key id) = some ⟨key, id⟩ := by
  have i : (cursorValue key id).field "i" = some (.number id.value 0) := rfl
  unfold cursorOf
  rw [i, Option.bind_some, safeInteger_natCast]
  cases key with
  | none => rfl
  | some date =>
      have t : (cursorValue (some date) id).field "t" =
          some (.text (date.toISOString.toList.map Char.toNat)) := rfl
      rw [t]
      dsimp only
      rw [JsDate.ofUnits_toISOString, Option.map_some]

theorem cursorText_ascii (key : Option JsDate) (id : SafeId) :
    ∀ letter ∈ (cursorText key id).toList, letter.toNat < 0x80 := by
  have digits : ∀ letter ∈ Nat.toDigits 10 id.value, letter.toNat < 0x80 := by
    intro letter member
    have digit := Nat.isDigit_of_mem_toDigits (by decide) (by decide) member
    exact (isoLetter_plain (by rw [isIsoLetter, digit, Bool.true_or])).2.1
  have date : ∀ date : JsDate, ∀ letter ∈ date.toISOString.toList, letter.toNat < 0x80 :=
    fun date letter member => (isoLetter_plain
      (List.all_eq_true.mp (toIsoString_letters date.getTime) letter member)).2.1
  have named : (['\x7b', '\x7d', '"', 't', 'i', 'n', 'u', 'l', ':', ','].all fun letter =>
      decide (letter.toNat < 0x80)) = true := rfl
  have marks := fun letter member => decide_eq_true_eq.mp (List.all_eq_true.mp named letter member)
  rw [cursorText_toList]
  simp only [List.mem_cons, List.mem_append, List.not_mem_nil, or_false, forall_eq_or_imp] at marks ⊢
  obtain ⟨opened, closed, quote, t, i, n, u, l, colon, comma⟩ := marks
  refine ⟨opened, quote, t, quote, colon, ?_⟩
  rintro letter (written | rfl | rfl | rfl | rfl | rfl | member | rfl)
  · cases key with
    | none =>
        simp only [List.mem_cons, List.not_mem_nil, or_false] at written
        rcases written with rfl | rfl | rfl | rfl <;> assumption
    | some printed =>
        simp only [List.mem_cons, List.mem_append, List.not_mem_nil, or_false] at written
        rcases written with rfl | member | rfl
        · exact quote
        · exact date printed letter member
        · exact quote
  · exact comma _ rfl
  · exact quote
  · exact i
  · exact quote
  · exact colon
  · exact digits letter member
  · exact closed

/-- Decoding gives back what was encoded. -/
theorem decodeKeysetCursor_encode (runtime : Runtime) (key : Option JsDate) (id : SafeId) :
    decodeKeysetCursor runtime (some (encodeKeysetCursor key id)) = some ⟨key, id⟩ := by
  have ascii := cursorText_ascii key id
  have bytes : ∀ byte ∈ Buffer.ofUtf8 (cursorText key id), byte < 256 := by
    rw [Buffer.ofUtf8_ascii ascii]
    intro byte member
    obtain ⟨letter, listed, rfl⟩ := List.mem_map.mp member
    have small := ascii letter listed
    omega
  have present : encodeKeysetCursor key id ≠ "" := by
    intro empty
    have back := Buffer.ofBase64url_toBase64url runtime.base64 bytes
    change Buffer.ofBase64url _ (encodeKeysetCursor key id) = _ at back
    rw [empty, Buffer.ofUtf8_ascii ascii, cursorText_toList] at back
    cases back
  have read : readCursor runtime (encodeKeysetCursor key id) = .ok (some ⟨key, id⟩) := by
    unfold readCursor encodeKeysetCursor
    rw [Buffer.ofBase64url_toBase64url _ bytes, Buffer.toUtf8_ofUtf8 ascii, parse_cursorText]
    change Except.ok (cursorOf runtime (cursorValue key id)) = _
    rw [cursorOf_cursorValue]
  unfold decodeKeysetCursor
  dsimp only
  rw [if_neg present, read]

end UnifiedService.Listing
