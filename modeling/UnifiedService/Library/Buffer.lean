import Mathlib.Data.List.Basic

/-! The texts that a `Buffer` of bytes is made from and turned into: UTF-8 and base64url. Bytes
are natural numbers. -/

set_option autoImplicit false

namespace UnifiedService.Library.Buffer

section Utf8

def utf8Of (character : Char) : List Nat :=
  let point := character.toNat
  if point < 0x80 then [point]
  else if point < 0x800 then [0xc0 + point / 0x40, 0x80 + point % 0x40]
  else if point < 0x10000 then
    [0xe0 + point / 0x1000, 0x80 + point / 0x40 % 0x40, 0x80 + point % 0x40]
  else
    [0xf0 + point / 0x40000, 0x80 + point / 0x1000 % 0x40, 0x80 + point / 0x40 % 0x40,
      0x80 + point % 0x40]

def ofUtf8 (text : String) : List Nat := text.toList.flatMap utf8Of

def replacement : Char := Char.ofNat 0xfffd

/-- The rest of a character of which so many bytes are still to come, the next of them in a
range. A byte that does not continue it is read again as a beginning. -/
def continued : Nat → Nat → Nat → Nat → List Nat → Char × List Nat
  | 0, _, _, point, bytes => (Char.ofNat point, bytes)
  | _ + 1, _, _, _, [] => (replacement, [])
  | more + 1, low, high, point, byte :: bytes =>
      if low ≤ byte ∧ byte ≤ high then
        continued more 0x80 0xbf (point * 0x40 + (byte - 0x80)) bytes
      else (replacement, byte :: bytes)

def character (byte : Nat) (bytes : List Nat) : Char × List Nat :=
  if byte < 0x80 then (Char.ofNat byte, bytes)
  else if byte < 0xc2 then (replacement, bytes)
  else if byte < 0xe0 then continued 1 0x80 0xbf (byte - 0xc0) bytes
  else if byte < 0xf0 then
    continued 2 (if byte = 0xe0 then 0xa0 else 0x80) (if byte = 0xed then 0x9f else 0xbf)
      (byte - 0xe0) bytes
  else if byte < 0xf5 then
    continued 3 (if byte = 0xf0 then 0x90 else 0x80) (if byte = 0xf4 then 0x8f else 0xbf)
      (byte - 0xf0) bytes
  else (replacement, bytes)

def characters : Nat → List Nat → List Char
  | 0, _ => []
  | _ + 1, [] => []
  | fuel + 1, byte :: bytes =>
      (character byte bytes).1 :: characters fuel (character byte bytes).2

def toUtf8 (bytes : List Nat) : String := String.ofList (characters bytes.length bytes)

theorem utf8Of_ascii {letter : Char} (ascii : letter.toNat < 0x80) :
    utf8Of letter = [letter.toNat] := if_pos ascii

theorem ofUtf8_ascii {text : String} (ascii : ∀ letter ∈ text.toList, letter.toNat < 0x80) :
    ofUtf8 text = text.toList.map Char.toNat := by
  unfold ofUtf8
  generalize text.toList = letters at *
  induction letters with
  | nil => rfl
  | cons letter letters ih =>
      rw [List.flatMap_cons, utf8Of_ascii (ascii letter List.mem_cons_self),
        ih fun other member => ascii other (List.mem_cons_of_mem _ member), List.map_cons,
        List.singleton_append]

theorem toUtf8_ofUtf8 {text : String} (ascii : ∀ letter ∈ text.toList, letter.toNat < 0x80) :
    toUtf8 (ofUtf8 text) = text := by
  have read : ∀ letters : List Char, (∀ letter ∈ letters, letter.toNat < 0x80) →
      characters letters.length (letters.map Char.toNat) = letters := by
    intro letters ascii
    induction letters with
    | nil => rfl
    | cons letter letters ih =>
        have first : character letter.toNat (letters.map Char.toNat) =
            (letter, letters.map Char.toNat) := by
          rw [character, if_pos (ascii letter List.mem_cons_self), Char.ofNat_toNat]
        rw [List.length_cons, List.map_cons, characters, first,
          ih fun other member => ascii other (List.mem_cons_of_mem _ member)]
  rw [ofUtf8_ascii ascii, toUtf8, List.length_map, read _ ascii, String.ofList_toList]

end Utf8

section Base64

/-- The letters of base64url, each at the place of its six bits. -/
def alphabet : List Char :=
  "ABCDEFGHIJKLMNOPQRSTUVWXYZabcdefghijklmnopqrstuvwxyz0123456789-_".toList

def letter (sextet : Nat) : Char := alphabet.getD sextet 'A'

/-- The six bits of a letter, in either alphabet of base64. -/
def sextet (letter : Char) : Option Nat :=
  if letter = '+' then some 62
  else if letter = '/' then some 63
  else if letter ∈ alphabet then some (alphabet.idxOf letter)
  else none

def sextets : List Nat → List Nat
  | one :: two :: three :: bytes =>
      one / 4 :: (one % 4 * 16 + two / 16) :: (two % 16 * 4 + three / 64) :: three % 64 ::
        sextets bytes
  | [one, two] => [one / 4, one % 4 * 16 + two / 16, two % 16 * 4]
  | [one] => [one / 4, one % 4 * 16]
  | [] => []

/-- The bytes of groups of six bits. What is left over of the last is dropped. -/
def bytes : List Nat → List Nat
  | one :: two :: three :: four :: groups =>
      (one * 4 + two / 16) :: (two % 16 * 16 + three / 4) :: (three % 4 * 64 + four) ::
        bytes groups
  | [one, two, three] => [one * 4 + two / 16, two % 16 * 16 + three / 4]
  | [one, two] => [one * 4 + two / 16]
  | [_] | [] => []

/-- `buffer.toString('base64url')`. -/
def toBase64url (content : List Nat) : String := String.ofList ((sextets content).map letter)

/-- `Buffer.from(text, 'base64url')`. A text with other characters is left to the runtime. -/
def ofBase64url (runtime : String → List Nat) (text : String) : List Nat :=
  match text.toList.mapM sextet with
  | some groups => bytes groups
  | none => runtime text

theorem sextet_letter {group : Nat} (range : group < 64) : sextet (letter group) = some group := by
  have each : ∀ group : Fin 64, sextet (letter group) = some group.val := by decide +kernel
  exact each ⟨group, range⟩

theorem letter_mem (group : Nat) : letter group ∈ 'A' :: alphabet := by
  unfold letter
  rw [List.getD_eq_getElem?_getD]
  cases found : alphabet[group]? with
  | none => exact List.mem_cons_self
  | some other => exact List.mem_cons_of_mem _ (List.mem_of_getElem? found)

theorem letter_ascii (group : Nat) : (letter group).toNat < 0x80 := by
  have each : (('A' :: alphabet).all fun other => decide (other.toNat < 0x80)) = true := by
    decide +kernel
  exact decide_eq_true_eq.mp (List.all_eq_true.mp each _ (letter_mem group))

theorem letter_ne_nul (group : Nat) : (letter group).toNat ≠ 0 := by
  have each : (('A' :: alphabet).all fun other => decide (other.toNat ≠ 0)) = true := by
    decide +kernel
  exact decide_eq_true_eq.mp (List.all_eq_true.mp each _ (letter_mem group))

theorem sextets_lt {content : List Nat} (small : ∀ byte ∈ content, byte < 256) :
    ∀ group ∈ sextets content, group < 64 := by
  fun_induction sextets content with
  | case1 one two three content ih =>
      have rest := ih fun byte member => small byte (by simp [member])
      have first := small one (by simp)
      have second := small two (by simp)
      have third := small three (by simp)
      simp only [List.mem_cons, forall_eq_or_imp]
      exact ⟨by omega, by omega, by omega, by omega, rest⟩
  | case2 one two =>
      have first := small one (by simp)
      have second := small two (by simp)
      simp only [List.mem_cons, forall_eq_or_imp, List.not_mem_nil, false_imp_iff, implies_true,
        and_true]
      omega
  | case3 one =>
      have first := small one (by simp)
      simp only [List.mem_cons, forall_eq_or_imp, List.not_mem_nil, false_imp_iff, implies_true,
        and_true]
      omega
  | case4 => exact fun _ member => absurd member List.not_mem_nil

theorem bytes_sextets {content : List Nat} (small : ∀ byte ∈ content, byte < 256) :
    bytes (sextets content) = content := by
  fun_induction sextets content with
  | case1 one two three content ih =>
      have rest := ih fun byte member => small byte (by simp [member])
      have first := small one (by simp)
      have second := small two (by simp)
      have third := small three (by simp)
      rw [bytes, rest]
      congr 1
      · omega
      · congr 1
        · omega
        · congr 1
          omega
  | case2 one two =>
      have first := small one (by simp)
      have second := small two (by simp)
      rw [bytes]
      congr 1
      · omega
      · congr 1
        omega
  | case3 one =>
      have first := small one (by simp)
      rw [bytes]
      congr 1
      omega
  | case4 => rfl

/-- Bytes are read back from their base64url text. -/
theorem ofBase64url_toBase64url (runtime : String → List Nat) {content : List Nat}
    (small : ∀ byte ∈ content, byte < 256) :
    ofBase64url runtime (toBase64url content) = content := by
  have read : ∀ groups : List Nat, (∀ group ∈ groups, group < 64) →
      (groups.map letter).mapM sextet = some groups := by
    intro groups small
    induction groups with
    | nil => rfl
    | cons group groups ih =>
        rw [List.map_cons, List.mapM_cons, sextet_letter (small group List.mem_cons_self),
          ih fun other member => small other (List.mem_cons_of_mem _ member)]
        rfl
  unfold ofBase64url toBase64url
  rw [String.toList_ofList, read _ (sextets_lt small)]
  exact bytes_sextets small

end Base64

end UnifiedService.Library.Buffer
