import Mathlib.Data.List.Dedup
import Mathlib.Data.List.Sort
import UnifiedService.Library.Digits
import UnifiedService.Library.JsString

/-! `JSON.parse`. A reader answers what it has read and the rest of the text; nested values
are read on fuel, of which there is enough. -/

set_option autoImplicit false

namespace UnifiedService.Library.JsonText

/-- A parsed value: numbers as the decimals they are written as, strings by their UTF-16
units, and the fields of an object in the order of the text. -/
inductive Value where
  | null
  | bool (value : Bool)
  | number (mantissa : Int) (exponent : Int)
  | text (units : List Nat)
  | list (items : List Value)
  | record (fields : List (List Nat × Value))

inductive Failure where
  | syntaxError
  | exhausted
  deriving DecidableEq, Repr

def isSpace (letter : Char) : Bool :=
  letter == ' ' || letter == '\t' || letter == '\n' || letter == '\r'

def skipSpace (letters : List Char) : List Char := letters.dropWhile isSpace

def readLetter (letter : Char) : List Char → Except Failure (List Char)
  | first :: rest => if first = letter then .ok rest else .error .syntaxError
  | [] => .error .syntaxError

def hexDigit (letter : Char) : Option Nat :=
  if letter.isDigit then some (letter.toNat - '0'.toNat)
  else if 'a' ≤ letter ∧ letter ≤ 'f' then some (letter.toNat - 'a'.toNat + 10)
  else if 'A' ≤ letter ∧ letter ≤ 'F' then some (letter.toNat - 'A'.toNat + 10)
  else none

/-- The UTF-16 unit that follows `\u`. -/
def hexUnit (one two three four : Char) : Option Nat := do
  let one ← hexDigit one
  let two ← hexDigit two
  let three ← hexDigit three
  let four ← hexDigit four
  return ((one * 16 + two) * 16 + three) * 16 + four

def escapedUnit (letter : Char) : Option Nat :=
  if letter = '"' ∨ letter = '\\' ∨ letter = '/' then some letter.toNat
  else if letter = 'b' then some 8
  else if letter = 'f' then some 12
  else if letter = 'n' then some 10
  else if letter = 'r' then some 13
  else if letter = 't' then some 9
  else none

def prepend (units : List Nat) :
    Except Failure (List Nat × List Char) → Except Failure (List Nat × List Char)
  | .ok (more, rest) => .ok (units ++ more, rest)
  | .error failure => .error failure

def readUnits : List Char → Except Failure (List Nat × List Char)
  | [] => .error .syntaxError
  | '"' :: rest => .ok ([], rest)
  | '\\' :: 'u' :: one :: two :: three :: four :: rest =>
      match hexUnit one two three four with
      | some unit => prepend [unit] (readUnits rest)
      | none => .error .syntaxError
  | '\\' :: letter :: rest =>
      match escapedUnit letter with
      | some unit => prepend [unit] (readUnits rest)
      | none => .error .syntaxError
  | letter :: rest =>
      if letter.toNat < 0x20 then .error .syntaxError
      else prepend (jsUnits (String.singleton letter)) (readUnits rest)

def readSome (letters : List Char) : Except Failure (List Char × List Char) :=
  if letters.takeWhile Char.isDigit = [] then .error .syntaxError
  else .ok (letters.takeWhile Char.isDigit, letters.dropWhile Char.isDigit)

def readFraction : List Char → Except Failure (List Char × List Char)
  | '.' :: letters => readSome letters
  | letters => .ok ([], letters)

def readSigned : List Char → Except Failure (Int × List Char)
  | '+' :: letters =>
      (readSome letters).map fun read => ((Nat.ofDigitChars 10 read.1 0 : Int), read.2)
  | '-' :: letters =>
      (readSome letters).map fun read => (-(Nat.ofDigitChars 10 read.1 0 : Int), read.2)
  | letters => (readSome letters).map fun read => ((Nat.ofDigitChars 10 read.1 0 : Int), read.2)

def readExponent : List Char → Except Failure (Int × List Char)
  | 'e' :: letters => readSigned letters
  | 'E' :: letters => readSigned letters
  | letters => .ok (0, letters)

/-- A number without its sign. It has no zeros in front. -/
def readMagnitude (letters : List Char) : Except Failure ((Nat × Int) × List Char) := do
  let (whole, letters) ← readSome letters
  if whole.head? = some '0' ∧ whole.length ≠ 1 then throw .syntaxError
  let (fraction, letters) ← readFraction letters
  let (exponent, letters) ← readExponent letters
  return ((Nat.ofDigitChars 10 (whole ++ fraction) 0, exponent - fraction.length), letters)

def readNumber : List Char → Except Failure (Value × List Char)
  | '-' :: letters =>
      (readMagnitude letters).map fun read => (.number (-(read.1.1 : Int)) read.1.2, read.2)
  | letters => (readMagnitude letters).map fun read => (.number read.1.1 read.1.2, read.2)

mutual

def readValue : Nat → List Char → Except Failure (Value × List Char)
  | 0, _ => .error .exhausted
  | fuel + 1, letters =>
      match skipSpace letters with
      | '\x7b' :: rest =>
          match skipSpace rest with
          | '\x7d' :: rest => .ok (.record [], rest)
          | rest => (readFields fuel rest).map fun read => (.record read.1, read.2)
      | '[' :: rest =>
          match skipSpace rest with
          | ']' :: rest => .ok (.list [], rest)
          | rest => (readItems fuel rest).map fun read => (.list read.1, read.2)
      | '"' :: rest => (readUnits rest).map fun read => (.text read.1, read.2)
      | 't' :: 'r' :: 'u' :: 'e' :: rest => .ok (.bool true, rest)
      | 'f' :: 'a' :: 'l' :: 's' :: 'e' :: rest => .ok (.bool false, rest)
      | 'n' :: 'u' :: 'l' :: 'l' :: rest => .ok (.null, rest)
      | rest => readNumber rest

/-- The fields of an object, one at least, and its closing brace. -/
def readFields : Nat → List Char → Except Failure (List (List Nat × Value) × List Char)
  | 0, _ => .error .exhausted
  | fuel + 1, letters => do
      let letters ← readLetter '"' (skipSpace letters)
      let (key, letters) ← readUnits letters
      let letters ← readLetter ':' (skipSpace letters)
      let (value, letters) ← readValue fuel letters
      match skipSpace letters with
      | ',' :: rest => (readFields fuel rest).map fun read => ((key, value) :: read.1, read.2)
      | '\x7d' :: rest => .ok ([(key, value)], rest)
      | _ => .error .syntaxError

/-- The items of an array, one at least, and its closing bracket. -/
def readItems : Nat → List Char → Except Failure (List Value × List Char)
  | 0, _ => .error .exhausted
  | fuel + 1, letters => do
      let (value, letters) ← readValue fuel letters
      match skipSpace letters with
      | ',' :: rest => (readItems fuel rest).map fun read => (value :: read.1, read.2)
      | ']' :: rest => .ok ([value], rest)
      | _ => .error .syntaxError

end

/-- `JSON.parse(text)`. -/
def parse (text : String) : Except Failure Value := do
  let (value, rest) ← readValue (2 * text.toList.length + 1) text.toList
  if skipSpace rest = [] then return value else throw .syntaxError

section Totality

variable {Result Other : Type} {bound : Nat}

/-- A reader comes to an answer: a value, with less of the text left than so much, or a
syntax error. -/
def Settles (bound : Nat) : Except Failure (Result × List Char) → Prop
  | .ok read => read.2.length < bound
  | .error failure => failure = .syntaxError

theorem Settles.mono {other : Nat} {answer : Except Failure (Result × List Char)}
    (settles : Settles bound answer) (within : bound ≤ other) : Settles other answer := by
  cases answer with
  | ok read => exact Nat.lt_of_lt_of_le settles within
  | error failure => exact settles

theorem Settles.map {answer : Except Failure (Result × List Char)}
    {change : Result × List Char → Other × List Char} (settles : Settles bound answer)
    (keeps : ∀ read, (change read).2 = read.2) : Settles bound (answer.map change) := by
  cases answer with
  | ok read =>
      change (change read).2.length < bound
      rw [keeps]
      exact settles
  | error failure => exact settles

theorem Settles.bind {other : Nat} {answer : Except Failure (Result × List Char)}
    {next : Result × List Char → Except Failure (Other × List Char)}
    (settles : Settles bound answer)
    (continues : ∀ read, read.2.length < bound → Settles other (next read)) :
    Settles other (answer >>= next) := by
  cases answer with
  | ok read => exact continues read settles
  | error failure => exact settles

theorem skipSpace_length (letters : List Char) : (skipSpace letters).length ≤ letters.length :=
  (List.dropWhile_suffix _).length_le

theorem readLetter_bind {letter : Char} {letters : List Char}
    {next : List Char → Except Failure (Result × List Char)}
    (continues : ∀ rest, rest.length < letters.length → Settles bound (next rest)) :
    Settles bound (readLetter letter letters >>= next) := by
  cases letters with
  | nil => rfl
  | cons first rest =>
      by_cases same : first = letter
      · rw [readLetter, if_pos same]
        exact continues rest (Nat.lt_succ_self _)
      · rw [readLetter, if_neg same]
        rfl

theorem prepend_settles {units : List Nat} {answer : Except Failure (List Nat × List Char)}
    (settles : Settles bound answer) : Settles bound (prepend units answer) := by
  cases answer with
  | ok read => exact settles
  | error failure => exact settles

theorem readUnits_settles (letters : List Char) :
    Settles letters.length (readUnits letters) := by
  fun_induction readUnits letters with
  | case1 => rfl
  | case2 rest => exact Nat.lt_succ_self _
  | case3 one two three four rest unit found ih =>
      exact prepend_settles (ih.mono (by simp only [List.length_cons]; omega))
  | case4 => rfl
  | case5 letter rest _ unit found ih =>
      exact prepend_settles (ih.mono (by simp only [List.length_cons]; omega))
  | case6 => rfl
  | case7 => rfl
  | case8 letter rest _ _ _ _ ih => exact prepend_settles (ih.mono (Nat.le_succ _))

theorem readSome_settles (letters : List Char) : Settles letters.length (readSome letters) := by
  unfold readSome
  split
  · rfl
  · rename_i some_
    have parts := congrArg List.length (@List.takeWhile_append_dropWhile _ Char.isDigit letters)
    have taken := List.length_pos_iff.mpr some_
    rw [List.length_append] at parts
    change (letters.dropWhile Char.isDigit).length < letters.length
    omega

theorem readFraction_settles (letters : List Char) :
    Settles (letters.length + 1) (readFraction letters) := by
  unfold readFraction
  split
  · exact (readSome_settles _).mono (by simp only [List.length_cons]; omega)
  · exact Nat.lt_succ_self _

theorem readSigned_settles (letters : List Char) : Settles letters.length (readSigned letters) := by
  unfold readSigned
  split
  · exact ((readSome_settles _).mono (Nat.le_succ _)).map fun _ => rfl
  · exact ((readSome_settles _).mono (Nat.le_succ _)).map fun _ => rfl
  · exact (readSome_settles _).map fun _ => rfl

theorem readExponent_settles (letters : List Char) :
    Settles (letters.length + 1) (readExponent letters) := by
  unfold readExponent
  split
  · exact (readSigned_settles _).mono (by simp only [List.length_cons]; omega)
  · exact (readSigned_settles _).mono (by simp only [List.length_cons]; omega)
  · exact Nat.lt_succ_self _

theorem readMagnitude_settles (letters : List Char) :
    Settles letters.length (readMagnitude letters) := by
  refine (readSome_settles letters).bind fun whole shorter => ?_
  dsimp only
  split
  · rfl
  · refine (readFraction_settles whole.2).bind fun fraction within => ?_
    refine (readExponent_settles fraction.2).bind fun exponent final => ?_
    change exponent.2.length < letters.length
    omega

theorem readNumber_settles (letters : List Char) : Settles letters.length (readNumber letters) := by
  unfold readNumber
  split
  · exact ((readMagnitude_settles _).mono (Nat.le_succ _)).map fun _ => rfl
  · exact (readMagnitude_settles _).map fun _ => rfl

/-- Every reader comes to an answer on enough fuel: a level of nested arrays takes two for a
bracket. -/
theorem read_settles (fuel : Nat) (letters : List Char) :
    (2 * letters.length < fuel → Settles letters.length (readValue fuel letters)) ∧
      (2 * letters.length < fuel → Settles letters.length (readFields fuel letters)) ∧
      (2 * letters.length + 1 < fuel → Settles letters.length (readItems fuel letters)) := by
  induction fuel generalizing letters with
  | zero =>
      exact ⟨fun enough => absurd enough (Nat.not_lt_zero _), fun enough =>
        absurd enough (Nat.not_lt_zero _), fun enough => absurd enough (Nat.not_lt_zero _)⟩
  | succ fuel ih =>
      have skipped := skipSpace_length letters
      refine ⟨?_, ?_, ?_⟩ <;> intro enough
      · rw [readValue]
        split
        · rename_i rest shape
          rw [shape, List.length_cons] at skipped
          have inner := skipSpace_length rest
          split
          · rename_i others closed
            rw [closed, List.length_cons] at inner
            change others.length < letters.length
            omega
          · exact (((ih _).2.1 (by omega)).mono (by omega)).map fun _ => rfl
        · rename_i rest shape
          rw [shape, List.length_cons] at skipped
          have inner := skipSpace_length rest
          split
          · rename_i others closed
            rw [closed, List.length_cons] at inner
            change others.length < letters.length
            omega
          · exact (((ih _).2.2 (by omega)).mono (by omega)).map fun _ => rfl
        · rename_i rest shape
          rw [shape, List.length_cons] at skipped
          exact ((readUnits_settles rest).mono (by omega)).map fun _ => rfl
        · rename_i rest shape
          rw [shape] at skipped
          simp only [List.length_cons] at skipped
          change rest.length < letters.length
          omega
        · rename_i rest shape
          rw [shape] at skipped
          simp only [List.length_cons] at skipped
          change rest.length < letters.length
          omega
        · rename_i rest shape
          rw [shape] at skipped
          simp only [List.length_cons] at skipped
          change rest.length < letters.length
          omega
        · exact (readNumber_settles _).mono skipped
      · rw [readFields]
        refine readLetter_bind fun opened shorter => ?_
        refine (readUnits_settles opened).bind fun key within => ?_
        refine readLetter_bind fun named less => ?_
        have keyed := skipSpace_length key.2
        refine ((ih named).1 (by omega)).bind fun value read => ?_
        have after := skipSpace_length value.2
        dsimp only
        split
        · rename_i rest shape
          rw [shape, List.length_cons] at after
          exact (((ih rest).2.1 (by omega)).mono (by omega)).map fun _ => rfl
        · rename_i rest shape
          rw [shape, List.length_cons] at after
          change rest.length < letters.length
          omega
        · rfl
      · rw [readItems]
        refine ((ih letters).1 (by omega)).bind fun value read => ?_
        have after := skipSpace_length value.2
        dsimp only
        split
        · rename_i rest shape
          rw [shape, List.length_cons] at after
          exact (((ih rest).2.2 (by omega)).mono (by omega)).map fun _ => rfl
        · rename_i rest shape
          rw [shape, List.length_cons] at after
          change rest.length < letters.length
          omega
        · rfl

theorem parse_ne_exhausted (text : String) : parse text ≠ .error .exhausted := by
  have settles := (read_settles (2 * text.toList.length + 1) text.toList).1 (Nat.lt_succ_self _)
  unfold parse
  cases answer : readValue (2 * text.toList.length + 1) text.toList with
  | error failure =>
      rw [answer] at settles
      change failure = .syntaxError at settles
      rw [settles]
      intro same
      cases same
  | ok read =>
      change (if skipSpace read.2 = [] then _ else _) ≠ _
      split <;> nofun

end Totality

section Writing

def isPlain (letter : Char) : Bool :=
  letter != '"' && letter != '\\' && decide (0x20 ≤ letter.toNat) && decide (letter.toNat < 0x10000)

theorem jsUnits_plain {letter : Char} (plain : isPlain letter = true) :
    jsUnits (String.singleton letter) = [letter.toNat] := by
  have small : letter.toNat < 0x10000 := by
    simp only [isPlain, Bool.and_eq_true, decide_eq_true_eq] at plain
    exact plain.2
  unfold jsUnits
  rw [String.toList_singleton, List.flatMap_singleton, if_pos small]

theorem readUnits_cons {letter : Char} (plain : isPlain letter = true) (rest : List Char) :
    readUnits (letter :: rest) = prepend [letter.toNat] (readUnits rest) := by
  have units := jsUnits_plain plain
  simp only [isPlain, Bool.and_eq_true, bne_iff_ne, ne_eq, decide_eq_true_eq] at plain
  obtain ⟨⟨⟨quote, escape⟩, printed⟩, -⟩ := plain
  rw [readUnits, if_neg (Nat.not_lt.mpr printed), units]
  · exact quote
  · intro _ _ _ _ _ same
    exact absurd same escape
  · intro _ _ same
    exact absurd same escape

theorem readUnits_plain {letters : List Char} (plain : letters.all isPlain = true)
    (rest : List Char) :
    readUnits (letters ++ '"' :: rest) = .ok (letters.map Char.toNat, rest) := by
  induction letters with
  | nil => rfl
  | cons letter letters ih =>
      rw [List.all_cons, Bool.and_eq_true] at plain
      rw [List.cons_append, readUnits_cons plain.1, ih plain.2]
      rfl

theorem readValue_plain (fuel : Nat) {letters : List Char} (plain : letters.all isPlain = true)
    (rest : List Char) :
    readValue (fuel + 1) ('"' :: (letters ++ '"' :: rest)) =
      .ok (.text (letters.map Char.toNat), rest) := by
  rw [readValue]
  change (readUnits (letters ++ '"' :: rest)).map _ = _
  rw [readUnits_plain plain]
  rfl

theorem toDigits_head (number : Nat) :
    ¬ ((Nat.toDigits 10 number).head? = some '0' ∧ (Nat.toDigits 10 number).length ≠ 1) := by
  have positive : ∀ number, 0 < number → (Nat.toDigits 10 number).head? ≠ some '0' := by
    intro number
    induction number using Nat.strongRecOn with
    | _ number ih =>
        intro positive
        by_cases small : number < 10
        · have each : ∀ digit : Fin 10, 0 < digit.val → some (Nat.digitChar digit) ≠ some '0' := by
            decide
          rw [Nat.toDigits_of_lt_base small]
          exact each ⟨number, small⟩ positive
        · rw [Nat.toDigits_of_base_le (by decide) (Nat.not_lt.mp small),
            List.head?_append_of_ne_nil _ Nat.toDigits_ne_nil]
          exact ih _ (by omega) (by omega)
  rintro ⟨front, length⟩
  rcases Nat.eq_zero_or_pos number with rfl | some_
  · exact length rfl
  · exact positive number some_ front

theorem toDigits_ne_cons (number : Nat) {letter : Char} (noDigit : letter.isDigit = false)
    (rest others : List Char) : Nat.toDigits 10 number ++ rest ≠ letter :: others := by
  intro same
  have front := congrArg List.head? same
  rw [List.head?_append_of_ne_nil _ Nat.toDigits_ne_nil, List.head?_cons] at front
  exact notMem_toDigits noDigit number (List.mem_of_mem_head? front)

theorem readNumber_toDigits (number : Nat) {next : Char} (noDigit : next.isDigit = false)
    (point : next ≠ '.') (lower : next ≠ 'e') (upper : next ≠ 'E') (rest : List Char) :
    readNumber (Nat.toDigits 10 number ++ next :: rest) = .ok (.number number 0, next :: rest) := by
  have digits : ∀ letter ∈ Nat.toDigits 10 number, letter.isDigit = true := fun letter member =>
    Nat.isDigit_of_mem_toDigits (by decide) (by decide) member
  have whole : readSome (Nat.toDigits 10 number ++ next :: rest) =
      .ok (Nat.toDigits 10 number, next :: rest) := by
    have stops : ¬ next.isDigit = true := by rw [noDigit]; exact Bool.false_ne_true
    unfold readSome
    rw [List.takeWhile_append_of_pos digits, List.dropWhile_append_of_pos digits,
      List.takeWhile_cons_of_neg stops, List.dropWhile_cons_of_neg stops, List.append_nil,
      if_neg Nat.toDigits_ne_nil]
  have magnitude : readMagnitude (Nat.toDigits 10 number ++ next :: rest) =
      .ok ((number, 0), next :: rest) := by
    have fraction : readFraction (next :: rest) = .ok ([], next :: rest) := by
      rw [readFraction]
      exact fun _ same => point (List.cons.inj same).1
    have exponent : readExponent (next :: rest) = .ok (0, next :: rest) := by
      rw [readExponent]
      · exact fun _ same => lower (List.cons.inj same).1
      · exact fun _ same => upper (List.cons.inj same).1
    unfold readMagnitude
    rw [whole]
    change (if (Nat.toDigits 10 number).head? = some '0' ∧ (Nat.toDigits 10 number).length ≠ 1
      then _ else _) = _
    rw [if_neg (toDigits_head number)]
    rw [fraction]
    change (readExponent (next :: rest) >>= _) = _
    rw [exponent]
    change Except.ok ((Nat.ofDigitChars 10 (Nat.toDigits 10 number ++ []) 0, (0 : Int) - (0 : Nat)),
      next :: rest) = _
    rw [List.append_nil, Nat.ofDigitChars_ten_toDigits]
    rfl
  unfold readNumber
  split
  · rename_i others same
    exact absurd same (toDigits_ne_cons number rfl _ others)
  · rw [magnitude]
    rfl

theorem readValue_toDigits (fuel number : Nat) {next : Char} (noDigit : next.isDigit = false)
    (point : next ≠ '.') (lower : next ≠ 'e') (upper : next ≠ 'E') (rest : List Char) :
    readValue (fuel + 1) (Nat.toDigits 10 number ++ next :: rest) =
      .ok (.number number 0, next :: rest) := by
  have visible : skipSpace (Nat.toDigits 10 number ++ next :: rest) =
      Nat.toDigits 10 number ++ next :: rest := by
    cases shape : Nat.toDigits 10 number with
    | nil => exact absurd shape Nat.toDigits_ne_nil
    | cons letter letters =>
        have digit : letter.isDigit = true :=
          Nat.isDigit_of_mem_toDigits (by decide) (by decide)
            (by rw [shape]; exact List.mem_cons_self : letter ∈ Nat.toDigits 10 number)
        refine List.dropWhile_cons_of_neg ?_
        intro space
        simp only [isSpace, Bool.or_eq_true, beq_iff_eq] at space
        rcases space with ((rfl | rfl) | rfl) | rfl <;> exact absurd digit (by decide)
  rw [readValue, visible]
  split
  · rename_i others same
    exact absurd same (toDigits_ne_cons number rfl _ others)
  · rename_i others same
    exact absurd same (toDigits_ne_cons number rfl _ others)
  · rename_i others same
    exact absurd same (toDigits_ne_cons number rfl _ others)
  · rename_i others same
    exact absurd same (toDigits_ne_cons number rfl _ _)
  · rename_i others same
    exact absurd same (toDigits_ne_cons number rfl _ _)
  · rename_i others same
    exact absurd same (toDigits_ne_cons number rfl _ _)
  · exact readNumber_toDigits number noDigit point lower upper rest

end Writing

namespace Value

/-- `value[key]`. Of fields of one name the last counts. -/
def field (key : String) : Value → Option Value
  | .record fields => (fields.reverse.find? (·.1 == jsUnits key)).map (·.2)
  | .null | .bool _ | .number _ _ | .text _ | .list _ => none

/-- `typeof value === 'object' && value !== null`. -/
def isObject : Value → Bool
  | .list _ | .record _ => true
  | .null | .bool _ | .number _ _ | .text _ => false

def arrayIndex? (key : List Nat) : Option Nat :=
  let digits := key.map Char.ofNat
  if digits.all Char.isDigit && decide (digits ≠ []) &&
      (decide (digits.head? ≠ some '0') || decide (digits.length = 1)) then
    some (Nat.ofDigitChars 10 digits 0) |>.filter (· < 4294967295)
  else none

/-- `Object.entries`: a key is where it first stands, with its last value. Indices come first,
in their order. -/
def entries (fields : List (List Nat × Value)) : List (List Nat × Value) :=
  let keys := ((fields.map (·.1)).reverse.dedup).reverse
  ((keys.filter fun key => (arrayIndex? key).isSome).insertionSort (fun one other =>
      (arrayIndex? one).getD 0 ≤ (arrayIndex? other).getD 0) ++
    keys.filter fun key => (arrayIndex? key).isNone).filterMap fun key =>
      (fields.reverse.find? (·.1 == key)).map fun field => (key, field.2)

end Value

end UnifiedService.Library.JsonText
