import UnifiedService.Library.Digits
import UnifiedService.Library.Json

/-! The text of a value tells the value, but for the order of fields and for numbers too great
to be written. -/

set_option autoImplicit false

namespace UnifiedService.Library

namespace Json

/-! ### Quoted texts -/

def readHex (high low : Char) : Char :=
  let digit (letter : Char) : Nat :=
    if letter.isDigit then letter.toNat - 48 else letter.toNat - 87
  Char.ofNat (16 * digit high + digit low)

def readEscaped (letter : Char) : Char :=
  if letter = 'b' then Char.ofNat 8
  else if letter = 't' then Char.ofNat 9
  else if letter = 'n' then Char.ofNat 10
  else if letter = 'f' then Char.ofNat 12
  else if letter = 'r' then Char.ofNat 13
  else letter

def firstQuoted : List Char → Option (Char × List Char)
  | [] => none
  | letter :: rest =>
      if letter = '\\' then
        match rest with
        | 'u' :: _ :: _ :: high :: low :: rest => some (readHex high low, rest)
        | letter :: rest => some (readEscaped letter, rest)
        | [] => none
      else some (letter, rest)

theorem readHex_control : ∀ code < 32,
    readHex (Nat.digitChar (code / 16)) (Nat.digitChar (code % 16)) = Char.ofNat code := by
  decide

theorem firstQuoted_quoteChar (letter : Char) (rest : List Char) :
    firstQuoted ((quoteChar letter).toList ++ rest) = some (letter, rest) := by
  have named : ∀ {code : Nat}, letter.toNat = code → letter = Char.ofNat code := by
    intro code same
    rw [← same, Char.ofNat_toNat]
  unfold quoteChar
  split
  · next same =>
      subst same
      rfl
  split
  · next same =>
      subst same
      rfl
  split
  · next same =>
      rw [named same]
      rfl
  split
  · next same =>
      rw [named same]
      rfl
  split
  · next same =>
      rw [named same]
      rfl
  split
  · next same =>
      rw [named same]
      rfl
  split
  · next same =>
      rw [named same]
      rfl
  split
  · next control =>
      rw [String.toList_append, String.toList_ofList, String.toList_ofList]
      change some (readHex (Nat.digitChar (letter.toNat / 16)) (Nat.digitChar (letter.toNat % 16)),
        rest) = _
      rw [readHex_control _ control, Char.ofNat_toNat]
  · next noBackslash _ _ _ _ _ _ =>
      rw [String.toList_singleton]
      exact if_neg noBackslash

theorem quoteChar_ends (letter other : Char) :
    EndsItself (fun letter => (quoteChar letter).toList) (· = ·) (fun _ => True) letter other := by
  intro rest otherRest _ _ same
  have read := (firstQuoted_quoteChar letter rest).symm.trans
    ((congrArg firstQuoted same).trans (firstQuoted_quoteChar other otherRest))
  exact ⟨congrArg Prod.fst (Option.some.inj read), congrArg Prod.snd (Option.some.inj read)⟩

theorem quoteChar_ne_quote (letter : Char) (rest otherRest : List Char) :
    (quoteChar letter).toList ++ rest ≠ '"' :: otherRest := by
  intro same
  have read := congrArg firstQuoted same
  rw [firstQuoted_quoteChar] at read
  obtain ⟨plain, -⟩ := Prod.mk.inj (Option.some.inj read)
  subst plain
  cases same

theorem toList_quote (text : String) :
    (quote text).toList =
      '"' :: ((text.toList.flatMap fun letter => (quoteChar letter).toList) ++ ['"']) := by
  simp [quote, String.toList_append, String.toList_join, List.flatMap_map]

theorem quote_unique {text other : String} {rest otherRest : List Char}
    (same : (quote text).toList ++ rest = (quote other).toList ++ otherRest) :
    text = other ∧ rest = otherRest := by
  rw [toList_quote, toList_quote, List.cons_append, List.cons_append, List.append_assoc,
    List.append_assoc] at same
  have apart : List.Forall₂ (· = ·) text.toList other.toList ∧ '"' :: rest = '"' :: otherRest := by
    refine flatMap_unique (fun letters => ∃ rest, letters = '"' :: rest) (fun _ _ => trivial)
      (fun _ _ => trivial) ?_ (fun letter _ other _ => quoteChar_ends letter other)
      ⟨rest, rfl⟩ ⟨otherRest, rfl⟩ (List.cons.inj same).2
    rintro letter rest ⟨otherRest, begun⟩
    exact quoteChar_ne_quote letter rest otherRest begun
  rw [List.forall₂_eq_eq_eq] at apart
  exact ⟨String.toList_inj.mp apart.1, (List.cons.inj apart.2).2⟩

/-! ### Values -/

@[elab_as_elim]
theorem parts_induction {motive : Json → Prop}
    (leaf : ∀ value, value.isObject = false → motive value)
    (arr : ∀ items, (∀ item ∈ items, motive item) → motive (.arr items))
    (obj : ∀ fields, (∀ field ∈ fields, motive field.2) → motive (.obj fields))
    (value : Json) : motive value := by
  cases value with
  | null | bool | num | decimal | infinite | str => exact leaf _ rfl
  | arr items => exact arr items fun item member => parts_induction leaf arr obj item
  | obj fields => exact obj fields fun field member => parts_induction leaf arr obj field.2
termination_by sizeOf value
decreasing_by
  all_goals simp_wf
  all_goals have smaller := List.sizeOf_lt_of_mem member
  · omega
  · have part : sizeOf field = 1 + sizeOf field.1 + sizeOf field.2 := rfl
    omega

/-- Values that are the same up to the order of the fields of their objects, if `same` says
which leaves are. -/
inductive Alike (same : Json → Json → Prop) : Json → Json → Prop
  | leaf {first second : Json} : same first second → Alike same first second
  | arr {items others : List Json} :
      List.Forall₂ (Alike same) items others → Alike same (.arr items) (.arr others)
  | obj {fields ordered otherOrdered others : List (String × Json)} :
      fields.Perm ordered → ordered.map Prod.fst = otherOrdered.map Prod.fst →
      List.Forall₂ (Alike same) (ordered.map Prod.snd) (otherOrdered.map Prod.snd) →
      otherOrdered.Perm others → Alike same (.obj fields) (.obj others)

def SameValue : Json → Json → Prop := Alike (· = ·)

def writesNull : Json → Bool
  | .null | .infinite _ => true
  | .bool _ | .num _ | .decimal _ | .str _ | .arr _ | .obj _ => false

/-- The same value, up to the order of fields, where a number too great for a double counts as
null. -/
def SameWritten : Json → Json → Prop :=
  Alike fun first second => first = second ∨ (first.writesNull = true ∧ second.writesNull = true)

/-- The same value, up to numbers too great for a double, with the fields of objects matched in
the order that `order` puts them in. -/
inductive Matches (order : List (String × Json) → List (String × Json)) : Json → Json → Prop
  | leaf {first second : Json} :
      first = second ∨ (first.writesNull = true ∧ second.writesNull = true) →
      Matches order first second
  | arr {items others : List Json} :
      List.Forall₂ (Matches order) items others → Matches order (.arr items) (.arr others)
  | obj {fields others : List (String × Json)} :
      (order fields).map Prod.fst = (order others).map Prod.fst →
      List.Forall₂ (Matches order) ((order fields).map Prod.snd) ((order others).map Prod.snd) →
      Matches order (.obj fields) (.obj others)

def SameLayout : Json → Json → Prop := Matches id

def isNumberLetter (letter : Char) : Bool :=
  letter.isDigit || letter == '-' || letter == '+' || letter == '.' || letter == 'e'

mutual

/-- What a parser brings: the fields of an object have different names, and a number that is
not written as an integer has a point or an exponent. -/
def wellFormed : Json → Bool
  | .null | .bool _ | .num _ | .infinite _ | .str _ => true
  | .decimal text =>
      text.toList.all isNumberLetter && text.toList.any fun letter => letter == '.' || letter == 'e'
  | .arr items => wellFormedItems items
  | .obj fields => decide (fields.map Prod.fst).Nodup && wellFormedFields fields

def wellFormedItems : List Json → Bool
  | [] => true
  | item :: items => wellFormed item && wellFormedItems items

def wellFormedFields : List (String × Json) → Bool
  | [] => true
  | (_, value) :: fields => wellFormed value && wellFormedFields fields

end

theorem wellFormedItems_iff {items : List Json} :
    wellFormedItems items = true ↔ ∀ item ∈ items, item.wellFormed = true := by
  induction items with
  | nil => simp [wellFormedItems]
  | cons item items ih => simp [wellFormedItems, ih]

theorem wellFormedFields_iff {fields : List (String × Json)} :
    wellFormedFields fields = true ↔ ∀ field ∈ fields, field.2.wellFormed = true := by
  induction fields with
  | nil => simp [wellFormedFields]
  | cons field fields ih => simp [wellFormedFields, ih]

theorem wellFormed_arr {items : List Json} :
    (Json.arr items).wellFormed = true ↔ ∀ item ∈ items, item.wellFormed = true :=
  wellFormedItems_iff

theorem wellFormed_obj {fields : List (String × Json)} :
    (Json.obj fields).wellFormed = true ↔
      (fields.map Prod.fst).Nodup ∧ ∀ field ∈ fields, field.2.wellFormed = true := by
  rw [wellFormed, Bool.and_eq_true, decide_eq_true_eq, wellFormedFields_iff]

/-! ### The texts of the parts -/

theorem stringifyItems_eq (items : List Json) : stringifyItems items = items.map stableStringify := by
  induction items with
  | nil => rfl
  | cons item items ih => rw [stringifyItems, ih, List.map_cons]

theorem stringifyFields_eq (fields : List (String × Json)) :
    stringifyFields fields = fields.map fun field => (field.1, stableStringify field.2) := by
  induction fields with
  | nil => rfl
  | cons field fields ih => rw [stringifyFields, ih, List.map_cons]

theorem stringifyEach_eq (items : List Json) : stringifyEach items = items.map stringify := by
  induction items with
  | nil => rfl
  | cons item items ih => rw [stringifyEach, ih, List.map_cons]

theorem stringifyEntries_eq (fields : List (String × Json)) :
    stringifyEntries fields = fields.map fun field => quote field.1 ++ ":" ++ stringify field.2 := by
  induction fields with
  | nil => rfl
  | cons field fields ih => rw [stringifyEntries, ih, List.map_cons]

/-! ### Writers -/

/-- A text of every value: that of `stableStringify` for a leaf, and otherwise the texts of the
parts, with the fields of an object in an order of the writer's own. -/
structure Writer where
  text : Json → String
  order : List (String × Json) → List (String × Json)
  permuted : ∀ fields, (order fields).Perm fields
  leaf : ∀ value, value.isObject = false → text value = stableStringify value
  arr : ∀ items, (text (.arr items)).toList =
    '[' :: ([','].intercalate (items.map fun item => (text item).toList) ++ [']'])
  obj : ∀ fields, (text (.obj fields)).toList =
    '\x7b' :: ([','].intercalate ((order fields).map fun field =>
      (quote field.1).toList ++ ':' :: (text field.2).toList) ++ ['\x7d'])

def stable : Writer where
  text := stableStringify
  order fields := fields.insertionSort fun first second => jsUnits first.1 ≤ jsUnits second.1
  permuted fields := List.perm_insertionSort _ fields
  leaf _ _ := rfl
  arr items := by
    simp [stableStringify, stringifyItems_eq, String.toList_append, String.toList_intercalate,
      Function.comp_def]
  obj fields := by
    have sorted : (stringifyFields fields).insertionSort keyBefore =
        (fields.insertionSort fun first second => jsUnits first.1 ≤ jsUnits second.1).map
          fun field => (field.1, stableStringify field.2) := by
      rw [stringifyFields_eq]
      symm
      apply List.map_insertionSort
      intro first _ second _
      exact Iff.rfl
    simp [stableStringify, sorted, String.toList_append, String.toList_intercalate,
      Function.comp_def]

def plain : Writer where
  text := stringify
  order := id
  permuted fields := .refl fields
  leaf value leaf := by
    cases value with
    | null | bool | num | decimal | infinite | str => rfl
    | arr | obj => cases leaf
  arr items := by
    simp [stringify, stringifyEach_eq, String.toList_append, String.toList_intercalate,
      Function.comp_def]
  obj fields := by
    simp [stringify, stringifyEntries_eq, String.toList_append, String.toList_intercalate,
      Function.comp_def]

/-! ### What the first letter tells -/

inductive Kind where
  | null | yes | no | number | text | array | object
  deriving DecidableEq

def kind : Json → Kind
  | .null | .infinite _ => .null
  | .bool true => .yes
  | .bool false => .no
  | .num _ | .decimal _ => .number
  | .str _ => .text
  | .arr _ => .array
  | .obj _ => .object

def letterKind (letter : Char) : Kind :=
  if letter = 'n' then .null
  else if letter = 't' then .yes
  else if letter = 'f' then .no
  else if letter = '"' then .text
  else if letter = '[' then .array
  else if letter = '\x7b' then .object
  else .number

def HasShape (value : Json) : Kind → Prop
  | .null => stableStringify value = "null" ∧ value.writesNull = true
  | .yes => value = .bool true
  | .no => value = .bool false
  | .number => (∃ number, value = .num number) ∨ ∃ text, value = .decimal text
  | .text => ∃ text, value = .str text
  | .array => ∃ items, value = .arr items
  | .object => ∃ fields, value = .obj fields

theorem hasShape (value : Json) : HasShape value value.kind := by
  cases value with
  | null => exact ⟨rfl, rfl⟩
  | infinite negative => exact ⟨rfl, rfl⟩
  | bool value =>
      cases value with
      | false => rfl
      | true => rfl
  | num value => exact .inl ⟨value, rfl⟩
  | decimal text => exact .inr ⟨text, rfl⟩
  | str text => exact ⟨text, rfl⟩
  | arr items => exact ⟨items, rfl⟩
  | obj fields => exact ⟨fields, rfl⟩

theorem letterKind_number {letter : Char} (inside : isNumberLetter letter = true) :
    letterKind letter = .number := by
  have other : ∀ {mark : Char}, isNumberLetter mark = false → letter ≠ mark := by
    intro mark outside same
    rw [same, outside] at inside
    cases inside
  unfold letterKind
  rw [if_neg (other rfl), if_neg (other rfl), if_neg (other rfl), if_neg (other rfl),
    if_neg (other rfl), if_neg (other rfl)]

theorem num_letters {value : Int} : ∀ letter ∈ (toString value).toList, isNumberLetter letter := by
  intro letter member
  cases mem_toString member with
  | inl digit => simp [isNumberLetter, digit]
  | inr sign =>
      rw [sign]
      rfl

theorem number_letters {value : Json} (parsed : value.wellFormed = true)
    (counts : value.kind = .number) :
    (∀ letter ∈ (stableStringify value).toList, isNumberLetter letter) ∧
      (stableStringify value).toList ≠ [] := by
  have shape := hasShape value
  rw [counts] at shape
  obtain ⟨number, rfl⟩ | ⟨text, rfl⟩ := shape
  · exact ⟨num_letters, toString_ne_nil number⟩
  · simp only [wellFormed, Bool.and_eq_true, List.all_eq_true, List.any_eq_true] at parsed
    obtain ⟨inside, mark, member, -⟩ := parsed
    exact ⟨inside, List.ne_nil_of_mem member⟩

theorem isObject_eq (value : Json) :
    value.isObject = decide (value.kind = .array ∨ value.kind = .object) := by
  cases value with
  | bool value =>
      cases value with
      | false => rfl
      | true => rfl
  | null | num | decimal | infinite | str | arr | obj => rfl

theorem begins_leaf {value : Json} (parsed : value.wellFormed = true)
    (leaf : value.isObject = false) :
    ∃ letter letters, (stableStringify value).toList = letter :: letters ∧
      letterKind letter = value.kind := by
  cases kind : value.kind with
  | number =>
      obtain ⟨inside, nonempty⟩ := number_letters parsed kind
      obtain ⟨letter, letters, begun⟩ := List.exists_cons_of_ne_nil nonempty
      rw [begun] at inside
      exact ⟨letter, letters, begun, letterKind_number (inside letter (List.mem_cons_self ..))⟩
  | null =>
      have shape := hasShape value
      rw [kind] at shape
      rw [shape.1]
      exact ⟨_, _, rfl, rfl⟩
  | yes | no =>
      have shape := hasShape value
      rw [kind] at shape
      subst shape
      exact ⟨_, _, rfl, rfl⟩
  | text =>
      have shape := hasShape value
      rw [kind] at shape
      obtain ⟨text, rfl⟩ := shape
      exact ⟨_, _, toList_quote text, rfl⟩
  | array | object =>
      have shape := hasShape value
      rw [kind] at shape
      obtain ⟨parts, rfl⟩ := shape
      cases leaf

/-! ### The text of a value ends itself -/

def Stops (rest : List Char) : Prop := ∀ letter ∈ rest.head?, isNumberLetter letter = false

/-- Numbers of the same text are the same number: one that is no integer has a point or an
exponent. -/
theorem number_unique {value other : Json} (parsed : value.wellFormed = true)
    (otherParsed : other.wellFormed = true) (counts : value.kind = .number)
    (otherCounts : other.kind = .number)
    (same : stableStringify value = stableStringify other) : value = other := by
  have apart : ∀ (number : Int) {text : String}, (decimal text).wellFormed = true →
      toString number ≠ text := by
    intro number text parsed same
    subst same
    simp only [wellFormed, Bool.and_eq_true, List.any_eq_true, Bool.or_eq_true, beq_iff_eq] at parsed
    obtain ⟨-, mark, member, marks⟩ := parsed
    cases mem_toString member with
    | inl digit =>
        cases marks with
        | inl point =>
            rw [point] at digit
            cases digit
        | inr exponent =>
            rw [exponent] at digit
            cases digit
    | inr sign =>
        rw [sign] at marks
        simp at marks
  have shape := hasShape value
  rw [counts] at shape
  have otherShape := hasShape other
  rw [otherCounts] at otherShape
  cases shape with
  | inl shape =>
      obtain ⟨number, rfl⟩ := shape
      cases otherShape with
      | inl otherShape =>
          obtain ⟨otherNumber, rfl⟩ := otherShape
          exact congrArg num (toString_inj same)
      | inr otherShape =>
          obtain ⟨text, rfl⟩ := otherShape
          exact absurd same (apart number otherParsed)
  | inr shape =>
      obtain ⟨text, rfl⟩ := shape
      cases otherShape with
      | inl otherShape =>
          obtain ⟨number, rfl⟩ := otherShape
          exact absurd same.symm (apart number parsed)
      | inr otherShape =>
          obtain ⟨otherText, rfl⟩ := otherShape
          exact congrArg decimal same

theorem stableStringify_null {value : Json} (null : value.writesNull = true) :
    stableStringify value = "null" := by
  cases value with
  | null => rfl
  | infinite negative => rfl
  | bool | num | decimal | str | arr | obj => cases null

theorem map_eq_of_forall₂ {Item Image : Type} {related : Item → Item → Prop} {image : Item → Image}
    {items others : List Item} (alike : List.Forall₂ related items others)
    (same : ∀ item ∈ items, ∀ other ∈ others, related item other → image item = image other) :
    items.map image = others.map image := by
  induction alike with
  | nil => rfl
  | @cons item other items others head _ ih =>
      rw [List.map_cons, List.map_cons,
        same item (List.mem_cons_self ..) other (List.mem_cons_self ..) head]
      rw [ih fun item member other otherMember =>
        same item (List.mem_cons_of_mem _ member) other (List.mem_cons_of_mem _ otherMember)]

theorem forall₂_mono {Item : Type} {related other : Item → Item → Prop} {items others : List Item}
    (alike : List.Forall₂ related items others)
    (weaker : ∀ item ∈ items, ∀ another, related item another → other item another) :
    List.Forall₂ other items others := by
  induction alike with
  | nil => exact .nil
  | @cons item another items others head _ ih =>
      refine .cons (weaker item (List.mem_cons_self ..) another head) (ih ?_)
      intro item member
      exact weaker item (List.mem_cons_of_mem _ member)

namespace Writer

variable (writer : Writer)

def letters (value : Json) : List Char := (writer.text value).toList

def fieldLetters (field : String × Json) : List Char :=
  (quote field.1).toList ++ ':' :: writer.letters field.2

theorem begins {value : Json} (parsed : value.wellFormed = true) :
    ∃ letter letters, writer.letters value = letter :: letters ∧
      letterKind letter = value.kind := by
  unfold letters
  cases value with
  | null | bool | num | decimal | infinite | str =>
      rw [writer.leaf _ rfl]
      exact begins_leaf parsed rfl
  | arr items => exact ⟨_, _, writer.arr items, rfl⟩
  | obj fields => exact ⟨_, _, writer.obj fields, rfl⟩

variable {writer}

theorem kind_eq {value other : Json} (parsed : value.wellFormed = true)
    (otherParsed : other.wellFormed = true) {rest otherRest : List Char}
    (same : writer.letters value ++ rest = writer.letters other ++ otherRest) :
    value.kind = other.kind := by
  obtain ⟨letter, letters, begun, kind⟩ := writer.begins parsed
  obtain ⟨otherLetter, otherLetters, otherBegun, otherKind⟩ :=
    writer.begins otherParsed
  rw [begun, otherBegun] at same
  rw [← kind, ← otherKind, (List.cons.inj same).1]

theorem leaf_ends {value other : Json} (parsed : value.wellFormed = true)
    (otherParsed : other.wellFormed = true) (leaf : value.isObject = false) :
    EndsItself writer.letters (Matches writer.order) Stops value other := by
  intro rest otherRest stops otherStops same
  have kinds := kind_eq parsed otherParsed same
  have shape := hasShape value
  have otherShape := hasShape other
  rw [← kinds] at otherShape
  have otherLeaf : other.isObject = false := by rw [isObject_eq, ← kinds, ← isObject_eq, leaf]
  unfold letters at same
  rw [writer.leaf value leaf, writer.leaf other otherLeaf] at same
  cases kind : value.kind with
  | null =>
      rw [kind] at shape otherShape
      rw [shape.1, otherShape.1] at same
      exact ⟨.leaf (.inr ⟨shape.2, otherShape.2⟩), List.append_cancel_left same⟩
  | yes | no =>
      rw [kind] at shape otherShape
      cases shape
      cases otherShape
      exact ⟨.leaf (.inl rfl), List.append_cancel_left same⟩
  | number =>
      have apart := append_stops_inj (number_letters parsed kind).1
        (number_letters otherParsed (kinds ▸ kind)).1 stops otherStops same
      exact ⟨.leaf (.inl (number_unique parsed otherParsed kind (kinds ▸ kind)
        (String.toList_inj.mp apart.1))), apart.2⟩
  | text =>
      rw [kind] at shape otherShape
      obtain ⟨text, rfl⟩ := shape
      obtain ⟨otherText, rfl⟩ := otherShape
      have apart := quote_unique same
      exact ⟨.leaf (.inl (congrArg str apart.1)), apart.2⟩
  | array | object =>
      rw [kind] at shape
      obtain ⟨parts, rfl⟩ := shape
      cases leaf

theorem letters_ne {value : Json} (parsed : value.wellFormed = true) {mark : Char}
    (outside : isNumberLetter mark = false) (noKind : letterKind mark = .number)
    (rest otherRest : List Char) : writer.letters value ++ rest ≠ mark :: otherRest := by
  intro same
  obtain ⟨letter, others, begun, kind⟩ := writer.begins parsed
  rw [begun] at same
  obtain ⟨first, -⟩ := List.cons.inj same
  subst first
  have leaf : value.isObject = false := by rw [isObject_eq, ← kind, noKind]; rfl
  unfold letters at begun
  rw [writer.leaf value leaf] at begun
  have inside := (number_letters parsed (kind.symm.trans noKind)).1 letter
    (by rw [begun]; exact List.mem_cons_self ..)
  rw [outside] at inside
  cases inside

theorem stops_cons {mark : Char} (outside : isNumberLetter mark = false) (rest : List Char) :
    Stops (mark :: rest) := by
  intro letter first
  rw [List.head?_cons, Option.mem_some_iff] at first
  rw [← first]
  exact outside

theorem fieldLetters_ends {field other : String × Json}
    (ends : EndsItself writer.letters (Matches writer.order) Stops field.2 other.2) :
    EndsItself writer.fieldLetters (fun field other => field.1 = other.1 ∧ Matches writer.order field.2 other.2)
      Stops field other := by
  intro rest otherRest stops otherStops same
  unfold fieldLetters at same
  rw [List.append_assoc, List.append_assoc] at same
  obtain ⟨names, values⟩ := quote_unique same
  obtain ⟨alike, rests⟩ := ends rest otherRest stops otherStops (List.cons.inj values).2
  exact ⟨⟨names, alike⟩, rests⟩

theorem letters_ends {value other : Json} (parsed : value.wellFormed = true)
    (otherParsed : other.wellFormed = true) :
    EndsItself writer.letters (Matches writer.order) Stops value other := by
  induction value using parts_induction generalizing other with
  | leaf value leaf => exact leaf_ends parsed otherParsed leaf
  | arr items ih =>
      intro rest otherRest stops otherStops same
      have shape := hasShape other
      rw [← kind_eq parsed otherParsed same] at shape
      obtain ⟨others, rfl⟩ := shape
      rw [wellFormed_arr] at parsed otherParsed
      unfold letters at same
      rw [writer.arr, writer.arr, List.cons_append, List.cons_append, List.append_assoc,
        List.append_assoc] at same
      have apart : List.Forall₂ (Matches writer.order) items others ∧ rest = otherRest := by
        refine intercalate_unique (by decide) (stops_cons rfl) (stops_cons rfl)
          ?_ ?_ (List.cons.inj same).2
        · intro item member
          apply letters_ne _ rfl rfl
          cases List.mem_append.mp member with
          | inl member => exact parsed item member
          | inr member => exact otherParsed item member
        · intro item member other otherMember
          exact ih item member (parsed item member) (otherParsed other otherMember)
      exact ⟨.arr apart.1, apart.2⟩
  | obj fields ih =>
      intro rest otherRest stops otherStops same
      have shape := hasShape other
      rw [← kind_eq parsed otherParsed same] at shape
      obtain ⟨others, rfl⟩ := shape
      rw [wellFormed_obj] at parsed otherParsed
      unfold letters at same
      rw [writer.obj, writer.obj, List.cons_append, List.cons_append, List.append_assoc,
        List.append_assoc] at same
      have ordered := writer.permuted fields
      have otherOrdered := writer.permuted others
      have apart : List.Forall₂ (fun field other => field.1 = other.1 ∧ Matches writer.order field.2 other.2)
          (writer.order fields) (writer.order others) ∧ rest = otherRest := by
        refine intercalate_unique (by decide) (stops_cons rfl) (stops_cons rfl)
          ?_ ?_ (List.cons.inj same).2
        · intro field _ rest otherRest begun
          rw [toList_quote] at begun
          cases begun
        · intro field member other otherMember
          have here := ordered.mem_iff.mp member
          have there := otherOrdered.mem_iff.mp otherMember
          exact fieldLetters_ends (ih field here (parsed.2 field here) (otherParsed.2 other there))
      refine ⟨.obj ?_ ?_, apart.2⟩
      · exact List.forall₂_eq_eq_eq ▸ List.forall₂_map_left_iff.mpr
          (List.forall₂_map_right_iff.mpr (apart.1.imp fun _ _ both => both.1))
      · exact List.forall₂_map_left_iff.mpr
          (List.forall₂_map_right_iff.mpr (apart.1.imp fun _ _ both => both.2))

theorem text_null {value : Json} (null : value.writesNull = true) :
    writer.text value = "null" := by
  have leaf : value.isObject = false := by
    cases value with
    | null | bool | num | decimal | infinite | str => rfl
    | arr | obj => cases null
  rw [writer.leaf value leaf, stableStringify_null null]

theorem text_eq_leaf {value other : Json}
    (same : value = other ∨ (value.writesNull = true ∧ other.writesNull = true)) :
    writer.text value = writer.text other := by
  cases same with
  | inl same => rw [same]
  | inr null => rw [text_null null.1, text_null null.2]

theorem text_eq {value other : Json} (same : Matches writer.order value other) :
    writer.text value = writer.text other := by
  induction value using parts_induction generalizing other with
  | leaf value leaf =>
      cases same with
      | leaf same => exact text_eq_leaf same
      | arr _ => cases leaf
      | obj _ _ => cases leaf
  | arr items ih =>
      cases same with
      | leaf same => exact text_eq_leaf same
      | arr alike =>
          apply String.toList_inj.mp
          rw [writer.arr, writer.arr, map_eq_of_forall₂ alike fun item member other _ same =>
            congrArg String.toList (ih item member same)]
  | obj fields ih =>
      cases same with
      | leaf same => exact text_eq_leaf same
      | @obj _ others names alike =>
          have texts : ((writer.order fields).map Prod.snd).map (fun value => (writer.text value).toList) =
              ((writer.order others).map Prod.snd).map fun value => (writer.text value).toList := by
            apply map_eq_of_forall₂ alike
            intro value member other _ same
            obtain ⟨field, inOrder, rfl⟩ := List.mem_map.mp member
            exact congrArg String.toList
              (ih field ((writer.permuted fields).mem_iff.mp inOrder) same)
          apply String.toList_inj.mp
          rw [writer.obj, writer.obj]
          have written : ∀ fields : List (String × Json),
              (fields.map fun field => (quote field.1).toList ++ ':' :: (writer.text field.2).toList) =
                ((fields.map Prod.fst).zip ((fields.map Prod.snd).map fun value =>
                  (writer.text value).toList)).map fun field => (quote field.1).toList ++ ':' :: field.2 := by
            intro fields
            rw [List.map_map, List.zip_map', List.map_map]
            rfl
          rw [written, written, names, texts]

theorem text_eq_iff {value other : Json} (parsed : value.wellFormed = true)
    (otherParsed : other.wellFormed = true) :
    writer.text value = writer.text other ↔ Matches writer.order value other := by
  constructor
  · intro same
    have whole : writer.letters value ++ [] = writer.letters other ++ [] :=
      congrArg (fun text => text.toList ++ []) same
    exact (letters_ends parsed otherParsed [] [] nofun nofun whole).1
  · exact text_eq

theorem sameWritten {value other : Json} (same : Matches writer.order value other) :
    SameWritten value other := by
  induction value using parts_induction generalizing other with
  | leaf value leaf =>
      cases same with
      | leaf same => exact .leaf same
      | arr _ => cases leaf
      | obj _ _ => cases leaf
  | arr items ih =>
      cases same with
      | leaf same => exact .leaf same
      | arr alike => exact .arr (forall₂_mono alike fun item member another => ih item member)
  | obj fields ih =>
      cases same with
      | leaf same => exact .leaf same
      | @obj _ others names alike =>
          have ordered := writer.permuted fields
          refine .obj ordered.symm names (forall₂_mono alike fun value member another => ?_)
            (writer.permuted others)
          obtain ⟨field, inOrder, rfl⟩ := List.mem_map.mp member
          exact ih field (ordered.mem_iff.mp inOrder)

end Writer

/-! ### Values that are alike have one text -/

instance : Std.Total keyBefore where
  total first second := le_total (jsUnits first.1) (jsUnits second.1)

instance : IsTrans (String × String) keyBefore where
  trans _ _ _ := le_trans (α := List Nat)

theorem insertionSort_eq {entries others : List (String × String)}
    (names : (entries.map Prod.fst).Nodup) (same : entries.Perm others) :
    entries.insertionSort keyBefore = others.insertionSort keyBefore := by
  have permuted : (entries.insertionSort keyBefore).Perm (others.insertionSort keyBefore) :=
    (List.perm_insertionSort _ _).trans (same.trans (List.perm_insertionSort _ _).symm)
  apply permuted.eq_of_pairwise _ (List.pairwise_insertionSort _ _)
    (List.pairwise_insertionSort _ _)
  intro first second inFirst inSecond before after
  rw [List.mem_insertionSort] at inFirst inSecond
  have name := jsUnits_injective (le_antisymm before after)
  exact List.inj_on_of_nodup_map names inFirst (same.mem_iff.mpr inSecond) name

theorem stableStringify_alike {value other : Json} (parsed : value.wellFormed = true)
    (otherParsed : other.wellFormed = true) (alike : SameWritten value other) :
    stableStringify value = stableStringify other := by
  induction value using parts_induction generalizing other with
  | leaf value leaf =>
      cases alike with
      | leaf same =>
          cases same with
          | inl same => rw [same]
          | inr null => rw [stableStringify_null null.1, stableStringify_null null.2]
      | arr _ => cases leaf
      | obj _ _ _ _ => cases leaf
  | arr items ih =>
      cases alike with
      | leaf same =>
          cases same with
          | inl same => rw [same]
          | inr null => cases null.1
      | @arr items others alike =>
          rw [wellFormed_arr] at parsed otherParsed
          have texts : stringifyItems items = stringifyItems others := by
            rw [stringifyItems_eq, stringifyItems_eq]
            apply map_eq_of_forall₂ alike
            intro item member other otherMember same
            exact ih item member (parsed item member) (otherParsed other otherMember) same
          unfold stableStringify
          rw [texts]
  | obj fields ih =>
      cases alike with
      | leaf same =>
          cases same with
          | inl same => rw [same]
          | inr null => cases null.1
      | @obj _ ordered otherOrdered others permuted names alike otherPermuted =>
          rw [wellFormed_obj] at parsed otherParsed
          have texts : (ordered.map Prod.snd).map stableStringify =
              (otherOrdered.map Prod.snd).map stableStringify := by
            apply map_eq_of_forall₂ alike
            intro value member other otherMember same
            obtain ⟨field, inOrdered, rfl⟩ := List.mem_map.mp member
            obtain ⟨otherField, inOther, rfl⟩ := List.mem_map.mp otherMember
            have here := permuted.mem_iff.mpr inOrdered
            have there := otherPermuted.mem_iff.mp inOther
            exact ih field here (parsed.2 field here) (otherParsed.2 otherField there) same
          have entries : stringifyFields ordered = stringifyFields otherOrdered := by
            rw [stringifyFields_eq, stringifyFields_eq, ← List.zip_map', ← List.zip_map', names]
            rw [List.map_map, List.map_map] at texts
            exact congrArg _ texts
          have same : (stringifyFields fields).Perm (stringifyFields others) := by
            have before := permuted.map fun field => (field.1, stableStringify field.2)
            have after := otherPermuted.map fun field => (field.1, stableStringify field.2)
            rw [← stringifyFields_eq, ← stringifyFields_eq] at before after
            exact (before.trans (entries ▸ .refl _)).trans after
          unfold stableStringify
          rw [insertionSort_eq _ same]
          rw [stringifyFields_eq, List.map_map]
          exact parsed.1

theorem Alike.mono {same other : Json → Json → Prop} {value another : Json}
    (alike : Alike same value another) (weaker : ∀ first second, same first second →
      other first second) : Alike other value another := by
  induction value using parts_induction generalizing another with
  | leaf value leaf =>
      cases alike with
      | leaf held => exact .leaf (weaker _ _ held)
      | arr _ => cases leaf
      | obj _ _ _ _ => cases leaf
  | arr items ih =>
      cases alike with
      | leaf held => exact .leaf (weaker _ _ held)
      | arr alike => exact .arr (forall₂_mono alike fun item member another => ih item member)
  | obj fields ih =>
      cases alike with
      | leaf held => exact .leaf (weaker _ _ held)
      | obj permuted names alike otherPermuted =>
          refine .obj permuted names (forall₂_mono alike fun value member another => ?_) otherPermuted
          obtain ⟨field, inOrdered, rfl⟩ := List.mem_map.mp member
          exact ih field (permuted.mem_iff.mpr inOrdered)

/-- A plain text tells its value, with the fields in their places. -/
theorem stringify_eq_iff {value other : Json} (parsed : value.wellFormed = true)
    (otherParsed : other.wellFormed = true) :
    stringify value = stringify other ↔ SameLayout value other :=
  plain.text_eq_iff parsed otherParsed

theorem sameLayout_null {value : Json} : SameLayout value .null ↔ value.writesNull = true := by
  constructor
  · intro same
    cases same with
    | leaf same =>
        cases same with
        | inl same => rw [same]; rfl
        | inr null => exact null.1
  · exact fun null => .leaf (.inr ⟨null, rfl⟩)

theorem SameWritten.writesNull_eq {value other : Json} (same : SameWritten value other) :
    value.writesNull = other.writesNull := by
  cases same with
  | leaf same =>
      cases same with
      | inl same => rw [same]
      | inr null => rw [null.1, null.2]
  | arr _ => rfl
  | obj _ _ _ _ => rfl

theorem SameLayout.sameWritten {value other : Json} (same : SameLayout value other) :
    SameWritten value other :=
  @Writer.sameWritten plain value other same

theorem SameValue.sameWritten {value other : Json} (same : SameValue value other) :
    SameWritten value other :=
  Alike.mono same fun _ _ => .inl

/-- Two parsed values have the same text if and only if they are the same value up to the order
of fields, where a number too great for a double counts as null. -/
theorem stableStringify_eq_iff {value other : Json} (parsed : value.wellFormed = true)
    (otherParsed : other.wellFormed = true) :
    stableStringify value = stableStringify other ↔ SameWritten value other := by
  constructor
  · exact fun same => Writer.sameWritten ((stable.text_eq_iff parsed otherParsed).mp same)
  · exact stableStringify_alike parsed otherParsed

theorem SameWritten.trans {first second third : Json} (before : SameWritten first second)
    (after : SameWritten second third) (firstParsed : first.wellFormed = true)
    (secondParsed : second.wellFormed = true) (thirdParsed : third.wellFormed = true) :
    SameWritten first third :=
  (stableStringify_eq_iff firstParsed thirdParsed).mp
    ((stableStringify_alike firstParsed secondParsed before).trans
      (stableStringify_alike secondParsed thirdParsed after))

theorem SameWritten.symm {first second : Json} (same : SameWritten first second)
    (firstParsed : first.wellFormed = true) (secondParsed : second.wellFormed = true) :
    SameWritten second first :=
  (stableStringify_eq_iff secondParsed firstParsed).mp
    (stableStringify_alike firstParsed secondParsed same).symm

end Json

end UnifiedService.Library
