import Mathlib.Algebra.GroupWithZero.Nat
import Mathlib.Data.List.DropRight
import UnifiedService.Library.PrefixCode

/-! Strings as ECMAScript measures and trims them. -/

set_option autoImplicit false

namespace UnifiedService.Library

/-- `String.prototype.trim` strips the white space and line terminators of ECMAScript. -/
def isJsSpace (character : Char) : Bool :=
  let code := character.toNat
  (9 ≤ code && code ≤ 13) || code == 32 || code == 0xa0 || code == 0x1680 ||
    (0x2000 ≤ code && code ≤ 0x200a) || code == 0x2028 || code == 0x2029 ||
    code == 0x202f || code == 0x205f || code == 0x3000 || code == 0xfeff

def jsTrim (text : String) : String :=
  String.ofList
    (((text.toList.dropWhile isJsSpace).reverse.dropWhile isJsSpace).reverse)

theorem jsTrim_jsTrim (text : String) : jsTrim (jsTrim text) = jsTrim text := by
  have settled : ∀ letters : List Char,
      ((letters.dropWhile isJsSpace).rdropWhile isJsSpace).dropWhile isJsSpace =
        (letters.dropWhile isJsSpace).rdropWhile isJsSpace := by
    intro letters
    rw [List.dropWhile_eq_self_iff]
    intro nonempty
    have start := List.rdropWhile_prefix isJsSpace (letters.dropWhile isJsSpace)
    rw [start.getElem nonempty]
    exact List.dropWhile_get_zero_not isJsSpace letters (nonempty.trans_le start.length_le)
  have trimmed : ∀ letters : List Char,
      jsTrim (String.ofList letters) =
        String.ofList ((letters.dropWhile isJsSpace).rdropWhile isJsSpace) := by
    intro letters
    rw [jsTrim, String.toList_ofList, List.rdropWhile]
  rw [← String.ofList_toList (s := text), trimmed, trimmed, settled, List.rdropWhile_idempotent]

/-- `String.prototype.length` counts UTF-16 units. -/
def jsLength (text : String) : Nat :=
  (text.toList.map fun character => if character.toNat < 0x10000 then 1 else 2).sum

/-- The longest beginning of so many UTF-16 units. -/
def jsTake (limit : Nat) (text : String) : String :=
  String.ofList (((text.toList.inits).filter fun start =>
    jsLength (String.ofList start) ≤ limit).getLastD [])

/-- The UTF-16 units of a string, which its comparison goes by. -/
def jsUnits (text : String) : List Nat :=
  text.toList.flatMap fun character =>
    if character.toNat < 0x10000 then [character.toNat]
    else [0xd800 + (character.toNat - 0x10000) / 0x400, 0xdc00 + (character.toNat - 0x10000) % 0x400]

theorem toNat_range (character : Char) :
    character.toNat < 0xd800 ∨ (0xdfff < character.toNat ∧ character.toNat < 0x110000) :=
  character.valid

theorem jsUnits_injective {first second : String} (same : jsUnits first = jsUnits second) :
    first = second := by
  have units : List.Forall₂ (· = ·) first.toList second.toList ∧ ([] : List Nat) = [] := by
    refine flatMap_unique (· = []) (fun _ _ => trivial) (fun _ _ => trivial) ?_ ?_ rfl rfl
      ((List.append_nil _).trans (same.trans (List.append_nil _).symm))
    · intro character rest empty
      split at empty
      · cases empty
      · cases empty
    · intro character _ other _ rest otherRest _ _ same
      have range := toNat_range character
      have otherRange := toNat_range other
      dsimp only at same
      split at same
      · split at same
        · exact ⟨Char.toNat_inj.mp (List.cons.inj same).1, (List.cons.inj same).2⟩
        · simp only [List.cons_append, List.cons.injEq] at same
          omega
      · split at same
        · simp only [List.cons_append, List.cons.injEq] at same
          omega
        · simp only [List.cons_append, List.nil_append, List.cons.injEq] at same
          obtain ⟨high, low, rests⟩ := same
          refine ⟨Char.toNat_inj.mp ?_, rests⟩
          omega
  rw [List.forall₂_eq_eq_eq] at units
  exact String.toList_inj.mp units.1

end UnifiedService.Library
