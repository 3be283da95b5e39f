import UnifiedService.Library.Digits
import UnifiedService.Outbound.Inbox

/-! The keys of the ledger tell their causes apart. -/

set_option autoImplicit false

namespace UnifiedService.Outbound

open UnifiedService.Library

theorem outboundDedupKey_toList (platform : Platform) (eventType : OutboundEventType)
    (sourceTable : String) (sourceRowId : Nat) :
    (outboundDedupKey platform eventType sourceTable sourceRowId).toList =
      platform.text.toList ++ ':' :: (eventType.text.toList ++ ':' ::
        sourceTable.toList) ++ ':' :: Nat.toDigits 10 sourceRowId := by
  simp [outboundDedupKey, String.toList_append, Nat.toList_repr]

/-- The row that caused a send can be read off its key. -/
theorem outboundDedupKey_row {platform other : Platform} {eventType another : OutboundEventType}
    {sourceTable table : String} {first second : Nat}
    (same : outboundDedupKey platform eventType sourceTable first =
      outboundDedupKey other another table second) :
    first = second ∧
      platform.text.toList ++ ':' :: (eventType.text.toList ++ ':' :: sourceTable.toList) =
        other.text.toList ++ ':' :: (another.text.toList ++ ':' :: table.toList) := by
  have letters := congrArg String.toList same
  rw [outboundDedupKey_toList, outboundDedupKey_toList] at letters
  obtain ⟨before, digits⟩ := append_cons_last_inj (notMem_toDigits (by decide) first)
    (notMem_toDigits (by decide) second) letters
  exact ⟨toDigits_inj digits, before⟩

end UnifiedService.Outbound
