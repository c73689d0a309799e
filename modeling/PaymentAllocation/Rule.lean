import PaymentAllocation.Failure
import PaymentAllocation.Occurrences
import PaymentAllocation.Slot
import PaymentAllocation.Terms

/-!
# Compiled rules

A `Rule` says, for one type of transaction, which slots are paid in which order. Taken on its own
it must name at least one slot and none twice (`Rule.findings`).
-/

namespace PaymentAllocation

/-- The order in which the slots are paid by one type of transaction. -/
structure Rule where
  transactionType : TransactionType
  futureRule : FutureRule
  slots : List Slot
  deriving DecidableEq, Repr

namespace Rule

/-- The finding that the rule names no slot. -/
private def noSlots : Finding :=
  ⟨"allocationTypes", "Allocation order cannot be empty", some "non_empty_order", none⟩

/-- The finding that the rule has named the slot before. -/
private def slotRepeated (slot : Slot) : Finding :=
  ⟨"allocationTypes", "Allocation type appears more than once", some "unique_allocation_type",
    some slot.name⟩

/-- What is wrong with the rule on its own. -/
def findings (rule : Rule) : List Finding :=
  (if rule.slots.isEmpty then [noSlots] else []) ++
    (laterOccurrences [] rule.slots).map slotRepeated

/-- Fails with all that is wrong with the rule on its own. -/
def check (rule : Rule) : Except Failure Unit := Failure.ofFindings rule.findings

end Rule

end PaymentAllocation
