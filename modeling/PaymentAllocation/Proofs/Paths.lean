import Mathlib.Data.List.Basic
import PaymentAllocation.Assembly

/-!
# Paths of fields

The path of a field of a request starts with the index of the request, which can be read off it: the
digits end at the first bracket (`requestField_isPrefix_iff`). So a finding about a field of a
request tells which request it is about (`Finding.IsAbout`), and one about the name in an entry also
tells the position of the entry (`slotField_inj`).
-/

namespace PaymentAllocation

/-- The field of the finding belongs to the request at an index. -/
def Finding.IsAbout (index : Nat) (finding : Finding) : Prop :=
  (requestField index "").toList <+: finding.field.toList

instance (index : Nat) : DecidablePred (Finding.IsAbout index) := fun finding =>
  inferInstanceAs (Decidable ((requestField index "").toList <+: finding.field.toList))

theorem index_inj {index index' : Nat}
    (h : (toString index).toList = (toString index').toList) : index = index' := by
  have digits := congrArg (fun cs => Nat.ofDigitChars 10 cs 0) h
  simpa [Nat.toString_eq_repr, Nat.toList_repr] using digits

theorem bracket_notMem_index (index : Nat) : ']' ∉ (toString index).toList := by
  intro h
  rw [Nat.toString_eq_repr, Nat.toList_repr] at h
  have digit := Nat.isDigit_of_mem_toDigits (by decide) (by decide) h
  exact absurd digit (by decide)

/-- What stands before the first `c` is the same in a text and in one that goes on from it. -/
theorem eq_of_append_isPrefix {c : Char} {before before' behind behind' : List Char}
    (h : c ∉ before) (h' : c ∉ before')
    (hstart : before ++ c :: behind <+: before' ++ c :: behind') : before = before' := by
  have upTo {before : List Char} (h : c ∉ before) (behind : List Char) :
      (before ++ c :: behind).takeWhile (· ≠ c) = before := by
    rw [List.takeWhile_append_of_pos fun a ha => by simpa using fun heq : a = c => h (heq ▸ ha)]
    simp
  obtain ⟨rest, hrest⟩ := hstart
  rw [List.append_assoc, List.cons_append] at hrest
  have same := congrArg (List.takeWhile (· ≠ c)) hrest
  rwa [upTo h, upTo h'] at same

theorem toList_requestField (index : Nat) (name : String) :
    (requestField index name).toList =
      "paymentAllocation[".toList ++ ((toString index).toList ++ ']' :: '.' :: name.toList) := by
  -- stated for any texts, so that no tactic evaluates the literal ones
  have path (opening number : String) : (opening ++ number ++ "]." ++ name).toList =
      opening.toList ++ (number.toList ++ ']' :: '.' :: name.toList) := by
    simp
  exact path _ _

theorem requestField_isPrefix_iff {index index' : Nat} {name : String} :
    (requestField index "").toList <+: (requestField index' name).toList ↔ index = index' := by
  rw [toList_requestField, toList_requestField, List.prefix_append_right_inj]
  constructor
  · intro h
    exact index_inj
      (eq_of_append_isPrefix (bracket_notMem_index index) (bracket_notMem_index index') h)
  · rintro rfl
    rw [List.prefix_append_right_inj]
    exact ⟨name.toList, rfl⟩

theorem Finding.isAbout_iff {index index' : Nat} {name : String} {finding : Finding}
    (h : finding.field = requestField index' name) : finding.IsAbout index ↔ index = index' := by
  rw [IsAbout, h, requestField_isPrefix_iff]

theorem requestField_inj {index index' : Nat} {name name' : String} :
    requestField index name = requestField index' name' ↔ index = index' ∧ name = name' := by
  constructor
  · intro h
    have hstart : (requestField index "").toList <+: (requestField index name).toList :=
      requestField_isPrefix_iff.2 rfl
    rw [h] at hstart
    obtain rfl := requestField_isPrefix_iff.1 hstart
    have same := congrArg String.toList h
    rw [toList_requestField, toList_requestField] at same
    simpa [String.toList_inj] using same
  · rintro ⟨rfl, rfl⟩
    rfl

theorem orderField_inj {index index' : Nat} :
    orderField index = orderField index' ↔ index = index' := by
  rw [orderField, orderField, requestField_inj, and_iff_left rfl]

theorem slotField_inj {index index' position position' : Nat} :
    slotField index position = slotField index' position' ↔
      index = index' ∧ position = position' := by
  -- stated for any texts, as above
  have path (opening number closing : String) : (opening ++ number ++ ("]" ++ closing)).toList =
      opening.toList ++ (number.toList ++ ']' :: closing.toList) := by
    simp
  have entry (position : Nat) : "paymentAllocationOrder[" ++ toString position ++
      "].paymentAllocationRule" =
        "paymentAllocationOrder[" ++ toString position ++ ("]" ++ ".paymentAllocationRule") := rfl
  rw [slotField, slotField, requestField_inj]
  refine and_congr_right fun _ => ?_
  constructor
  · intro h
    rw [entry, entry] at h
    have same := congrArg String.toList h
    rw [path, path, List.append_cancel_left_eq] at same
    have digits := eq_of_append_isPrefix (bracket_notMem_index position)
      (bracket_notMem_index position') ⟨[], (List.append_nil _).trans same⟩
    exact index_inj digits
  · rintro rfl
    rfl

end PaymentAllocation
