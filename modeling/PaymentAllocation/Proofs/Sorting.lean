import Mathlib.Data.List.Nodup
import Mathlib.Data.List.Sort
import PaymentAllocation.Order

/-!
# Sorting by a key

`sortBy` is insertion sort for the order that a key induces, so what is known of that sort carries
over. A list whose keys ascend is its own result (`sortBy_eq_self`), and where no key is repeated
the result does not depend on the sequence of the list (`sortBy_eq_of_perm`).

`IsStableSort` says what the result of a sort must be, without a word on how it is found: elements
by ascending key, and those with equal keys by their place. There is one such result, the one that
`sortBy` finds (`isStableSort_iff`).
-/

namespace PaymentAllocation

variable {α β : Type} (key : α → Int)

/-- The order that a key induces. -/
def KeyLE (a b : α) : Prop := key a ≤ key b

instance : DecidableRel (KeyLE key) := fun a b => inferInstanceAs (Decidable (key a ≤ key b))

instance : Std.Total (KeyLE key) := ⟨fun a b => Int.le_total (key a) (key b)⟩

instance : IsTrans α (KeyLE key) := ⟨fun _ _ _ => Int.le_trans⟩

theorem insertBy_eq_orderedInsert (a : α) (list : List α) :
    insertBy key a list = list.orderedInsert (KeyLE key) a := by
  induction list with
  | nil => rfl
  | cons b rest ih =>
    rw [insertBy, List.orderedInsert_cons, ih]
    rfl

theorem sortBy_eq_insertionSort (list : List α) :
    sortBy key list = list.insertionSort (KeyLE key) := by
  induction list with
  | nil => rfl
  | cons a rest ih => rw [sortBy, ih, insertBy_eq_orderedInsert, List.insertionSort_cons]

theorem sortBy_perm (list : List α) : (sortBy key list).Perm list := by
  rw [sortBy_eq_insertionSort]
  exact List.perm_insertionSort _ list

@[simp] theorem mem_sortBy {list : List α} {a : α} : a ∈ sortBy key list ↔ a ∈ list :=
  (sortBy_perm key list).mem_iff

@[simp] theorem length_sortBy (list : List α) : (sortBy key list).length = list.length :=
  (sortBy_perm key list).length_eq

theorem sortBy_pairwise (list : List α) : (sortBy key list).Pairwise (key · ≤ key ·) := by
  rw [sortBy_eq_insertionSort]
  exact List.pairwise_insertionSort (KeyLE key) list

theorem sortBy_eq_self {list : List α} (h : list.Pairwise (key · ≤ key ·)) :
    sortBy key list = list := by
  rw [sortBy_eq_insertionSort]
  exact List.Pairwise.insertionSort_eq (r := KeyLE key) h

/-- Where keys tell elements apart, the sequence of the elements does not matter. -/
theorem sortBy_eq_of_perm {list list' : List α} (h : list.Perm list')
    (tells : ∀ a ∈ list, ∀ b ∈ list, key a = key b → a = b) :
    sortBy key list = sortBy key list' := by
  have perm : (sortBy key list).Perm (sortBy key list') :=
    (sortBy_perm key list).trans (h.trans (sortBy_perm key list').symm)
  refine List.Perm.eq_of_pairwise (fun a b ha hb hab hba => ?_) (sortBy_pairwise key list)
    (sortBy_pairwise key list') perm
  exact tells a ((mem_sortBy key).1 ha) b (h.mem_iff.2 ((mem_sortBy key).1 hb))
    (Int.le_antisymm hab hba)

/-- Sorting commutes with a function that does not touch the keys. -/
theorem sortBy_map (f : β → α) (list : List β) :
    sortBy key (list.map f) = (sortBy (fun b => key (f b)) list).map f := by
  simp only [sortBy_eq_insertionSort]
  exact (List.map_insertionSort _ _ f list fun _ _ _ _ => Iff.rfl).symm

theorem map_fst_sortBy_zipIdx (list : List α) :
    (sortBy (fun a : α × Nat => key a.1) list.zipIdx).map Prod.fst = sortBy key list := by
  rw [← sortBy_map key Prod.fst, List.zipIdx_map_fst]

/-! ## Stability -/

/-- `sorted` is `list` by ascending key, with elements of equal keys in their sequence: it comes
from the elements of `list` and their places, ordered by key and then by place. -/
def IsStableSort (list sorted : List α) : Prop :=
  ∃ placed : List (α × Nat), placed.Perm list.zipIdx ∧
    (placed.Pairwise fun a b => key a.1 < key b.1 ∨ key a.1 = key b.1 ∧ a.2 < b.2) ∧
    sorted = placed.map Prod.fst

theorem insertBy_stable {r : α → α → Prop} {a : α} {list : List α} (before : ∀ b ∈ list, r a b)
    (h : list.Pairwise fun a b => key a < key b ∨ key a = key b ∧ r a b) :
    (insertBy key a list).Pairwise fun a b => key a < key b ∨ key a = key b ∧ r a b := by
  induction list with
  | nil => exact List.pairwise_singleton _ a
  | cons b rest ih =>
    obtain ⟨first, h⟩ := List.pairwise_cons.1 h
    rw [insertBy]
    split_ifs with hle
    · -- `a` comes first, and by `hbc` its key is no larger than any behind it
      refine List.pairwise_cons.2 ⟨fun c hc => ?_, List.pairwise_cons.2 ⟨first, h⟩⟩
      have hbc : key b ≤ key c := by
        rcases List.mem_cons.1 hc with rfl | hc
        · exact Int.le_refl _
        · rcases first c hc with hlt | ⟨heq, -⟩ <;> omega
      rcases Int.lt_or_eq_of_le (Int.le_trans hle hbc) with hlt | heq
      · exact .inl hlt
      · exact .inr ⟨heq, before c hc⟩
    · refine List.pairwise_cons.2 ⟨fun c hc => ?_, ih (List.forall_mem_cons.1 before).2 h⟩
      rw [insertBy_eq_orderedInsert, List.mem_orderedInsert] at hc
      rcases hc with rfl | hc
      · exact .inl (by omega)
      · exact first c hc

/-- What holds of elements by their sequence still holds of those with equal keys. -/
theorem sortBy_stable {r : α → α → Prop} {list : List α} (h : list.Pairwise r) :
    (sortBy key list).Pairwise fun a b => key a < key b ∨ key a = key b ∧ r a b := by
  induction list with
  | nil => exact .nil
  | cons a rest ih =>
    obtain ⟨before, h⟩ := List.pairwise_cons.1 h
    exact insertBy_stable key (fun b hb => before b ((mem_sortBy key).1 hb)) (ih h)

theorem isStableSort_iff {list sorted : List α} :
    IsStableSort key list sorted ↔ sorted = sortBy key list := by
  have places : list.zipIdx.Pairwise fun a b : α × Nat => a.2 < b.2 := by
    rw [← List.pairwise_map (f := Prod.snd), List.zipIdx_map_snd]
    exact List.pairwise_lt_range'
  have perm := sortBy_perm (fun a : α × Nat => key a.1) list.zipIdx
  have strict := sortBy_stable (fun a : α × Nat => key a.1) places
  constructor
  · rintro ⟨placed, hperm, hstrict, rfl⟩
    refine (congrArg _ ?_).trans (map_fst_sortBy_zipIdx key list)
    refine List.Perm.eq_of_pairwise (fun a b _ _ hab hba => ?_) hstrict strict
      (hperm.trans perm.symm)
    omega
  · rintro rfl
    exact ⟨_, perm, strict, (map_fst_sortBy_zipIdx key list).symm⟩

theorem exists_isStableSort {list : List α} {p : List α → Prop} :
    (∃ sorted, IsStableSort key list sorted ∧ p sorted) ↔ p (sortBy key list) := by
  simp only [isStableSort_iff, exists_eq_left]

end PaymentAllocation
