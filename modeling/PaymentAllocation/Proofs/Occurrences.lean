import Mathlib.Data.List.Enum
import Mathlib.Data.List.Induction
import Mathlib.Data.List.Nodup
import PaymentAllocation.Occurrences

/-!
# First and later occurrences

`firstOccurrences []` is `List.eraseDups` (`firstOccurrences_nil`), which keeps the first of equal
elements: those that stand behind no equal one (`firstOccurrences_eq_zipIdx`). `laterOccurrences []`
are the elements that do (`laterOccurrences_nil`), so there are none exactly if nothing is repeated
(`laterOccurrences_eq_nil_iff`). Together they are the list (`perm_first_append_later`).

Both read a list from any point on, given what they have seen (`firstOccurrences_append`,
`laterOccurrences_append`), and what has been seen only takes away (`firstOccurrences_append_seen`).

Where a list is made of blocks that share no element, one for each tag, both act on each block
alone (`eraseDups_blocks`, `laterOccurrences_blocks`); this is what an expansion of a base order
relies on.

Walks along a list that keep what they have `seen` share one invariant, `IsFresh seen list`, and
`isFresh_cons_iff` is its step.
-/

namespace PaymentAllocation

variable {α β γ : Type}

/-! ## Fresh elements -/

/-- The elements of `list` are different, and none of them is in `seen`. -/
def IsFresh (seen list : List α) : Prop := list.Nodup ∧ ∀ a ∈ list, a ∉ seen

@[simp] theorem isFresh_nil (seen : List α) : IsFresh seen [] := by
  simp [IsFresh]

@[simp] theorem isFresh_nil_iff {list : List α} : IsFresh [] list ↔ list.Nodup := by
  simp [IsFresh]

/-- An element that has not been seen may be counted as seen from there on. -/
theorem isFresh_cons_iff {seen list : List α} {a : α} :
    IsFresh seen (a :: list) ↔ a ∉ seen ∧ IsFresh (a :: seen) list := by
  rw [IsFresh, List.nodup_cons, List.forall_mem_cons]
  constructor
  · rintro ⟨⟨hnew, nodup⟩, ha, fresh⟩
    refine ⟨ha, nodup, fun b hb hseen => ?_⟩
    rcases List.mem_cons.1 hseen with rfl | hseen
    · exact hnew hb
    · exact fresh b hb hseen
  · rintro ⟨ha, nodup, fresh⟩
    have hnew : a ∉ list := fun h => fresh a h (by simp)
    exact ⟨⟨hnew, nodup⟩, ha, fun b hb hseen => fresh b hb (List.mem_cons_of_mem _ hseen)⟩

/-! ## Blocks -/

/-- Blocks of other tags share nothing with the block of a tag, provided that tag and element can
be told from what is in the list. -/
theorem not_mem_block {f : γ → α → β} (hf : ∀ c a c' a', f c a = f c' a' → c = c' ∧ a = a')
    {list : List α} {c : γ} {others : List γ} (hc : c ∉ others) :
    ∀ b ∈ others.flatMap fun c' => list.map (f c'), b ∉ list.map (f c) := by
  intro b hb h
  obtain ⟨c', hc', hb⟩ := List.mem_flatMap.1 hb
  obtain ⟨a', -, rfl⟩ := List.mem_map.1 hb
  obtain ⟨a, -, same⟩ := List.mem_map.1 h
  exact hc ((hf _ _ _ _ same).1 ▸ hc')

/-- In blocks of one length, the place of an element follows from its block and its place there. -/
theorem zipIdx_blocks (f : γ → α → β) (list : List α) (tags : List γ) (start : Nat) :
    (tags.flatMap fun c => list.map (f c)).zipIdx (start * list.length) =
      (tags.zipIdx start).flatMap fun (c, k) =>
        list.zipIdx.map fun (a, j) => (f c a, k * list.length + j) := by
  induction tags generalizing start with
  | nil => rfl
  | cons c rest ih =>
    have next : start * list.length + (list.map (f c)).length = (start + 1) * list.length := by
      rw [List.length_map, Nat.succ_mul]
    rw [List.flatMap_cons, List.zipIdx_append, next, ih, List.zipIdx_cons, List.flatMap_cons,
      List.zipIdx_map, List.zipIdx_eq_map_add, List.map_map]
    rfl

/-! ## First occurrences -/

variable [DecidableEq α] [DecidableEq β]

theorem firstOccurrences_eq (seen list : List α) :
    firstOccurrences seen list = (list.filter (· ∉ seen)).eraseDups := by
  induction list generalizing seen with
  | nil => rfl
  | cons a rest ih =>
    by_cases h : a ∈ seen
    · rw [firstOccurrences, if_pos h, ih, List.filter_cons_of_neg (by simpa using h)]
    · rw [firstOccurrences, if_neg h, ih, List.filter_cons_of_pos (by simpa using h),
        List.eraseDups_cons, List.filter_filter]
      congr 3
      funext b
      by_cases hb : b = a <;> simp [hb]

theorem firstOccurrences_nil (list : List α) : firstOccurrences [] list = list.eraseDups := by
  rw [firstOccurrences_eq, List.filter_eq_self.2 (by simp)]

/-- It only matters which elements have been seen. -/
theorem firstOccurrences_congr {seen seen' : List α} (h : ∀ a, a ∈ seen ↔ a ∈ seen')
    (list : List α) : firstOccurrences seen list = firstOccurrences seen' list := by
  simp only [firstOccurrences_eq, h]

theorem firstOccurrences_append (seen list list' : List α) :
    firstOccurrences seen (list ++ list') =
      firstOccurrences seen list ++ firstOccurrences (list ++ seen) list' := by
  induction list generalizing seen with
  | nil => rfl
  | cons a rest ih =>
    rw [List.cons_append, firstOccurrences, firstOccurrences, ih, ih]
    split_ifs with h
    · have same (b : α) : b ∈ rest ++ seen ↔ b ∈ a :: rest ++ seen := by
        by_cases hb : b = a <;> simp [hb, h]
      rw [firstOccurrences_congr same]
    · have same (b : α) : b ∈ rest ++ a :: seen ↔ b ∈ a :: rest ++ seen := by
        simp [or_left_comm]
      rw [firstOccurrences_congr same]
      rfl

/-- What has been seen in addition is taken out of what is left. -/
theorem firstOccurrences_append_seen (more seen list : List α) :
    firstOccurrences (more ++ seen) list =
      (firstOccurrences seen list).filter (· ∉ more) := by
  induction list generalizing seen with
  | nil => rfl
  | cons a rest ih =>
    rw [firstOccurrences, firstOccurrences]
    by_cases h : a ∈ seen
    · rw [if_pos h, if_pos (by simp [h]), ih]
    · rw [if_neg h, List.filter_cons, ← ih]
      by_cases hmore : a ∈ more
      · have same (b : α) : b ∈ more ++ seen ↔ b ∈ more ++ a :: seen := by
          by_cases hb : b = a <;> simp [hb, hmore]
        simp [hmore, firstOccurrences_congr same]
      · have same (b : α) : b ∈ a :: (more ++ seen) ↔ b ∈ more ++ a :: seen := by
          simp [or_left_comm]
        simp [hmore, h, firstOccurrences_congr same]

/-- The first occurrences are the elements that stand behind no equal one. -/
theorem firstOccurrences_eq_zipIdx (list : List α) :
    firstOccurrences [] list =
      (list.zipIdx.filter fun (a, place) => a ∉ list.take place).map Prod.fst := by
  induction list using List.reverseRecOn with
  | nil => rfl
  | append_singleton list a ih =>
    have earlier : (list.zipIdx.filter fun (b, place) => b ∉ (list ++ [a]).take place) =
        list.zipIdx.filter fun (b, place) => b ∉ list.take place := by
      refine List.filter_congr fun (b, place) hpair => ?_
      have hlt : place < list.length := List.snd_lt_of_mem_zipIdx hpair
      simp only [List.take_append_of_le_length (Nat.le_of_lt hlt)]
    rw [firstOccurrences_append, ih, List.zipIdx_append, List.filter_append, earlier,
      List.map_append]
    by_cases h : a ∈ list <;> simp [firstOccurrences, h]

theorem isFresh_firstOccurrences (seen list : List α) :
    IsFresh seen (firstOccurrences seen list) := by
  induction list generalizing seen with
  | nil => simp [firstOccurrences]
  | cons a rest ih =>
    rw [firstOccurrences]
    split_ifs with h
    · exact ih seen
    · exact isFresh_cons_iff.2 ⟨h, ih (a :: seen)⟩

theorem nodup_eraseDups (list : List α) : list.eraseDups.Nodup := by
  rw [← firstOccurrences_nil]
  exact (isFresh_firstOccurrences [] list).1

theorem eraseDups_eq_self {list : List α} (nodup : list.Nodup) : list.eraseDups = list := by
  induction list with
  | nil => rfl
  | cons a rest ih =>
    obtain ⟨fresh, nodup⟩ := List.nodup_cons.1 nodup
    have kept : (rest.filter fun b => !b == a) = rest := by
      refine List.filter_eq_self.2 fun b hb => ?_
      have : b ≠ a := fun h => fresh (h ▸ hb)
      simpa using this
    rw [List.eraseDups_cons, kept, ih nodup]

theorem eraseDups_map {f : α → β} (hf : Function.Injective f) (list : List α) :
    (list.map f).eraseDups = list.eraseDups.map f := by
  induction list using List.reverseRecOn with
  | nil => rfl
  | append_singleton list a ih =>
    rw [List.map_append, List.eraseDups_append, List.eraseDups_append, List.map_append, ih]
    by_cases h : a ∈ list
    · simp [List.removeAll, h, hf.eq_iff]
    · simp [List.removeAll, h, hf.eq_iff, List.eraseDups_cons]

/-- The first occurrences in blocks, one for each tag, are those in each block. -/
theorem eraseDups_blocks {f : γ → α → β} (hf : ∀ c a c' a', f c a = f c' a' → c = c' ∧ a = a')
    (list : List α) {tags : List γ} (htags : tags.Nodup) :
    (tags.flatMap fun c => list.map (f c)).eraseDups =
      tags.flatMap fun c => list.eraseDups.map (f c) := by
  induction tags with
  | nil => rfl
  | cons c rest ih =>
    obtain ⟨hc, hrest⟩ := List.nodup_cons.1 htags
    have disjoint : (rest.flatMap fun c => list.map (f c)).removeAll (list.map (f c)) =
        rest.flatMap fun c => list.map (f c) :=
      List.filter_eq_self.2 fun b hb => by simpa using not_mem_block hf hc b hb
    rw [List.flatMap_cons, List.flatMap_cons, List.eraseDups_append, disjoint, ih hrest,
      eraseDups_map fun a a' h => (hf _ _ _ _ h).2]

/-! ## Later occurrences -/

theorem laterOccurrences_eq (seen list : List α) :
    laterOccurrences seen list =
      (list.zipIdx.filter fun (a, place) => a ∈ seen ∨ a ∈ list.take place).map Prod.fst := by
  induction list generalizing seen with
  | nil => rfl
  | cons a rest ih =>
    have shift : (a :: rest).zipIdx =
        (a, 0) :: rest.zipIdx.map fun (b, place) => (b, place + 1) := by
      rw [List.zipIdx_cons, List.zipIdx_succ]
    rw [laterOccurrences, shift, List.filter_cons, List.filter_map, ih, ih]
    by_cases h : a ∈ seen
    · have same (b : α) (place : Nat) :
          (b ∈ seen ∨ b ∈ rest.take place) ↔ b ∈ seen ∨ b ∈ (a :: rest).take (place + 1) := by
        by_cases hb : b = a <;> simp [hb, h]
      simp [h, Function.comp_def, same]
    · simp only [h, if_false, List.take_zero, List.not_mem_nil, or_self, decide_false,
        Bool.false_eq_true, List.map_map, List.take_succ_cons, List.mem_cons, or_assoc,
        or_left_comm, Function.comp_def]

theorem laterOccurrences_nil (list : List α) :
    laterOccurrences [] list =
      (list.zipIdx.filter fun (a, place) => a ∈ list.take place).map Prod.fst := by
  simp [laterOccurrences_eq]

theorem laterOccurrences_eq_nil_iff_isFresh (seen list : List α) :
    laterOccurrences seen list = [] ↔ IsFresh seen list := by
  induction list generalizing seen with
  | nil => simp [laterOccurrences]
  | cons a rest ih =>
    rw [laterOccurrences, isFresh_cons_iff]
    split_ifs with h
    · simp [h]
    · rw [ih, and_iff_right h]

theorem laterOccurrences_eq_nil_iff {list : List α} :
    laterOccurrences [] list = [] ↔ list.Nodup :=
  (laterOccurrences_eq_nil_iff_isFresh [] list).trans isFresh_nil_iff

theorem perm_first_append_later (seen list : List α) :
    (firstOccurrences seen list ++ laterOccurrences seen list).Perm list := by
  induction list generalizing seen with
  | nil => exact .nil
  | cons a rest ih =>
    rw [firstOccurrences, laterOccurrences]
    split_ifs
    · exact List.perm_middle.trans ((ih seen).cons a)
    · exact (ih (a :: seen)).cons a

theorem length_eraseDups_le (list : List α) : list.eraseDups.length ≤ list.length := by
  have hlength := (perm_first_append_later [] list).length_eq
  rw [List.length_append, firstOccurrences_nil] at hlength
  omega

/-- Of an element all occurrences but the first are later ones. -/
theorem count_laterOccurrences (a : α) (list : List α) :
    (laterOccurrences [] list).count a = list.count a - 1 := by
  have parts := (perm_first_append_later [] list).count_eq a
  rw [List.count_append, firstOccurrences_nil] at parts
  by_cases h : a ∈ list
  · have once : list.eraseDups.count a = 1 :=
      List.count_eq_one_of_mem (nodup_eraseDups list) (List.mem_eraseDups.2 h)
    omega
  · rw [List.count_eq_zero_of_not_mem h] at parts ⊢
    omega

/-- It only matters which elements have been seen. -/
theorem laterOccurrences_congr {seen seen' : List α} (h : ∀ a, a ∈ seen ↔ a ∈ seen')
    (list : List α) : laterOccurrences seen list = laterOccurrences seen' list := by
  simp only [laterOccurrences_eq, h]

theorem laterOccurrences_append (seen list list' : List α) :
    laterOccurrences seen (list ++ list') =
      laterOccurrences seen list ++ laterOccurrences (list ++ seen) list' := by
  induction list generalizing seen with
  | nil => rfl
  | cons a rest ih =>
    rw [List.cons_append, laterOccurrences, laterOccurrences, ih, ih]
    split_ifs with h
    · have same (b : α) : b ∈ rest ++ seen ↔ b ∈ a :: rest ++ seen := by
        by_cases hb : b = a <;> simp [hb, h]
      rw [laterOccurrences_congr same]
      rfl
    · have same (b : α) : b ∈ rest ++ a :: seen ↔ b ∈ a :: rest ++ seen := by
        simp [or_left_comm]
      rw [laterOccurrences_congr same]

theorem laterOccurrences_of_disjoint {seen list : List α} (h : ∀ a ∈ list, a ∉ seen) :
    laterOccurrences seen list = laterOccurrences [] list := by
  rw [laterOccurrences_eq, laterOccurrences_nil]
  refine congrArg _ (List.filter_congr fun pair hpair => ?_)
  simp [h pair.1 (List.fst_mem_of_mem_zipIdx hpair)]

theorem laterOccurrences_map {f : α → β} (hf : Function.Injective f) (seen list : List α) :
    laterOccurrences (seen.map f) (list.map f) = (laterOccurrences seen list).map f := by
  induction list generalizing seen with
  | nil => rfl
  | cons a rest ih =>
    have hmem : f a ∈ seen.map f ↔ a ∈ seen := List.mem_map_of_injective hf
    by_cases h : a ∈ seen
    · rw [List.map_cons, laterOccurrences, laterOccurrences, if_pos (hmem.2 h), if_pos h, ih,
        List.map_cons]
    · rw [List.map_cons, laterOccurrences, laterOccurrences, if_neg (mt hmem.1 h), if_neg h,
        ← List.map_cons, ih]

/-- The later occurrences in blocks, one for each tag, are those in each block. -/
theorem laterOccurrences_blocks {f : γ → α → β}
    (hf : ∀ c a c' a', f c a = f c' a' → c = c' ∧ a = a') (list : List α) {tags : List γ}
    (htags : tags.Nodup) :
    laterOccurrences [] (tags.flatMap fun c => list.map (f c)) =
      tags.flatMap fun c => (laterOccurrences [] list).map (f c) := by
  induction tags with
  | nil => rfl
  | cons c rest ih =>
    obtain ⟨hc, hrest⟩ := List.nodup_cons.1 htags
    have block : laterOccurrences [] (list.map (f c)) = (laterOccurrences [] list).map (f c) :=
      laterOccurrences_map (fun a a' h => (hf _ _ _ _ h).2) [] list
    rw [List.flatMap_cons, List.flatMap_cons, laterOccurrences_append, List.append_nil,
      laterOccurrences_of_disjoint (not_mem_block hf hc), ih hrest, block]

end PaymentAllocation
