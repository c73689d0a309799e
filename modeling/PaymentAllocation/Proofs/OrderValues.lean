import Mathlib.Data.List.Perm.Subperm
import Mathlib.Data.List.Sort
import PaymentAllocation.Proofs.Sorting
import PaymentAllocation.Validation

/-!
# Order values that run from 1

`consecutive first n` are the `n` integers from `first` on. Integers are a permutation of 1, 2, …, N
unless one is repeated, is not positive, or has none before it (`misnumbered_iff`). The scan over
sorted order values has nothing to say exactly if the values are such a permutation
(`orderViolations_eq_nil_iff`). The successor of an order value stays in range by standing still at
the largest one; a scan that has come that far finds no further value that it could accept
(`orderScan_eq_nil_iff`), so this does not let anything pass.
-/

namespace PaymentAllocation

/-! ## Order values as integers -/

namespace Order

theorem value_injective : Function.Injective value := fun _ _ => eq_of_value

@[simp] theorem value_inj {a b : Order} : a.value = b.value ↔ a = b := value_injective.eq_iff

theorem value_ofNat (n : Nat) : (ofNat n).value = min (n : Int) 0x7fffffffffffffff := by
  unfold ofNat
  split
  · dsimp only
    omega
  · simp only [largest]
    omega

theorem value_ofNat_of_lt {n : Nat} (h : (n : Int) < 0x8000000000000000) : (ofNat n).value = n := by
  rw [value_ofNat]
  omega

theorem value_next (order : Order) :
    order.next.value = min (order.value + 1) 0x7fffffffffffffff := by
  have := order.upper
  unfold next
  split
  · dsimp only
    omega
  · omega

@[simp] theorem value_one : one.value = 1 := value_ofNat_of_lt (by decide)

/-- The integer after an order value is an order value only where the range goes on, and then it
is the successor. -/
theorem value_eq_add_one_iff {previous order : Order} :
    order.value = previous.value + 1 ↔ order = previous.next ∧ order ≠ previous := by
  rw [← value_inj, value_next, ne_eq, ← value_inj]
  have := order.upper
  have := previous.upper
  omega

end Order

/-! ## Consecutive integers -/

/-- The `n` integers from `first` on. -/
def consecutive (first : Int) (n : Nat) : List Int := (List.range n).map fun i : Nat => first + i

@[simp] theorem consecutive_zero (first : Int) : consecutive first 0 = [] := rfl

theorem consecutive_succ (first : Int) (n : Nat) :
    consecutive first (n + 1) = first :: consecutive (first + 1) n := by
  rw [consecutive, consecutive, List.range_succ_eq_map, List.map_cons, List.map_map]
  refine congrArg₂ List.cons (by simp) (List.map_congr_left fun i _ => ?_)
  rw [Function.comp_apply]
  omega

@[simp] theorem length_consecutive (first : Int) (n : Nat) : (consecutive first n).length = n := by
  simp [consecutive]

theorem consecutive_strict (first : Int) (n : Nat) : (consecutive first n).Pairwise (· < ·) :=
  List.pairwise_map.2 <| List.pairwise_lt_range.imp fun h => by omega

theorem nodup_consecutive (first : Int) (n : Nat) : (consecutive first n).Nodup :=
  (consecutive_strict first n).imp fun h => Int.ne_of_lt h

theorem mem_consecutive_iff {first : Int} {n : Nat} {value : Int} :
    value ∈ consecutive first n ↔ first ≤ value ∧ value < first + n := by
  rw [consecutive, List.mem_map]
  constructor
  · rintro ⟨i, hi, rfl⟩
    have := List.mem_range.1 hi
    omega
  · rintro ⟨lower, upper⟩
    refine ⟨(value - first).toNat, List.mem_range.2 ?_, ?_⟩ <;> omega

/-! ## Ways not to run from 1 -/

/-- What keeps integers from being 1, 2, …, N in some sequence. -/
inductive Misnumbered (values : List Int) : Prop
  | repeated (h : ¬values.Nodup)
  | notPositive {value : Int} (h : value ∈ values) (small : value < 1)
  /-- The value before is missing: there is a gap, or the values do not start from 1. -/
  | gap {value : Int} (h : value ∈ values) (large : 1 < value) (missing : value - 1 ∉ values)

/-- Without a gap all integers from 1 up to a value are there as well. -/
theorem consecutive_subset {values : List Int}
    (closed : ∀ value ∈ values, 1 < value → value - 1 ∈ values) {value : Int}
    (h : value ∈ values) : consecutive 1 value.toNat ⊆ values := by
  have below (k : Nat) : 1 ≤ value - k → value - k ∈ values := by
    induction k with
    | zero => simp [h]
    | succ k ih =>
      intro hk
      have previous := closed (value - k) (ih (by omega)) (by omega)
      rwa [show value - (k + 1 : Nat) = value - k - 1 by omega]
  intro other hother
  have hrange := mem_consecutive_iff.1 hother
  have hmem := below (value - other).toNat (by omega)
  rwa [show value - (value - other).toNat = other by omega] at hmem

/-- Integers are 1, 2, …, N in some sequence exactly if they are not misnumbered. -/
theorem misnumbered_iff {values : List Int} :
    Misnumbered values ↔ ¬values.Perm (consecutive 1 values.length) := by
  constructor
  · intro h perm
    have mem (value : Int) : value ∈ values ↔ 1 ≤ value ∧ value < 1 + values.length :=
      perm.mem_iff.trans mem_consecutive_iff
    cases h with
    | repeated h => exact h (perm.nodup_iff.2 (nodup_consecutive 1 _))
    | notPositive h small => exact absurd ((mem _).1 h).1 (by omega)
    | gap h large missing =>
      refine missing ((mem _).2 ?_)
      have := (mem _).1 h
      omega
  · intro h
    by_contra sound
    have nodup : values.Nodup := by
      by_contra hnot
      exact sound (.repeated hnot)
    have closed : ∀ value ∈ values, 1 < value → value - 1 ∈ values := by
      intro value hvalue large
      by_contra missing
      exact sound (.gap hvalue large missing)
    -- what is below a value is among the values, so there is no value above their number
    have inside : values ⊆ consecutive 1 values.length := by
      intro value hvalue
      have positive : 1 ≤ value := by
        by_contra small
        exact sound (.notPositive hvalue (by omega))
      have few := (List.subperm_of_subset (nodup_consecutive 1 value.toNat)
        (consecutive_subset closed hvalue)).length_le
      rw [length_consecutive] at few
      exact mem_consecutive_iff.2 ⟨positive, by omega⟩
    exact h ((List.subperm_of_subset nodup inside).perm_of_length_le (by simp))

/-! ## The scan -/

/-- Behind an order value the scan accepts exactly the integers that go on from it. -/
theorem orderScan_eq_nil_iff (index : Nat) (previous : Order) (orders : List Order) :
    orderScan index previous.next (some previous) orders = [] ↔
      orders.map Order.value = consecutive (previous.value + 1) orders.length := by
  induction orders generalizing previous with
  | nil => simp [orderScan]
  | cons order rest ih =>
    rw [List.map_cons, List.length_cons, consecutive_succ, List.cons.injEq,
      Order.value_eq_add_one_iff, orderScan]
    split_ifs with repeated expected
    · simp_all
    · subst expected
      rw [ih]
      constructor
      · intro h
        -- at the end of the range the successor is a repeat, which was dealt with before
        have hne : previous.next ≠ previous := fun heq => repeated (by rw [heq])
        have hvalue := Order.value_eq_add_one_iff.2 ⟨rfl, hne⟩
        exact ⟨⟨rfl, hne⟩, by rw [h, hvalue]⟩
      · rintro ⟨hnext, h⟩
        rw [h, Order.value_eq_add_one_iff.2 hnext]
    · simp [expected]

theorem orderScan_start_eq_nil_iff (index : Nat) (orders : List Order) :
    orderScan index .one none orders = [] ↔
      orders.map Order.value = consecutive 1 orders.length := by
  cases orders with
  | nil => simp [orderScan]
  | cons order rest =>
    rw [orderScan, if_neg (by simp), List.map_cons, List.length_cons, consecutive_succ,
      List.cons.injEq]
    split_ifs with h
    · subst h
      rw [orderScan_eq_nil_iff, Order.value_one]
      simp
    · have : order.value ≠ 1 := fun hvalue => h (Order.eq_of_value (by simpa using hvalue))
      simp [this]

/-- A list sorts to consecutive integers exactly if it is a permutation of them. -/
theorem sortBy_value_eq_consecutive_iff (orders : List Order) (n : Nat) :
    (sortBy Order.value orders).map Order.value = consecutive 1 n ↔
      (orders.map Order.value).Perm (consecutive 1 n) := by
  have perm := (sortBy_perm Order.value orders).map Order.value
  constructor
  · intro h
    exact h ▸ perm.symm
  · intro h
    refine List.Perm.eq_of_pairwise (fun _ _ _ _ => Int.le_antisymm) ?_
      ((consecutive_strict 1 n).imp Int.le_of_lt) (perm.trans h)
    exact List.pairwise_map.2 (sortBy_pairwise Order.value orders)

/-- **Order values pass exactly if they are a permutation of 1, 2, …, N.** -/
theorem orderViolations_eq_nil_iff (index : Nat) (orders : List Order) :
    orderViolations index orders = [] ↔
      (orders.map Order.value).Perm (consecutive 1 orders.length) := by
  rw [orderViolations, orderScan_start_eq_nil_iff, length_sortBy, sortBy_value_eq_consecutive_iff]

/-- The sequence of the order values does not matter. -/
theorem orderViolations_eq_of_perm (index : Nat) {orders orders' : List Order}
    (h : orders.Perm orders') : orderViolations index orders = orderViolations index orders' := by
  have sorted : sortBy Order.value orders = sortBy Order.value orders' :=
    sortBy_eq_of_perm _ h fun _ _ _ _ => Order.eq_of_value
  rw [orderViolations, orderViolations, sorted]

end PaymentAllocation
