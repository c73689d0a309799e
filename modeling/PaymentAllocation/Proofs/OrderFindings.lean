import Mathlib.Data.List.Dedup
import PaymentAllocation.Proofs.Decimals
import PaymentAllocation.Proofs.OrderValues

/-!
# What is found about order values

What is found about order values only depends on which values there are and how often each of them
occurs (`PaymentAllocation.orders_judged_by_value`).

* `expectedAt` is what should stand at a value: the successor of the next smaller one, or 1 if
  there is none. `IsMisplaced` says that something else stands there (`isMisplaced_iff`).
* `valueFindings` are the findings at one value: that it is misplaced, and then one for each time
  that it is used again.
* `integerScan` is the scan over integers, which all have a successor. In ascending order the
  successor of an order value is only compared with larger ones, so that it makes no difference
  that the largest one has none (`map_finding_orderScan`).

Ascending integers are made of one run for each value (`exists_runs`), and the scan over a run finds
what there is at its value (`integerScan_run`). Behind it the values above are left, and the next of
them is judged by the value of the run (`IsLeft.tail`).
-/

namespace PaymentAllocation

/-! ## Findings at a value -/

/-- What should stand at a value among others: the successor of the next smaller one, or 1 if there
is none. -/
def expectedAt (values : List Int) (value : Int) : Int :=
  match (values.filter (· < value)).max? with
  | some before => before + 1
  | none => 1

/-- The value is the smallest one and is not 1, or it is not the smallest one and the value before
it is missing. -/
def IsMisplaced (values : List Int) (value : Int) : Prop :=
  ((∀ other ∈ values, value ≤ other) ∧ value ≠ 1) ∨
    ((∃ other ∈ values, other < value) ∧ value - 1 ∉ values)

instance (values : List Int) : DecidablePred (IsMisplaced values) := fun value =>
  inferInstanceAs (Decidable (((∀ other ∈ values, value ≤ other) ∧ value ≠ 1) ∨
    ((∃ other ∈ values, other < value) ∧ value - 1 ∉ values)))

/-- An order value is used again. -/
def usedAgain (field : String) (value : Int) : Finding :=
  ⟨field, "Order value is used more than once", some "unique_order", some (toString value)⟩

/-- An order value stands where another one should. -/
def misplaced (field : String) (expected value : Int) : Finding :=
  ⟨field, "Order values must be consecutive from 1; expected " ++ toString expected,
    some "contiguous_order", some (toString value)⟩

/-- The findings at one of the values. -/
def valueFindings (field : String) (values : List Int) (value : Int) : List Finding :=
  (if IsMisplaced values value then [misplaced field (expectedAt values value) value] else []) ++
    List.replicate (values.count value - 1) (usedAgain field value)

theorem expectedAt_eq_one {values : List Int} {value : Int}
    (least : ∀ other ∈ values, value ≤ other) : expectedAt values value = 1 := by
  have none : values.filter (· < value) = [] := by
    refine List.filter_eq_nil_iff.2 fun other hother => ?_
    have := least other hother
    simp only [decide_eq_true_eq]
    omega
  rw [expectedAt, none]
  rfl

theorem expectedAt_eq_add_one {values : List Int} {before value : Int} (h : before ∈ values)
    (smaller : before < value) (next : ∀ other ∈ values, other < value → other ≤ before) :
    expectedAt values value = before + 1 := by
  have greatest : (values.filter (· < value)).max? = some before := by
    rw [List.max?_eq_some_iff]
    refine ⟨List.mem_filter.2 ⟨h, by simpa using smaller⟩, fun other hother => ?_⟩
    obtain ⟨hmem, hlt⟩ := List.mem_filter.1 hother
    exact next other hmem (by simpa using hlt)
  rw [expectedAt, greatest]

/-- The next smaller of the values, if the value is not the smallest one. -/
theorem exists_before {values : List Int} {value : Int} (h : ∃ other ∈ values, other < value) :
    ∃ before ∈ values, before < value ∧ ∀ other ∈ values, other < value → other ≤ before := by
  cases hmax : (values.filter (· < value)).max? with
  | none =>
    obtain ⟨other, hother, hlt⟩ := h
    have none := List.filter_eq_nil_iff.1 (List.max?_eq_none_iff.1 hmax) other hother
    simp [hlt] at none
  | some before =>
    obtain ⟨hbefore, greatest⟩ := List.max?_eq_some_iff.1 hmax
    obtain ⟨hmem, hlt⟩ := List.mem_filter.1 hbefore
    refine ⟨before, hmem, by simpa using hlt, fun other hother hlt => ?_⟩
    exact greatest other (List.mem_filter.2 ⟨hother, by simpa using hlt⟩)

/-- A value is misplaced exactly if it is not what should stand there. -/
theorem isMisplaced_iff {values : List Int} {value : Int} :
    IsMisplaced values value ↔ value ≠ expectedAt values value := by
  by_cases h : ∃ other ∈ values, other < value
  · have notLeast : ¬∀ other ∈ values, value ≤ other := by
      obtain ⟨other, hother, hlt⟩ := h
      intro least
      have := least other hother
      omega
    obtain ⟨before, hbefore, smaller, next⟩ := exists_before h
    have missing : value - 1 ∉ values ↔ value ≠ before + 1 := by
      constructor
      · rintro hmissing rfl
        rw [show before + 1 - 1 = before by omega] at hmissing
        exact hmissing hbefore
      · intro hne hmem
        have := next (value - 1) hmem (by omega)
        omega
    rw [expectedAt_eq_add_one hbefore smaller next, IsMisplaced, missing]
    simp only [notLeast, false_and, false_or, and_iff_right h]
  · have least : ∀ other ∈ values, value ≤ other := by
      intro other hother
      by_contra hlt
      exact h ⟨other, hother, by omega⟩
    rw [expectedAt_eq_one least, IsMisplaced]
    simp only [h, false_and, or_false, and_iff_right least]

/-! ## Scanning integers -/

/-- The walk over ascending integers: `previous` is the last one, and `expected` the one that should
come next unless the last one is repeated. -/
def integerScan (field : String) (expected : Int) (previous : Option Int) :
    List Int → List Finding
  | [] => []
  | value :: rest =>
    if previous = some value then
      usedAgain field value :: integerScan field expected previous rest
    else if value = expected then integerScan field (value + 1) (some value) rest
    else misplaced field expected value :: integerScan field (value + 1) (some value) rest

/-- Behind an order value that no later one falls below, the scan finds what the scan over integers
finds. The successor stays in range wherever it is looked at. -/
theorem map_finding_orderScan (index : Nat) (previous : Order) {orders : List Order}
    (sorted : orders.Pairwise fun a b => a.value ≤ b.value)
    (above : ∀ order ∈ orders, previous.value ≤ order.value) :
    (orderScan index previous.next (some previous) orders).map Violation.finding =
      integerScan (orderField index) (previous.value + 1) (some previous.value)
        (orders.map Order.value) := by
  induction orders generalizing previous with
  | nil => rfl
  | cons order rest ih =>
    obtain ⟨first, ascending⟩ := List.pairwise_cons.1 sorted
    obtain ⟨hle, behind⟩ := List.forall_mem_cons.1 above
    rw [orderScan, List.map_cons, integerScan]
    by_cases repeated : previous = order
    · subst repeated
      rw [if_pos rfl, if_pos rfl, List.map_cons, ih previous ascending behind]
      rfl
    · have different : previous.value ≠ order.value := fun h => repeated (Order.eq_of_value h)
      have next : previous.next.value = previous.value + 1 := by
        have := order.upper
        rw [Order.value_next]
        omega
      have expected : order = previous.next ↔ order.value = previous.value + 1 := by
        rw [← Order.value_inj, next]
      simp only [Option.some.injEq, repeated, different, expected, if_false]
      split_ifs
      · exact ih order ascending first
      · rw [List.map_cons, ih order ascending first, ← next]
        rfl

theorem map_finding_orderScan_start (index : Nat) {orders : List Order}
    (sorted : orders.Pairwise fun a b => a.value ≤ b.value) :
    (orderScan index .one none orders).map Violation.finding =
      integerScan (orderField index) 1 none (orders.map Order.value) := by
  cases orders with
  | nil => rfl
  | cons order rest =>
    obtain ⟨first, ascending⟩ := List.pairwise_cons.1 sorted
    have expected : order = .one ↔ order.value = 1 := by
      rw [← Order.value_inj, Order.value_one]
    rw [orderScan, List.map_cons, integerScan]
    simp only [reduceCtorEq, expected, if_false]
    split_ifs
    · exact map_finding_orderScan index order ascending first
    · rw [List.map_cons, map_finding_orderScan index order ascending first]
      rfl

/-- What is found about order values is what the scan over integers finds. -/
theorem map_finding_orderViolations (index : Nat) (orders : List Order) :
    (orderViolations index orders).map Violation.finding =
      integerScan (orderField index) 1 none (sortBy id (orders.map Order.value)) := by
  rw [orderViolations, map_finding_orderScan_start index (sortBy_pairwise Order.value orders),
    sortBy_map]
  rfl

/-! ## Runs of equal integers -/

theorem count_runs (multiplicity : Int → Nat) {distinct : List Int} (nodup : distinct.Nodup)
    (value : Int) :
    (distinct.flatMap fun v => List.replicate (multiplicity v) v).count value =
      if value ∈ distinct then multiplicity value else 0 := by
  induction distinct with
  | nil => rfl
  | cons v rest ih =>
    obtain ⟨fresh, nodup⟩ := List.nodup_cons.1 nodup
    rw [List.flatMap_cons, List.count_append, ih nodup, List.count_replicate]
    by_cases h : v = value
    · subst h
      simp [fresh]
    · simp [h, Ne.symm h]

theorem pairwise_runs (multiplicity : Int → Nat) {ascending : List Int}
    (strict : ascending.Pairwise (· < ·)) :
    (ascending.flatMap fun v => List.replicate (multiplicity v) v).Pairwise (· ≤ ·) := by
  rw [List.pairwise_flatMap]
  constructor
  · intro v _
    simp
  · refine strict.imp fun hlt a ha b hb => ?_
    obtain rfl := (List.mem_replicate.1 ha).2
    obtain rfl := (List.mem_replicate.1 hb).2
    omega

/-- Ascending integers are made of one run for each value. -/
theorem exists_runs {values : List Int} (h : values.Pairwise (· ≤ ·)) :
    ∃ ascending : List Int, ascending.Pairwise (· < ·) ∧
      (∀ value, value ∈ ascending ↔ value ∈ values) ∧
      values = ascending.flatMap fun v => List.replicate (values.count v) v := by
  have nodup := List.nodup_dedup values
  have strict : values.dedup.Pairwise (· < ·) := by
    refine ((h.sublist (List.dedup_sublist values)).and nodup).imp fun hpair => ?_
    exact lt_of_le_of_ne hpair.1 hpair.2
  refine ⟨values.dedup, strict, fun _ => List.mem_dedup, ?_⟩
  refine List.Perm.eq_of_pairwise (fun _ _ _ _ => Int.le_antisymm) h (pairwise_runs _ strict) ?_
  rw [List.perm_iff_count]
  intro value
  rw [count_runs _ nodup]
  split_ifs with hmem
  · rfl
  · exact List.count_eq_zero.2 fun h => hmem (List.mem_dedup.2 h)

theorem integerScan_replicate (field : String) (expected value : Int) (n : Nat) (rest : List Int) :
    integerScan field expected (some value) (List.replicate n value ++ rest) =
      List.replicate n (usedAgain field value) ++
        integerScan field expected (some value) rest := by
  induction n with
  | zero => rfl
  | succ n ih =>
    rw [List.replicate_succ, List.cons_append, integerScan, if_pos rfl, ih, List.replicate_succ,
      List.cons_append]

/-- At a run of a new value the scan finds whether the value is the expected one, and each time that
it is used again. -/
theorem integerScan_run (field : String) {expected value : Int} {previous : Option Int}
    (new : previous ≠ some value) (n : Nat) (rest : List Int) :
    integerScan field expected previous (List.replicate (n + 1) value ++ rest) =
      (if value ≠ expected then [misplaced field expected value] else []) ++
        List.replicate n (usedAgain field value) ++
          integerScan field (value + 1) (some value) rest := by
  rw [List.replicate_succ, List.cons_append, integerScan, if_neg new, integerScan_replicate]
  simp only [ne_eq, ite_not]
  split_ifs <;> simp

/-- What the scan has still to walk along: the values above the last one that it has passed. The
smallest of them is judged by the expected value. -/
structure IsLeft (values : List Int) (previous : Option Int) (expected : Int) (rest : List Int) :
    Prop where
  strict : rest.Pairwise (· < ·)
  inside : rest ⊆ values
  passed : ∀ before ∈ previous, ∀ value ∈ rest, before < value
  expected : ∀ value ∈ rest.head?, expected = expectedAt values value
  above : ∀ value ∈ rest, ∀ other ∈ values, value < other → other ∈ rest

namespace IsLeft

variable {values rest : List Int} {previous : Option Int} {expected value : Int}

theorem new (h : IsLeft values previous expected (value :: rest)) : previous ≠ some value := by
  rintro rfl
  have := h.passed value rfl value List.mem_cons_self
  omega

/-- Whatever is above a value comes behind it. -/
theorem mem_of_lt (h : IsLeft values previous expected (value :: rest)) {other : Int}
    (hother : other ∈ values) (hlt : value < other) : other ∈ rest := by
  have hmem := h.above value List.mem_cons_self other hother hlt
  rcases List.mem_cons.1 hmem with rfl | hrest
  · omega
  · exact hrest

/-- The value that has been passed is what the next one is judged by. -/
theorem tail (h : IsLeft values previous expected (value :: rest)) :
    IsLeft values (some value) (value + 1) rest := by
  obtain ⟨first, strict⟩ := List.pairwise_cons.1 h.strict
  obtain ⟨hvalue, inside⟩ := List.cons_subset.1 h.inside
  refine ⟨strict, inside, ?_, ?_, ?_⟩
  · rintro before ⟨⟩
    exact first
  · intro after hafter
    obtain ⟨others, rfl⟩ : ∃ others, rest = after :: others := List.head?_eq_some_iff.1 hafter
    obtain ⟨next, -⟩ := List.pairwise_cons.1 strict
    have smaller : value < after := first after List.mem_cons_self
    refine (expectedAt_eq_add_one hvalue smaller fun other hother hlt => ?_).symm
    by_contra hgreater
    rcases List.mem_cons.1 (h.mem_of_lt hother (by omega)) with rfl | hmem
    · omega
    · have := next other hmem
      omega
  · intro v hv other hother hlt
    have := first v hv
    exact h.mem_of_lt hother (by omega)

end IsLeft

/-- Along what is left, the scan finds at each value what there is to be found. -/
theorem integerScan_runs (field : String) {values rest : List Int} {previous : Option Int}
    {expected : Int} (left : IsLeft values previous expected rest) :
    integerScan field expected previous
        (rest.flatMap fun v => List.replicate (values.count v) v) =
      rest.flatMap (valueFindings field values) := by
  induction rest generalizing previous expected with
  | nil => rfl
  | cons value rest ih =>
    have hexpected : expected = expectedAt values value := left.expected value rfl
    have positive := List.count_pos_iff.2 (left.inside List.mem_cons_self)
    obtain ⟨n, hn⟩ : ∃ n, values.count value = n + 1 := ⟨values.count value - 1, by omega⟩
    -- the invariant holds again behind the run, with `value` as what has been passed
    rw [List.flatMap_cons, List.flatMap_cons, hn, integerScan_run field left.new, ih left.tail,
      valueFindings, hn, Nat.add_sub_cancel]
    simp only [isMisplaced_iff, hexpected]

/-! ## Findings of one kind -/

/-- Where each element yields only what it can be told by, one of them can be picked out. -/
theorem filter_flatMap_of_nodup {α β : Type} [DecidableEq α] {f : α → List β} {p : β → Bool}
    {list : List α} (nodup : list.Nodup) {a : α}
    (others : ∀ b ∈ list, b ≠ a → (f b).filter p = []) :
    (list.flatMap f).filter p = if a ∈ list then (f a).filter p else [] := by
  induction list with
  | nil => rfl
  | cons b rest ih =>
    obtain ⟨fresh, nodup⟩ := List.nodup_cons.1 nodup
    obtain ⟨here, others⟩ := List.forall_mem_cons.1 others
    rw [List.flatMap_cons, List.filter_append, ih nodup others]
    by_cases h : b = a
    · subst h
      simp [fresh]
    · rw [here h, List.nil_append]
      simp [Ne.symm h]

/-- The finding is of a rule and about a value. -/
def Finding.IsOf (rule : String) (value : Int) (finding : Finding) : Prop :=
  finding.rule = some rule ∧ finding.value = some (toString value)

instance (rule : String) (value : Int) : DecidablePred (Finding.IsOf rule value) := fun finding =>
  inferInstanceAs (Decidable (finding.rule = some rule ∧ finding.value = some (toString value)))

theorem value_of_mem_valueFindings {field : String} {values : List Int} {value : Int}
    {finding : Finding} (h : finding ∈ valueFindings field values value) :
    finding.value = some (toString value) := by
  rw [valueFindings, List.mem_append] at h
  rcases h with h | h
  · split_ifs at h
    · obtain rfl := List.mem_singleton.1 h
      rfl
    · simp at h
  · obtain rfl := (List.mem_replicate.1 h).2
    rfl

theorem filter_isOf_valueFindings {field rule : String} {values ascending : List Int}
    (nodup : ascending.Nodup) (mem : ∀ value, value ∈ ascending ↔ value ∈ values) (value : Int) :
    (ascending.flatMap (valueFindings field values)).filter (·.IsOf rule value) =
      if value ∈ values then (valueFindings field values value).filter (·.IsOf rule value)
      else [] := by
  simp only [← mem]
  refine filter_flatMap_of_nodup nodup fun other _ hne => ?_
  refine List.filter_eq_nil_iff.2 fun finding hfinding => ?_
  rw [decide_eq_true_eq]
  rintro ⟨-, hvalue⟩
  rw [value_of_mem_valueFindings hfinding, Option.some.injEq] at hvalue
  exact hne ((Text.isDecimal_toString other).unique (hvalue ▸ Text.isDecimal_toString value))

theorem filter_unique_valueFindings (field : String) (values : List Int) (value : Int) :
    (valueFindings field values value).filter (·.IsOf "unique_order" value) =
      List.replicate (values.count value - 1) (usedAgain field value) := by
  have again : (usedAgain field value).IsOf "unique_order" value := ⟨rfl, rfl⟩
  have other (expected : Int) : ¬(misplaced field expected value).IsOf "unique_order" value := by
    simp [Finding.IsOf, misplaced]
  rw [valueFindings, List.filter_append, List.filter_replicate]
  split_ifs <;> simp_all

theorem filter_contiguous_valueFindings (field : String) (values : List Int) (value : Int) :
    (valueFindings field values value).filter (·.IsOf "contiguous_order" value) =
      if IsMisplaced values value then [misplaced field (expectedAt values value) value]
      else [] := by
  have again : ¬(usedAgain field value).IsOf "contiguous_order" value := by
    simp [Finding.IsOf, usedAgain]
  have other (expected : Int) : (misplaced field expected value).IsOf "contiguous_order" value :=
    ⟨rfl, rfl⟩
  rw [valueFindings, List.filter_append, List.filter_replicate]
  split_ifs <;> simp_all

/-! ## The check of a base order -/

theorem baseOrderFindings_eq_integerScan (base : List Entry) :
    baseOrderFindings base =
      integerScan (orderField 0) 1 none (sortBy id (base.map (·.order.value))) := by
  have values : base.map (·.order.value) = (base.map (·.order)).map Order.value := by
    rw [List.map_map]
    rfl
  rw [baseOrderFindings, map_finding_orderViolations, values]

theorem exists_baseOrderFindings_eq (base : List Entry) :
    ∃ ascending : List Int, ascending.Pairwise (· < ·) ∧
      (∀ value, value ∈ ascending ↔ value ∈ base.map (·.order.value)) ∧
      baseOrderFindings base =
        ascending.flatMap (valueFindings (orderField 0) (base.map (·.order.value))) := by
  have perm := sortBy_perm id (base.map (·.order.value))
  obtain ⟨ascending, strict, mem, runs⟩ :=
    exists_runs (sortBy_pairwise id (base.map (·.order.value)))
  simp only [perm.mem_iff] at mem
  simp only [perm.count_eq] at runs
  refine ⟨ascending, strict, mem, ?_⟩
  rw [baseOrderFindings_eq_integerScan, runs]
  refine integerScan_runs _ ⟨strict, fun value h => (mem value).1 h, by simp, ?_,
    fun _ _ other hother _ => (mem other).2 hother⟩
  intro value hvalue
  obtain ⟨rest, rfl⟩ : ∃ rest, ascending = value :: rest := List.head?_eq_some_iff.1 hvalue
  obtain ⟨first, -⟩ := List.pairwise_cons.1 strict
  refine (expectedAt_eq_one fun other hother => ?_).symm
  rcases List.mem_cons.1 ((mem other).2 hother) with rfl | hrest
  · omega
  · have := first other hrest
    omega

/-- **Order values are judged by which there are and how often.** There is no finding exactly if
they are a permutation of 1, 2, …, N. Else there are, for each value in ascending order, one if
something else should stand there and then one for each time that the value is used again. The
sequence of the entries does not matter, and neither does the limit of the range: the findings are
those of the same walk over integers that have no limit. -/
theorem orders_judged_by_value (base : List Entry) :
    (baseOrderFindings base = [] ↔
        (base.map (·.order.value)).Perm (consecutive 1 base.length)) ∧
      (∃ ascending : List Int, ascending.Pairwise (· < ·) ∧
        (∀ value, value ∈ ascending ↔ value ∈ base.map (·.order.value)) ∧
        baseOrderFindings base =
          ascending.flatMap (valueFindings (orderField 0) (base.map (·.order.value)))) ∧
      (∀ value, (baseOrderFindings base).filter (·.IsOf "unique_order" value) =
        List.replicate ((base.map (·.order.value)).count value - 1)
          (usedAgain (orderField 0) value)) ∧
      (∀ value ∈ base.map (·.order.value),
        (baseOrderFindings base).filter (·.IsOf "contiguous_order" value) =
          if IsMisplaced (base.map (·.order.value)) value then
            [misplaced (orderField 0) (expectedAt (base.map (·.order.value)) value) value]
          else []) ∧
      (∀ other : List Entry, (base.map (·.order)).Perm (other.map (·.order)) →
        baseOrderFindings other = baseOrderFindings base) ∧
      baseOrderFindings base =
        integerScan (orderField 0) 1 none (sortBy id (base.map (·.order.value))) := by
  obtain ⟨ascending, strict, mem, findings⟩ := exists_baseOrderFindings_eq base
  have nodup : ascending.Nodup := strict.imp fun h => Int.ne_of_lt h
  refine ⟨?_, ⟨ascending, strict, mem, findings⟩, fun value => ?_, fun value hvalue => ?_,
    fun other perm => ?_, baseOrderFindings_eq_integerScan base⟩
  · rw [baseOrderFindings, List.map_eq_nil_iff, orderViolations_eq_nil_iff, List.map_map,
      List.length_map]
    rfl
  · rw [findings, filter_isOf_valueFindings nodup mem, filter_unique_valueFindings]
    split_ifs with hvalue
    · rfl
    · rw [List.count_eq_zero.2 hvalue]
      rfl
  · rw [findings, filter_isOf_valueFindings nodup mem, if_pos hvalue,
      filter_contiguous_valueFindings]
  · rw [baseOrderFindings, baseOrderFindings, orderViolations_eq_of_perm 0 perm]

/-- The largest order value twice, the smallest one, and 1. -/
def extremeBase : List Entry :=
  [⟨.largest, "FEES"⟩, ⟨.ofNat 1, "AVAL"⟩, ⟨.largest, "PENALTY"⟩,
    ⟨⟨-0x8000000000000000, by decide, by decide⟩, "INTEREST"⟩]

theorem orders_judged_by_value_extremeBase :
    baseOrderFindings extremeBase =
        [misplaced (orderField 0) 1 (-9223372036854775808),
          misplaced (orderField 0) (-9223372036854775807) 1,
          misplaced (orderField 0) 2 9223372036854775807,
          usedAgain (orderField 0) 9223372036854775807] ∧
      baseOrderFindings extremeBase.reverse = baseOrderFindings extremeBase := by
  obtain ⟨-, -, -, -, same, scan⟩ := orders_judged_by_value extremeBase
  refine ⟨scan.trans (by decide +kernel), same _ ?_⟩
  rw [List.map_reverse]
  exact (List.reverse_perm _).symm

end PaymentAllocation
