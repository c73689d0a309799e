import PaymentAllocation.Proofs.Blocks

/-!
# Suppressing duplicates

An expanded order keeps the first entry of each name and numbers what is left anew
(`suppressDuplicates`). `KeepsFirst` says what the result must be, in terms of the places at which
names occur. The names that are left are first occurrences, so all that is known of these carries
over: it makes no difference to suppress twice, and in a list that goes on behind another one only
those names are left that the first does not have (`suppression_keeps_first`).
-/

namespace PaymentAllocation

/-- `kept` are the first entries of the names in `entries`, numbered from 1. -/
structure KeepsFirst (entries kept : List Entry) : Prop where
  nodup : (kept.map (·.name)).Nodup
  mem_iff : ∀ name, name ∈ kept.map (·.name) ↔ name ∈ entries.map (·.name)
  /-- What is left are the names that stand behind no equal one, in their sequence. -/
  names : kept.map (·.name) = (entries.zipIdx.filter fun (entry, place) =>
    entry.name ∉ (entries.take place).map (·.name)).map (·.1.name)
  order : ∀ (i : Nat) (entry : Entry), kept[i]? = some entry → entry.order = .ofNat (i + 1)
  /-- No number is lost to the limit of the range. -/
  orders : (kept.length : Int) < 0x8000000000000000 →
    kept.map (·.order.value) = consecutive 1 kept.length

theorem map_name_suppressDuplicates (entries : List Entry) :
    (suppressDuplicates entries).map (·.name) = firstOccurrences [] (entries.map (·.name)) :=
  Entry.map_name_number _

theorem keepsFirst_suppressDuplicates (entries : List Entry) :
    KeepsFirst entries (suppressDuplicates entries) where
  nodup := by
    rw [map_name_suppressDuplicates, firstOccurrences_nil]
    exact nodup_eraseDups _
  mem_iff name := by rw [map_name_suppressDuplicates, firstOccurrences_nil, List.mem_eraseDups]
  names := by
    rw [map_name_suppressDuplicates, firstOccurrences_eq_zipIdx, List.zipIdx_map, List.filter_map,
      List.map_map]
    simp only [List.map_take, Function.comp_def, Prod.map, id_eq]
  order i entry h := by
    rw [suppressDuplicates, Entry.getElem?_number, Option.map_eq_some_iff] at h
    obtain ⟨name, -, numbered⟩ := h
    rw [← numbered]
  orders h := by
    have hlength : (suppressDuplicates entries).length =
        (firstOccurrences [] (entries.map (·.name))).length := Entry.length_number _
    rw [hlength] at h ⊢
    exact Entry.map_value_number h

/-- Only the names count. -/
theorem suppressDuplicates_congr {entries entries' : List Entry}
    (h : entries.map (·.name) = entries'.map (·.name)) :
    suppressDuplicates entries = suppressDuplicates entries' := by
  rw [suppressDuplicates, suppressDuplicates, h]

theorem suppressDuplicates_idem (entries : List Entry) :
    suppressDuplicates (suppressDuplicates entries) = suppressDuplicates entries := by
  have kept : firstOccurrences [] ((suppressDuplicates entries).map (·.name)) =
      firstOccurrences [] (entries.map (·.name)) := by
    rw [map_name_suppressDuplicates, firstOccurrences_nil, firstOccurrences_nil]
    exact eraseDups_eq_self (nodup_eraseDups _)
  rw [suppressDuplicates, kept, suppressDuplicates]

theorem map_name_suppressDuplicates_append (entries more : List Entry) :
    (suppressDuplicates (entries ++ more)).map (·.name) =
      (suppressDuplicates entries).map (·.name) ++
        ((suppressDuplicates more).map (·.name)).filter (· ∉ entries.map (·.name)) := by
  simp only [map_name_suppressDuplicates, List.map_append, firstOccurrences_append,
    firstOccurrences_append_seen]

/-- **Suppression keeps the first entry of each name and numbers what is left from 1.** The order
values that were there do not matter, a second suppression changes nothing, and of entries behind
others those names are left that the others do not have. -/
theorem suppression_keeps_first (entries : List Entry) :
    KeepsFirst entries (suppressDuplicates entries) ∧
      (∀ entries', entries.map (·.name) = entries'.map (·.name) →
        suppressDuplicates entries = suppressDuplicates entries') ∧
      suppressDuplicates (suppressDuplicates entries) = suppressDuplicates entries ∧
      ∀ more, (suppressDuplicates (entries ++ more)).map (·.name) =
        (suppressDuplicates entries).map (·.name) ++
          ((suppressDuplicates more).map (·.name)).filter (· ∉ entries.map (·.name)) :=
  ⟨keepsFirst_suppressDuplicates entries, fun _ => suppressDuplicates_congr,
    suppressDuplicates_idem entries, map_name_suppressDuplicates_append entries⟩

/-- Names that are repeated at once and later on, with order values that say nothing. -/
def strayEntries : List Entry :=
  [⟨.largest, "FEES"⟩, ⟨.ofNat 7, "FEES"⟩, ⟨.ofNat 7, ""⟩, ⟨.ofNat 2, "FEES"⟩]

theorem suppression_keeps_first_strayEntries :
    (suppressDuplicates strayEntries).map (·.order.value) = [1, 2] ∧
      suppressDuplicates strayEntries =
        suppressDuplicates (Entry.number ["FEES", "FEES", "", "FEES"]) ∧
      (suppressDuplicates (strayEntries ++ [⟨.one, ""⟩, ⟨.one, "AVAL"⟩, ⟨.one, "AVAL"⟩])).map
        (·.name) = ["FEES", "", "AVAL"] := by
  obtain ⟨keeps, congr, -, append⟩ := suppression_keeps_first strayEntries
  exact ⟨keeps.orders (by decide), congr _ (by decide), (append _).trans (by decide)⟩

end PaymentAllocation
