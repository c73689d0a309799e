import PaymentAllocation.Entry
import PaymentAllocation.Proofs.Decimals

/-!
# Entries in shorthand

The grammar of `ORDER:NAME` (`Entry.IsShorthand`): an integer and a name, blanks around either, and
the first colon between the two. A text is read as an entry exactly if it is of that form and its
integer is in the range of order values, and the entry is then what is written
(`Entry.shorthand_grammar`).

The same entry is written again as `Entry.shorthand`, which is of that form too
(`Entry.isShorthand_shorthand`), since neither the digits of a number nor its sign are colons or
blanks.
-/

namespace PaymentAllocation.Entry

/-! ## The first colon -/

theorem splitColon?_eq_some_iff {cs before after : List Char} :
    splitColon? cs = some (before, after) ↔ cs = before ++ ':' :: after ∧ ':' ∉ before := by
  induction cs generalizing before with
  | nil => simp [splitColon?]
  | cons c cs ih =>
    by_cases h : c = ':'
    · subst h
      rw [splitColon?, Option.some.injEq, Prod.mk.injEq]
      constructor
      · rintro ⟨rfl, rfl⟩
        simp
      · rintro ⟨heq, colon⟩
        cases before with
        | nil => simpa using heq
        | cons c before => simp_all
    · rw [splitColon?, Option.map_eq_some_iff]
      · constructor
        · rintro ⟨⟨before', after'⟩, found, heq⟩
          obtain ⟨rfl, rfl⟩ := Prod.mk.inj heq
          obtain ⟨rfl, colon⟩ := ih.1 found
          exact ⟨rfl, by simp [colon, Ne.symm h]⟩
        · rintro ⟨heq, colon⟩
          cases before with
          | nil => simp_all
          | cons c' before =>
            obtain ⟨rfl, rfl⟩ := List.cons.inj heq
            exact ⟨(before, after), ih.2 ⟨rfl, fun h => colon (by simp [h])⟩, rfl⟩
      · exact h

/-! ## The grammar -/

/-- The text is the integer `value`, a colon and `name`, where blanks around the integer and around
the name do not count. The name may hold further colons, but it must not be empty. -/
structure IsShorthand (text : String) (value : Int) (name : String) : Prop where
  parts : ∃ before after number, text.toList = before ++ ':' :: after ∧ ':' ∉ before ∧
    Text.IsCore before number ∧ Text.IsDecimal number value ∧ Text.IsCore after name.toList
  nonempty : name ≠ ""

variable {text : String} {entry : Entry}

theorem ofShorthand?_eq_some_iff :
    ofShorthand? text = some entry ↔ IsShorthand text entry.order.value entry.name := by
  simp only [ofShorthand?, Option.bind_eq_bind, Option.bind_eq_some_iff, Prod.exists,
    splitColon?_eq_some_iff, Text.integer?_eq_some_iff, Order.ofInt?_eq_some_iff]
  constructor
  · rintro ⟨before, after, ⟨htext, colon⟩, _, decimal, order, rfl, heq⟩
    split_ifs at heq with empty
    obtain rfl := Option.some.inj heq
    have core : Text.IsCore after (String.ofList (Text.trim after)).toList := by
      rw [String.toList_ofList]
      exact Text.isCore_trim after
    refine ⟨⟨before, after, _, htext, colon, Text.isCore_trim before, decimal, core⟩, ?_⟩
    intro nameless
    have nothing := congrArg String.toList nameless
    rw [String.toList_ofList] at nothing
    exact empty (List.isEmpty_iff.2 nothing)
  · rintro ⟨⟨before, after, number, htext, colon, hnumber, decimal, hname⟩, nonempty⟩
    refine ⟨before, after, ⟨htext, colon⟩, _, hnumber.trim_eq.symm ▸ decimal, _, rfl, ?_⟩
    have named : ¬entry.name.toList.isEmpty = true := fun nothing =>
      nonempty (String.toList_inj.1 (List.isEmpty_iff.1 nothing))
    rw [hname.trim_eq, if_neg named, String.ofList_toList]

/-- The number and the name of an entry with a colon between. -/
def shorthand (entry : Entry) : String := entry.order.text ++ ":" ++ entry.name

theorem isShorthand_shorthand (nonempty : entry.name ≠ "")
    (ends : Text.HasNoBlankEnds entry.name.toList) :
    IsShorthand entry.shorthand entry.order.value entry.name := by
  have decimal := Text.isDecimal_toString entry.order.value
  have written : entry.shorthand.toList =
      (toString entry.order.value).toList ++ ':' :: entry.name.toList := by
    simp [shorthand, Order.text]
  refine ⟨⟨_, _, _, written, ?_, Text.HasNoBlankEnds.isCore ?_, decimal, ends.isCore⟩, nonempty⟩
  · intro colon
    rcases decimal.mem colon with digit | sign | sign
    · exact absurd digit (by decide)
    · exact absurd sign (by decide)
    · exact absurd sign (by decide)
  · exact ⟨fun c hc => decimal.isBlank_eq_false (List.mem_of_mem_head? hc),
      fun c hc => decimal.isBlank_eq_false (List.mem_of_mem_getLast? hc)⟩

/-- What a name in shorthand is surrounded by is not part of it. -/
theorem IsShorthand.hasNoBlankEnds {value : Int} {name : String} (h : IsShorthand text value name) :
    Text.HasNoBlankEnds name.toList := by
  obtain ⟨_, _, _, _, _, _, _, core⟩ := h.parts
  exact core.ends

/-- **The shorthand accepts exactly its grammar.** A text is read as the entry that it writes, and
as none if it writes none or one whose integer is out of range. Every entry with a name that has no
blanks at its ends can be written and read back, in particular every entry that was read. -/
theorem shorthand_grammar :
    (∀ (text : String) (entry : Entry),
        ofShorthand? text = some entry ↔ IsShorthand text entry.order.value entry.name) ∧
      (∀ text : String, ofShorthand? text = none ↔
        ∀ (value : Int) (name : String), IsShorthand text value name →
          value < -0x8000000000000000 ∨ 0x7fffffffffffffff < value) ∧
      (∀ entry : Entry, entry.name ≠ "" → Text.HasNoBlankEnds entry.name.toList →
        ofShorthand? entry.shorthand = some entry) ∧
      ∀ (text : String) (entry : Entry), ofShorthand? text = some entry →
        ofShorthand? entry.shorthand = some entry := by
  refine ⟨fun text entry => ofShorthand?_eq_some_iff, fun text => ?_,
    fun entry nonempty ends => ofShorthand?_eq_some_iff.2 (isShorthand_shorthand nonempty ends),
    fun text entry h => ?_⟩
  · rw [Option.eq_none_iff_forall_ne_some]
    simp only [ne_eq, ofShorthand?_eq_some_iff]
    constructor
    · intro none value name writes
      by_contra inRange
      exact none ⟨⟨value, by omega, by omega⟩, name⟩ writes
    · intro outOfRange entry writes
      have := entry.order.lower
      have := entry.order.upper
      have := outOfRange _ _ writes
      omega
  · have writes := ofShorthand?_eq_some_iff.1 h
    exact ofShorthand?_eq_some_iff.2 (isShorthand_shorthand writes.nonempty writes.hasNoBlankEnds)

theorem shorthand_grammar_leastOrder :
    ∃ entry : Entry, entry.order.value = -9223372036854775808 ∧ entry.name = "A: B" ∧
      ofShorthand? "\u3000-009223372036854775808\u00a0:\tA: B\u2003" = some entry ∧
      entry.shorthand = "-9223372036854775808:A: B" ∧
      ofShorthand? entry.shorthand = some entry := by
  obtain ⟨reads, -, -, again⟩ := shorthand_grammar
  have padded : ofShorthand? "\u3000-009223372036854775808\u00a0:\tA: B\u2003" =
      some ⟨⟨-0x8000000000000000, by decide, by decide⟩, "A: B"⟩ := by
    refine (reads _ _).2 ⟨⟨"\u3000-009223372036854775808\u00a0".toList, "\tA: B\u2003".toList,
      "-009223372036854775808".toList, by decide, by decide, Text.trim_eq_iff.1 (by decide), ?_,
      Text.trim_eq_iff.1 (by decide)⟩, by decide⟩
    exact Text.integer?_eq_some_iff.1 (by decide)
  exact ⟨_, rfl, rfl, padded, by decide, again _ _ padded⟩

end PaymentAllocation.Entry
