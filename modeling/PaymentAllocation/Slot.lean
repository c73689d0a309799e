import PaymentAllocation.Vocabulary

/-!
# Due states, components and slots

Money that comes in is spread over slots. A slot is a component of the debt (penalty, principal,
interest, …) in a due state (past due, due, in advance).

* `DueState.qualify` puts a due state before the name of a component.
* `Slot` is the product of the two, so there are 24 slots and every due state holds a block of
  eight. Each has a written name, which is the qualified name of its component
  (`Slot.name_eq_qualify`).
* `Slot.split` takes a name apart again and says what is wrong with one that is no slot.
-/

namespace PaymentAllocation

/-! ## Due states -/

/-- When the debt falls due. -/
inductive DueState
  | pastDue
  | due
  | inAdvance
  deriving DecidableEq, Repr

namespace DueState

/-- The words of a due state. -/
def identifier : DueState → String
  | pastDue => "PastDue"
  | due => "Due"
  | inAdvance => "InAdvance"

/-- The written names, which also begin the names of slots. -/
def name : DueState → String
  | pastDue => "PAST_DUE"
  | due => "DUE"
  | inAdvance => "IN_ADVANCE"

/-- The text that people read, also at the beginning of the label of a slot. -/
def label : DueState → String
  | pastDue => "Past due"
  | due => "Due"
  | inAdvance => "In advance"

instance : Vocabulary DueState where
  title := "due type"
  all := [pastDue, due, inAdvance]
  identifier := identifier
  name := name
  label := label
  mem_all member := by cases member <;> decide
  name_injective {a b} h := by revert h; cases a <;> cases b <;> decide
  capitals_identifier member := by cases member <;> decide +kernel

/-- The name of a component in this due state. -/
def qualify (state : DueState) (component : String) : String :=
  state.name ++ "_" ++ component

end DueState

/-! ## Components -/

/-- A part of the debt. `fee` is an old spelling of `fees`, still read but no longer offered. -/
inductive Component
  | penalty
  | fee
  | principal
  | interest
  | fees
  | aval
  | mandatoryInsurance
  | voluntaryInsurance
  deriving DecidableEq, Repr

namespace Component

/-- The words of a component. -/
def identifier : Component → String
  | penalty => "Penalty"
  | fee => "Fee"
  | principal => "Principal"
  | interest => "Interest"
  | fees => "Fees"
  | aval => "Aval"
  | mandatoryInsurance => "MandatoryInsurance"
  | voluntaryInsurance => "VoluntaryInsurance"

/-- The written names. Alone they stand in base orders, behind a due state they name slots. -/
def name : Component → String
  | penalty => "PENALTY"
  | fee => "FEE"
  | principal => "PRINCIPAL"
  | interest => "INTEREST"
  | fees => "FEES"
  | aval => "AVAL"
  | mandatoryInsurance => "MANDATORY_INSURANCE"
  | voluntaryInsurance => "VOLUNTARY_INSURANCE"

/-- The text that people read of a component on its own. -/
def label : Component → String
  | penalty => "Penalty"
  | fee => "Fee"
  | principal => "Principal"
  | interest => "Interest"
  | fees => "Fees"
  | aval => "Aval"
  | mandatoryInsurance => "Mandatory insurance"
  | voluntaryInsurance => "Voluntary insurance"

instance : Vocabulary Component where
  title := "allocation type"
  all := [penalty, fee, principal, interest, fees, aval, mandatoryInsurance, voluntaryInsurance]
  identifier := identifier
  name := name
  label := label
  mem_all member := by cases member <;> decide
  name_injective {a b} h := by revert h; cases a <;> cases b <;> decide
  capitals_identifier member := by cases member <;> decide +kernel

/-- The key of the label where labels are kept in several languages. -/
def code : Component → String
  | penalty => "allocationType.penalty"
  | fee => "allocationType.fee"
  | principal => "allocationType.principal"
  | interest => "allocationType.interest"
  | fees => "allocationType.fees"
  | aval => "allocationType.aval"
  | mandatoryInsurance => "allocationType.mandatoryInsurance"
  | voluntaryInsurance => "allocationType.voluntaryInsurance"

/-- Whether the component is only read for the sake of old configurations. -/
def isLegacy (component : Component) : Bool := component = fee

/-- The components offered to someone who writes a configuration. -/
def selectable : List Component :=
  (Vocabulary.all : List Component).filter fun component => !component.isLegacy

/-- The label of a component inside the label of a slot, where both insurances read alike. -/
def shortLabel : Component → String
  | penalty => "penalty"
  | fee => "fee"
  | principal => "principal"
  | interest => "interest"
  | fees => "fees"
  | aval => "aval"
  | mandatoryInsurance => "insurance"
  | voluntaryInsurance => "insurance"

end Component

/-! ## Slots -/

/-- A component of the debt in a due state. -/
structure Slot where
  state : DueState
  component : Component
  deriving DecidableEq, Repr

namespace Slot

/-- The words of a slot are those of its due state and its component. -/
def identifier : Slot → String
  | ⟨.pastDue, .penalty⟩ => "PastDuePenalty"
  | ⟨.pastDue, .fee⟩ => "PastDueFee"
  | ⟨.pastDue, .principal⟩ => "PastDuePrincipal"
  | ⟨.pastDue, .interest⟩ => "PastDueInterest"
  | ⟨.pastDue, .fees⟩ => "PastDueFees"
  | ⟨.pastDue, .aval⟩ => "PastDueAval"
  | ⟨.pastDue, .mandatoryInsurance⟩ => "PastDueMandatoryInsurance"
  | ⟨.pastDue, .voluntaryInsurance⟩ => "PastDueVoluntaryInsurance"
  | ⟨.due, .penalty⟩ => "DuePenalty"
  | ⟨.due, .fee⟩ => "DueFee"
  | ⟨.due, .principal⟩ => "DuePrincipal"
  | ⟨.due, .interest⟩ => "DueInterest"
  | ⟨.due, .fees⟩ => "DueFees"
  | ⟨.due, .aval⟩ => "DueAval"
  | ⟨.due, .mandatoryInsurance⟩ => "DueMandatoryInsurance"
  | ⟨.due, .voluntaryInsurance⟩ => "DueVoluntaryInsurance"
  | ⟨.inAdvance, .penalty⟩ => "InAdvancePenalty"
  | ⟨.inAdvance, .fee⟩ => "InAdvanceFee"
  | ⟨.inAdvance, .principal⟩ => "InAdvancePrincipal"
  | ⟨.inAdvance, .interest⟩ => "InAdvanceInterest"
  | ⟨.inAdvance, .fees⟩ => "InAdvanceFees"
  | ⟨.inAdvance, .aval⟩ => "InAdvanceAval"
  | ⟨.inAdvance, .mandatoryInsurance⟩ => "InAdvanceMandatoryInsurance"
  | ⟨.inAdvance, .voluntaryInsurance⟩ => "InAdvanceVoluntaryInsurance"

/-- The names as they are written out. -/
def name : Slot → String
  | ⟨.pastDue, .penalty⟩ => "PAST_DUE_PENALTY"
  | ⟨.pastDue, .fee⟩ => "PAST_DUE_FEE"
  | ⟨.pastDue, .principal⟩ => "PAST_DUE_PRINCIPAL"
  | ⟨.pastDue, .interest⟩ => "PAST_DUE_INTEREST"
  | ⟨.pastDue, .fees⟩ => "PAST_DUE_FEES"
  | ⟨.pastDue, .aval⟩ => "PAST_DUE_AVAL"
  | ⟨.pastDue, .mandatoryInsurance⟩ => "PAST_DUE_MANDATORY_INSURANCE"
  | ⟨.pastDue, .voluntaryInsurance⟩ => "PAST_DUE_VOLUNTARY_INSURANCE"
  | ⟨.due, .penalty⟩ => "DUE_PENALTY"
  | ⟨.due, .fee⟩ => "DUE_FEE"
  | ⟨.due, .principal⟩ => "DUE_PRINCIPAL"
  | ⟨.due, .interest⟩ => "DUE_INTEREST"
  | ⟨.due, .fees⟩ => "DUE_FEES"
  | ⟨.due, .aval⟩ => "DUE_AVAL"
  | ⟨.due, .mandatoryInsurance⟩ => "DUE_MANDATORY_INSURANCE"
  | ⟨.due, .voluntaryInsurance⟩ => "DUE_VOLUNTARY_INSURANCE"
  | ⟨.inAdvance, .penalty⟩ => "IN_ADVANCE_PENALTY"
  | ⟨.inAdvance, .fee⟩ => "IN_ADVANCE_FEE"
  | ⟨.inAdvance, .principal⟩ => "IN_ADVANCE_PRINCIPAL"
  | ⟨.inAdvance, .interest⟩ => "IN_ADVANCE_INTEREST"
  | ⟨.inAdvance, .fees⟩ => "IN_ADVANCE_FEES"
  | ⟨.inAdvance, .aval⟩ => "IN_ADVANCE_AVAL"
  | ⟨.inAdvance, .mandatoryInsurance⟩ => "IN_ADVANCE_MANDATORY_INSURANCE"
  | ⟨.inAdvance, .voluntaryInsurance⟩ => "IN_ADVANCE_VOLUNTARY_INSURANCE"

/-- The written names are the qualified names of the components. -/
theorem name_eq_qualify (slot : Slot) : slot.name = slot.state.qualify slot.component.name := by
  obtain ⟨state, component⟩ := slot
  cases state <;> cases component <;> decide

/-- The text that people read: the due state and the component in short. -/
def label (slot : Slot) : String := slot.state.label ++ " " ++ slot.component.shortLabel

/-- The slots of a due state stand together, in the order of the components. -/
def all : List Slot :=
  (Vocabulary.all : List DueState).flatMap fun state =>
    (Vocabulary.all : List Component).map fun component => ⟨state, component⟩

instance : Vocabulary Slot where
  title := "payment allocation type"
  all := all
  identifier := identifier
  name := name
  label := label
  mem_all member := by
    obtain ⟨state, component⟩ := member
    cases state <;> cases component <;> decide
  name_injective {a b} h := by
    obtain ⟨state, component⟩ := a
    obtain ⟨state', component'⟩ := b
    revert h
    cases state <;> cases component <;> cases state' <;> cases component' <;> decide
  capitals_identifier member := by
    obtain ⟨state, component⟩ := member
    cases state <;> cases component <;> decide +kernel

/-- What follows a due state and its separator in the name of a slot. -/
def componentText? (state : DueState) (text : String) : Option String :=
  (List.isPrefixOf? (state.name ++ "_").toList text.toList).map String.ofList

/-- Takes the name of a slot apart. The first due state that the text begins with decides. -/
def split (text : String) : Except NameError (DueState × Component) :=
  let reading := (Vocabulary.all : List DueState).findSome? fun state =>
    (componentText? state text).map fun rest => (state, rest)
  match reading with
  | none => .error (.noDueState text)
  | some (state, rest) =>
    match Vocabulary.lookup rest with
    | some component => .ok (state, component)
    | none => .error (.unknownComponent text rest)

end Slot

end PaymentAllocation
