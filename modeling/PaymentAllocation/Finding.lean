/-!
# Findings

A finding says what is wrong with one field of a configuration. Checks return all their findings
together, so that a configuration can be corrected in one go; an empty list means that all is
well.
-/

namespace PaymentAllocation

/-- One thing that is wrong with a configuration. -/
structure Finding where
  /-- The path of the field. -/
  field : String
  message : String
  /-- The name of the rule that is broken. -/
  rule : Option String
  /-- The offending value. -/
  value : Option String
  deriving DecidableEq, Repr

namespace Finding

/-- A text between marks, or nothing if there is no text. -/
private def remark (opening : String) : Option String → String → String
  | none, _ => ""
  | some text, closing => opening ++ text ++ closing

/-- The finding on one line: the field, the message, and what is known of value and rule. -/
def text (finding : Finding) : String :=
  finding.field ++ ": " ++ finding.message ++ remark " [value: " finding.value "]" ++
    remark " (rule: " finding.rule ")"

/-- The finding with its field as a part of `container`. -/
def within (container : String) (finding : Finding) : Finding :=
  { finding with field := container ++ "." ++ finding.field }

end Finding

end PaymentAllocation
