import PaymentAllocation.Finding
import PaymentAllocation.Folder
import PaymentAllocation.Vocabulary

/-!
# Failures

Why a configuration could not be read, checked or compiled (`Failure`). Findings are carried as
they are: a single one by `invalid`, several by `manyInvalid` (`Failure.ofFindings`).
-/

namespace PaymentAllocation

/-- Why a configuration was not accepted. -/
inductive Failure
  /-- The command is not JSON or not of the right shape. -/
  | structural (detail : Option String)
  /-- A setting is missing. -/
  | notFound (key : String)
  /-- A check has one finding. -/
  | invalid (finding : Finding)
  /-- A check has several findings. -/
  | manyInvalid (findings : List Finding)
  /-- A name does not belong to its vocabulary. -/
  | name (error : NameError)
  /-- The policies cannot be read or are not of the right shape. -/
  | policy (detail : Option String)
  /-- A file cannot be read. -/
  | file (error : FileError)
  deriving DecidableEq, Repr

namespace Failure

/-- A heading with what is known beyond it. -/
private def headed (heading : String) : Option String → String
  | none => heading
  | some detail => heading ++ " " ++ detail

/-- The failure in words, the findings that it carries included. -/
def message : Failure → String
  | structural detail => headed "Malformed payment allocation payload:" detail
  | notFound key => "Configuration not found: " ++ key
  | invalid finding => "Validation error: " ++ finding.text
  | manyInvalid findings =>
    toString findings.length ++ " validation errors: " ++
      "; ".intercalate (findings.map Finding.text)
  | name error => error.message
  | policy detail => headed "Strategy policy error:" detail
  | file error => "IO error: " ++ error.message

/-- The findings that the failure carries. -/
def findings : Failure → List Finding
  | invalid finding => [finding]
  | manyInvalid findings => findings
  | _ => []

/-- Fails if there are findings, and carries all of them. -/
def ofFindings : List Finding → Except Failure Unit
  | [] => .ok ()
  | [finding] => .error (.invalid finding)
  | findings => .error (.manyInvalid findings)

theorem findings_of_ofFindings {list : List Finding} {failure : Failure}
    (h : ofFindings list = .error failure) : failure.findings = list := by
  unfold ofFindings at h
  split at h <;> cases h <;> rfl

end Failure

end PaymentAllocation
