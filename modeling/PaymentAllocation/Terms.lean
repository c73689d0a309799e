import PaymentAllocation.Vocabulary

/-!
# Transaction types, future installments and topologies

The vocabularies around the slots: which kind of transaction a rule is for
(`TransactionType`), what becomes of money for installments yet to come (`FutureRule`), and in
which direction the schedule of a loan is processed (`Topology`). The last two have a default.
-/

namespace PaymentAllocation

/-! ## Transaction types -/

/-- The kind of transaction that a rule spreads over slots. -/
inductive TransactionType
  | default
  | repayment
  | downPayment
  | merchantIssuedRefund
  | payoutRefund
  | goodwillCredit
  | chargeRefund
  | chargeAdjustment
  | waiveInterest
  | chargeback
  | chargeOff
  deriving DecidableEq, Repr

namespace TransactionType

/-- The words of a type of transaction. -/
def identifier : TransactionType → String
  | default => "Default"
  | repayment => "Repayment"
  | downPayment => "DownPayment"
  | merchantIssuedRefund => "MerchantIssuedRefund"
  | payoutRefund => "PayoutRefund"
  | goodwillCredit => "GoodwillCredit"
  | chargeRefund => "ChargeRefund"
  | chargeAdjustment => "ChargeAdjustment"
  | waiveInterest => "WaiveInterest"
  | chargeback => "Chargeback"
  | chargeOff => "ChargeOff"

/-- The written names. -/
def name : TransactionType → String
  | default => "DEFAULT"
  | repayment => "REPAYMENT"
  | downPayment => "DOWN_PAYMENT"
  | merchantIssuedRefund => "MERCHANT_ISSUED_REFUND"
  | payoutRefund => "PAYOUT_REFUND"
  | goodwillCredit => "GOODWILL_CREDIT"
  | chargeRefund => "CHARGE_REFUND"
  | chargeAdjustment => "CHARGE_ADJUSTMENT"
  | waiveInterest => "WAIVE_INTEREST"
  | chargeback => "CHARGEBACK"
  | chargeOff => "CHARGE_OFF"

/-- The text that people read. -/
def label : TransactionType → String
  | default => "Default"
  | repayment => "Repayment"
  | downPayment => "Down payment"
  | merchantIssuedRefund => "Merchant issued refund"
  | payoutRefund => "Payout refund"
  | goodwillCredit => "Goodwill credit"
  | chargeRefund => "Charge refund"
  | chargeAdjustment => "Charge adjustment"
  | waiveInterest => "Waive interest"
  | chargeback => "Chargeback"
  | chargeOff => "Charge-off"

instance : Vocabulary TransactionType where
  title := "transaction type"
  all := [default, repayment, downPayment, merchantIssuedRefund, payoutRefund, goodwillCredit,
    chargeRefund, chargeAdjustment, waiveInterest, chargeback, chargeOff]
  identifier := identifier
  name := name
  label := label
  mem_all member := by cases member <;> decide
  name_injective {a b} h := by revert h; cases a <;> cases b <;> decide
  capitals_identifier member := by cases member <;> decide +kernel

end TransactionType

/-! ## Future installments -/

/-- Where money goes that is left for installments yet to come. -/
inductive FutureRule
  | nextInstallment
  | lastInstallment
  | reamortization
  deriving DecidableEq, Repr

namespace FutureRule

/-- The words of a future rule. -/
def identifier : FutureRule → String
  | nextInstallment => "NextInstallment"
  | lastInstallment => "LastInstallment"
  | reamortization => "Reamortization"

/-- The written names. -/
def name : FutureRule → String
  | nextInstallment => "NEXT_INSTALLMENT"
  | lastInstallment => "LAST_INSTALLMENT"
  | reamortization => "REAMORTIZATION"

/-- The text that people read, also beside the type of transaction of a compiled rule. -/
def label : FutureRule → String
  | nextInstallment => "Next installment"
  | lastInstallment => "Last installment"
  | reamortization => "Reamortization"

instance : Vocabulary FutureRule where
  title := "future installment allocation rule"
  all := [nextInstallment, lastInstallment, reamortization]
  identifier := identifier
  name := name
  label := label
  mem_all member := by cases member <;> decide
  name_injective {a b} h := by revert h; cases a <;> cases b <;> decide
  capitals_identifier member := by cases member <;> decide +kernel

instance : Inhabited FutureRule := ⟨nextInstallment⟩

end FutureRule

/-! ## Topologies -/

/-- The direction in which the schedule of a loan is processed. -/
inductive Topology
  | horizontal
  | vertical
  deriving DecidableEq, Repr

namespace Topology

/-- The words of a topology. -/
def identifier : Topology → String
  | horizontal => "Horizontal"
  | vertical => "Vertical"

/-- The written names. Under any other the entries of a base order pass as they are. -/
def name : Topology → String
  | horizontal => "HORIZONTAL"
  | vertical => "VERTICAL"

/-- The text that people read. -/
def label : Topology → String
  | horizontal => "Horizontal"
  | vertical => "Vertical"

instance : Vocabulary Topology where
  title := "loan schedule processing type"
  all := [horizontal, vertical]
  identifier := identifier
  name := name
  label := label
  mem_all member := by cases member <;> decide
  name_injective {a b} h := by revert h; cases a <;> cases b <;> decide
  capitals_identifier member := by cases member <;> decide +kernel

/-- A loan is processed horizontally unless its product says otherwise. -/
instance : Inhabited Topology := ⟨horizontal⟩

end Topology

end PaymentAllocation
