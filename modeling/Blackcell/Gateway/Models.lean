import Blackcell.Foundation.StrEnum

/-!
# Gateway models

The values of `gateway/models.py` that the execution runtime shares with the model gateway.

## Main definitions

* `DataClassification`, `LocalityPolicy` : how sensitive a request is, and where it may go.
* `GatewayBudget` : bounds on the usage of a model.
-/

namespace Blackcell.Gateway

/-- `DataClassification`, ordered by sensitivity. -/
inductive DataClassification where
  | «public» | internal | «private» | secret
  deriving DecidableEq, Repr

/-- The integer of a classification. -/
def DataClassification.value : DataClassification → Nat
  | .«public» => 0
  | .internal => 1
  | .«private» => 2
  | .secret => 3

/-- `DataClassification(value)`. -/
def DataClassification.ofValue? : Nat → Option DataClassification
  | 0 => some .«public»
  | 1 => some .internal
  | 2 => some .«private»
  | 3 => some .secret
  | _ => none

@[simp] theorem DataClassification.ofValue?_value (c : DataClassification) :
    ofValue? c.value = some c := by
  cases c <;> rfl

theorem DataClassification.value_of_ofValue? {n : Nat} {c : DataClassification}
    (h : ofValue? n = some c) : n = c.value := by
  unfold ofValue? at h
  split at h <;> simp_all [DataClassification.value, eq_comm]

/-- `LocalityPolicy`. -/
inductive LocalityPolicy where
  | localOnly | remoteAllowed
  deriving DecidableEq, Repr

instance : StrEnum LocalityPolicy where
  value
    | .localOnly => "local-only"
    | .remoteAllowed => "remote-allowed"
  members := [.localOnly, .remoteAllowed]
  mem_members := by intro a; cases a <;> decide
  nodup_values := by decide

/-- `GatewayBudget`: the constructor of the source refuses negative bounds. -/
structure GatewayBudget where
  maxInputTokens : Nat
  maxOutputTokens : Nat
  maxLatencyMs : Nat
  maxCostMicrousd : Nat
  deriving DecidableEq, Repr

end Blackcell.Gateway
