import Blackcell.Gateway.Router

/-!
# Command-line adapters

What the shipped adapters, `adapters/models/codex_cli.py` and `adapters/models/agy_cli.py`, report of
an answer. The Codex adapter reads the tokens from the last event of the output that states both;
the AGY adapter reports no tokens. Neither of them reports a cost.

The processes that the adapters run are outside of this code: an answer is what is left of a run
that ended in time and with success.

## Main definitions

* `usageOf`, `codexResult`, `agyResult` : `_usage`, and the results of the adapters.
* `FromCli` : a result of one of them.

## Main results

* `FromCli.costMicrousd` : the cost of a result is not reported.
-/

namespace Blackcell.Gateway

open Blackcell.Kernel

/-- `_token`: the first of the keys that holds a number of tokens. -/
def token (value : Mapping) (keys : List String) : Option Nat :=
  keys.findSome? fun key ↦ (value.get key).int?.bind fun n ↦ if 0 ≤ n then some n.toNat else none

/-- The usage that one line of the output states. -/
def lineUsage (loads : String → Option JsonValue) (line : String) : Option (Nat × Nat) := do
  let event ← (← loads line).fields?
  let usage ← (event.get "usage").fields?
  let inputTokens ← token usage ["input_tokens", "prompt_tokens"]
  let outputTokens ← token usage ["output_tokens", "completion_tokens"]
  pure (inputTokens, outputTokens)

/-- `_usage`: the last usage that a line of the output states, where `loads` is `json.loads`. -/
def usageOf (loads : String → Option JsonValue) (lines : List String) : Routed (Nat × Nat) :=
  match (lines.filter fun line ↦ !isBlank line).filterMap (lineUsage loads) |>.getLast? with
  | some usage => pure usage
  | none => throw (.adapter "Codex CLI response omitted exact token usage")

/-- The result of `CodexCliModelAdapter.invoke`. -/
def codexResult (loads : String → Option JsonValue) (lines : List String) (output : Mapping)
    (latencyMs : Nat) : Routed AdapterResult := do
  let (inputTokens, outputTokens) ← usageOf loads lines
  pure {
    output := output
    inputTokens := inputTokens
    outputTokens := outputTokens
    latencyMs := latencyMs
    costMicrousd := none
    deterministic := false }

/-- The result of `AgyCliModelAdapter.invoke`. -/
def agyResult (output : Mapping) (latencyMs : Nat) : AdapterResult where
  output := output
  inputTokens := none
  outputTokens := none
  latencyMs := latencyMs
  costMicrousd := none
  deterministic := false

/-- A result of a shipped adapter. -/
inductive FromCli (result : AdapterResult) : Prop where
  | codex (loads : String → Option JsonValue) (lines : List String) (output : Mapping)
      (latencyMs : Nat) (h : codexResult loads lines output latencyMs = .ok result)
  | agy (output : Mapping) (latencyMs : Nat) (h : agyResult output latencyMs = result)

/-- **No cost.** The shipped adapters do not report a cost. -/
theorem FromCli.costMicrousd {result : AdapterResult} (h : FromCli result) :
    result.costMicrousd = none := by
  cases h with
  | codex loads lines output latencyMs h =>
    simp only [codexResult, Checked.bind_eq_ok] at h
    obtain ⟨⟨inputTokens, outputTokens⟩, -, h⟩ := h
    cases h
    rfl
  | agy output latencyMs h =>
    cases h
    rfl

end Blackcell.Gateway
