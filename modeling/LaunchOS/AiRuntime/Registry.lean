import LaunchOS.AiRuntime.ContextBuilder
import LaunchOS.AiRuntime.Schemas

/-!
# The agent registry

`AgentRegistry` of `ai_runtime/registry.py` and the contracts that the application registers in
`ai_runtime/registry.py` and `production/registry.py`, as far as the context builder reads them.

The module introduces:

* `AgentContract`: the types of context of an agent, with the checks of `_validate_contract`;
* `AgentRegistry`, `AgentRegistry.resolve`;
* `phase4AgentRegistry`: the contracts of all agents;
* `resolve_of_mem`: a contract that is registered is found.
-/

namespace LaunchOS

/-- `AgentContract` -/
structure AgentContract extends ContextContract where
  contractKey : String
  contractVersion : ℕ := 1
  /-- "agent contract version must be positive" -/
  version_pos : 1 ≤ contractVersion := by decide
  /-- "agent contract must declare allowed context types" -/
  allowed_ne_nil : allowedContextTypes ≠ [] := by decide
  /-- "required context types must be a subset of allowed context types" -/
  required_subset : requiredContextTypes ⊆ allowedContextTypes := by decide

namespace AgentContract

/-- What `AgentRegistry` files a contract under. -/
def registryKey (contract : AgentContract) : String × ℕ :=
  (contract.contractKey, contract.contractVersion)

/-- What `ContextBuilder.build` reads of the contract. -/
def context (contract : AgentContract) : ContextBuilder.Contract where
  toContextContract := contract.toContextContract
  contractKey := contract.contractKey.toList

end AgentContract

/-- `AgentRegistry` -/
structure AgentRegistry where
  contracts : List AgentContract
  /-- "duplicate agent contract version" -/
  keys : Table.KeysNodup AgentContract.registryKey contracts

namespace AgentRegistry

/-- `AgentRegistry.resolve` -/
def resolve (registry : AgentRegistry) (contractKey : String) (contractVersion : ℕ) :
    Except JobError AgentContract :=
  orRaise (.aiContractError
      ("unknown agent contract: " ++ contractKey ++ " v" ++ toString contractVersion))
    (Table.find AgentContract.registryKey (contractKey, contractVersion) registry.contracts)

theorem resolve_eq_ok_iff {registry : AgentRegistry} {contractKey : String} {contractVersion : ℕ}
    {contract : AgentContract} :
    registry.resolve contractKey contractVersion = .ok contract ↔
      contract ∈ registry.contracts ∧ contract.registryKey = (contractKey, contractVersion) := by
  rw [resolve, orRaise_eq_ok_iff, registry.keys.find_eq_some_iff]

/-- A contract that is registered is found. -/
theorem resolve_of_mem {registry : AgentRegistry} {contract : AgentContract}
    (h : contract ∈ registry.contracts) :
    registry.resolve contract.contractKey contract.contractVersion = .ok contract :=
  resolve_eq_ok_iff.mpr ⟨h, rfl⟩

end AgentRegistry

/-! ## The contracts -/

/-- `runtime_probe_contract` -/
def runtimeProbeContract : AgentContract where
  contractKey := "ai.runtime_probe"
  allowedContextTypes := ["business", "goal", "constraint", "source_record", "evidence"]
  requiredContextTypes := ["business"]

/-- `_specialist_contract` -/
def specialistContract (key : String) : AgentContract where
  contractKey := key
  allowedContextTypes := ["business_snapshot"]
  requiredContextTypes := ["business_snapshot"]

/-- `specialist_contracts` -/
def specialistContracts : List AgentContract := specialistContractKeys.map specialistContract

/-- `chief_growth_producer_contract` -/
def chiefGrowthProducerContract : AgentContract where
  contractKey := chiefGrowthProducerContractKey
  allowedContextTypes :=
    ["business_snapshot", "specialist_contribution", "decision_candidate", "controller_review"]
  requiredContextTypes := ["business_snapshot", "specialist_contribution"]

/-- `_controller_contract` -/
def controllerContract (key : String) : AgentContract where
  contractKey := key
  allowedContextTypes := ["business_snapshot", "decision_candidate"]
  requiredContextTypes := ["business_snapshot", "decision_candidate"]

/-- `controller_contracts` -/
def controllerContracts : List AgentContract :=
  requiredControllerTypes.map fun type => controllerContract (controllerContractKey type)

/-- `content_director_contract` -/
def contentDirectorContract : AgentContract where
  contractKey := contentDirectorContractKey
  allowedContextTypes := ["business_snapshot", "decision", "evidence"]
  requiredContextTypes := ["business_snapshot", "decision"]

/-- `telegram_writer_contract` -/
def telegramWriterContract : AgentContract where
  contractKey := telegramWriterContractKey
  allowedContextTypes :=
    ["business_snapshot", "decision", "content_strategy", "creative_brief", "asset_version",
      "asset_review", "evidence"]
  requiredContextTypes := ["business_snapshot", "decision", "content_strategy", "creative_brief"]

/-- `_asset_controller_contract` -/
def assetControllerContract (key : String) : AgentContract where
  contractKey := key
  allowedContextTypes :=
    ["business_snapshot", "decision", "creative_brief", "asset_version", "asset_rights_provenance",
      "evidence"]
  requiredContextTypes :=
    ["business_snapshot", "decision", "creative_brief", "asset_version", "asset_rights_provenance"]

/-- `asset_controller_contracts` -/
def assetControllerContracts : List AgentContract :=
  requiredAssetControllerTypes.map fun type =>
    assetControllerContract (assetControllerContractKey type)

/-- `phase3_agent_registry` -/
def phase3AgentRegistry : AgentRegistry where
  contracts := runtimeProbeContract ::
    (specialistContracts ++ chiefGrowthProducerContract :: controllerContracts)
  keys := by unfold Table.KeysNodup; decide +kernel

/-- `phase4_agent_registry` -/
def phase4AgentRegistry : AgentRegistry where
  contracts := phase3AgentRegistry.contracts ++
    contentDirectorContract :: telegramWriterContract :: assetControllerContracts
  keys := by unfold Table.KeysNodup; decide +kernel

end LaunchOS
