import LaunchOS.AiRuntime.DomainSteps
import LaunchOS.AiRuntime.RequiredContext

/-!
# The contexts of agent runs

What the runs of a workflow are to be shown fits the contracts of their agents.

The module introduces:

* `AgentRun.FitsContract`: the references of a run fit its contract within the default budget;
* `AgentRun.context_built`: what the builder then makes of them;
* `FitsRegistered`: references fit the contract with a key;
* `SpawnsFit own builder r`: a transaction creates no run with a reference in `own` but such runs.
-/

namespace LaunchOS

open ContextBuilder Txn

variable {M T : Type}

/-- The contract of the run is registered, the builder knows the types that it allows, and the
references of the run fit it within the default budget. -/
def AgentRun.FitsContract (builder : Builder) (agentRun : AgentRun M) : Prop :=
  ∃ contract,
    phase4AgentRegistry.resolve agentRun.contractKey agentRun.contractVersion = .ok contract ∧
    contract.allowedContextTypes ⊆ builder.types ∧
    Fits ({} : ContextBudget).maxItems contract.toContextContract agentRun.contextRefs

/-- Whatever rows the references of the run name: if they are of its tenant and pass the scans, the
default budget leaves an item of each type that its contract requires. -/
def AgentRun.ContextBuilt (builder : Builder) (agentRun : AgentRun M) : Prop :=
  ∃ contract,
    phase4AgentRegistry.resolve agentRun.contractKey agentRun.contractVersion = .ok contract ∧
    ∀ (instant : Text → ℤ) (H : StableHash) (T : Tables),
      (∀ reference ∈ agentRun.contextRefs,
        Readable H {} T agentRun.scope contract.context.contractKey reference) →
      ∃ bundle, build instant H builder {} T agentRun.scope contract.context agentRun.contextRefs =
          .ok bundle ∧
        ∀ type ∈ contract.requiredContextTypes,
          ∃ item ∈ bundle.items, item.sourceObjectType = type.toList

theorem AgentRun.FitsContract.contextBuilt {builder : Builder} {agentRun : AgentRun M}
    (h : agentRun.FitsContract builder) : agentRun.ContextBuilt builder := by
  obtain ⟨contract, hresolve, hknown, hfits⟩ := h
  have hcontext : Fits ({} : ContextBudget).maxItems contract.context.toContextContract
      agentRun.contextRefs := hfits
  exact ⟨contract, hresolve, fun instant H T hread => build_of_fits hcontext hknown hread⟩

/-- Nothing that a run keeps decides whether it fits. -/
theorem AgentRun.SameIdentity.fitsContract {builder : Builder} {agentRun agentRun' : AgentRun M}
    (h : agentRun.SameIdentity agentRun') :
    agentRun'.FitsContract builder ↔ agentRun.FitsContract builder := by
  rw [FitsContract, FitsContract, h.contractKey, h.contractVersion, h.contextRefs]

/-- The references fit the first version of the contract that is registered under the key. -/
def FitsRegistered (builder : Builder) (contractKey : String)
    (contextRefs : List ContextReference) : Prop :=
  ∃ contract ∈ phase4AgentRegistry.contracts,
    contract.contractKey = contractKey ∧ contract.contractVersion = 1 ∧
    contract.allowedContextTypes ⊆ builder.types ∧
    Fits ({} : ContextBudget).maxItems contract.toContextContract contextRefs

/-- The run that `create_agent_run` makes of such references fits its contract. -/
theorem FitsRegistered.row {builder : Builder} {args : CreateAgentRun}
    (h : FitsRegistered builder args.contractKey args.contextRefs)
    (hversion : args.contractVersion = 1) (id jobId : Id) :
    (args.row (M := M) id jobId).FitsContract builder := by
  obtain ⟨contract, hmem, hkey, hfirst, hknown, hfits⟩ := h
  refine ⟨contract, ?_, hknown, hfits⟩
  show phase4AgentRegistry.resolve args.contractKey args.contractVersion = .ok contract
  rw [← hkey, hversion, ← hfirst]
  exact AgentRegistry.resolve_of_mem hmem

/-! ## Transactions -/

/-- From `db` to `db'` the runs that are added fit their contracts if their references are in `own`,
and the tables of the domain change as `r` says. -/
structure SpawnsFit (own : RunRef → Bool) (builder : Builder) (r : T → T → Prop)
    (db db' : AgentDatabase M T) : Prop extends Frames r db db' where
  runs : ∀ agentRun ∈ db'.tables.agentRuns, agentRun ∈ db.tables.agentRuns ∨
    (agentRun.inputRef.any own = true → agentRun.FitsContract builder)

section SpawnsFit

variable {own : RunRef → Bool} {builder : Builder} {r : T → T → Prop}

theorem SpawnsFit.mono {r' : T → T → Prop} (hr : ∀ t t', r t t' → r' t t') {db db' : AgentDatabase M T}
    (h : SpawnsFit own builder r db db') : SpawnsFit own builder r' db db' :=
  ⟨⟨h.nextId, hr _ _ h.domain⟩, h.runs⟩

variable [IsPreorder T r]

instance : IsPreorder (AgentDatabase M T) (SpawnsFit own builder r) where
  refl db := ⟨refl db, fun _ hrun => .inl hrun⟩
  trans db db' db'' h h' := by
    refine ⟨h.toFrames.trans h'.toFrames, fun agentRun hrun => ?_⟩
    rcases h'.runs agentRun hrun with hold | hfits
    · exact h.runs agentRun hold
    · exact .inr hfits

theorem fitsWithin_createJob (now : Time) (args : CreateJob) :
    Within (SpawnsFit own builder r) (DomainTxn.createJob (M := M) now args) := by
  intro db job db' h
  have hframes : Frames r db db' := framesWithin_createJob now args db job db' h
  obtain ⟨rfl, -⟩ := DomainTxn.createJob_eq_ok h
  exact ⟨hframes, fun _ hrun => .inl hrun⟩

theorem fitsWithin_createAgentRun (now : Time) {args : CreateAgentRun}
    (admission : Except JobError Unit)
    (hfits : args.inputRef.any own = true →
      ∀ id jobId, (args.row (M := M) id jobId).FitsContract builder) :
    Within (SpawnsFit own builder r) (DomainTxn.createAgentRun (M := M) now args admission) := by
  intro db agentRun db' h
  refine ⟨framesWithin_createAgentRun now args admission db agentRun db' h, ?_⟩
  rcases createAgentRun_eq_ok h with ⟨rfl, -⟩ | hinsert
  · exact fun _ hrun => .inl hrun
  · obtain ⟨job, -, -, -, rfl, rfl⟩ := insertAgentRun_eq_ok hinsert
    intro added hadded
    rcases List.mem_append.mp hadded with hold | hnew
    · exact .inl hold
    · rw [List.mem_singleton.mp hnew]
      exact .inr fun href => hfits href _ _

theorem domainRelation_spawnsFit (now : Time) (own : RunRef → Bool) (builder : Builder)
    (r : T → T → Prop) [IsPreorder T r] :
    DomainRelation (M := M) now (fun ref => !own ref) r (SpawnsFit own builder r) where
  modifyTables f hf := within_modify _ fun db =>
    ⟨⟨le_rfl, hf db.tables.domain⟩, fun _ hrun => .inl hrun⟩
  newId := by
    rintro db id db' ⟨⟩
    exact ⟨⟨Nat.le_succ _, refl _⟩, fun _ hrun => .inl hrun⟩
  addOutboxEvent scope eventType := within_modify _ fun _ =>
    ⟨⟨Nat.le_succ _, refl _⟩, fun _ hrun => .inl hrun⟩
  createAgentRun args admission href _ := by
    refine fitsWithin_createAgentRun now admission fun hown => ?_
    -- the reference is not one of `own`
    cases hinput : args.inputRef with
    | none =>
        rw [hinput] at hown
        cases hown
    | some ref =>
        simp only [hinput, Option.any_some, Option.all_some] at hown href
        rw [hown] at href
        cases href

theorem fitsWithin_perform (now : Time) (ownKey : JobKey → Bool) (work : ForeignWork) :
    Within (SpawnsFit own builder r) (work.perform (M := M) now ownKey own) := by
  have h := domainRelation_spawnsFit (M := M) now own builder r
  refine within_ite (fun hallowed => ?_) fun _ => within_pure _
  cases work with
  | createJob args => exact h.bind (fitsWithin_createJob now args) fun _ => h.pure _
  | createAgentRun args admission =>
      refine h.bind (fitsWithin_createAgentRun now admission fun hown => ?_) fun _ => h.pure _
      rw [ForeignWork.allowed, hown] at hallowed
      cases hallowed
  | outboxEvent scope eventType => exact h.addOutboxEvent scope eventType

end SpawnsFit

/-! ## Invariants -/

/-- All runs with a reference in `own` fit their contracts. -/
def RunsFit (own : RunRef → Bool) (builder : Builder) (runs : List (AgentRun M)) : Prop :=
  ∀ agentRun ∈ runs, agentRun.inputRef.any own = true → agentRun.FitsContract builder

theorem RunsFit.spawns {own : RunRef → Bool} {builder : Builder} {r : T → T → Prop}
    {db db' : AgentDatabase M T} (h : RunsFit own builder db.tables.agentRuns)
    (hspawns : SpawnsFit own builder r db db') : RunsFit own builder db'.tables.agentRuns := by
  intro agentRun hrun hown
  rcases hspawns.runs agentRun hrun with hold | hfits
  · exact h agentRun hold hown
  · exact hfits hown

theorem RunsFit.updateRun {own : RunRef → Bool} {builder : Builder} {t : AgentTables M T}
    (h : RunsFit own builder t.agentRuns) (runId : Id) {f : AgentRun M → AgentRun M}
    (hf : ∀ agentRun, AgentRun.SameIdentity agentRun (f agentRun)) :
    RunsFit own builder (t.updateRun runId f).agentRuns := by
  intro agentRun hrun hown
  rcases Table.mem_modify_cases hrun with ⟨old, hold, -, rfl⟩ | ⟨hold, -⟩
  · rw [(hf old).inputRef] at hown
    exact (hf old).fitsContract.mpr (h old hold hown)
  · exact h agentRun hold hown

end LaunchOS
