import LaunchOS.Application.DecisionApp

/-!
# One advance of the decision workflow

The module introduces:

* `RunsKeyed`: the runs of the workflows are numbered by their idempotency keys, so that
  `create_agent_run` never finds the run it is to create;
* `DecisionWorkflow.polls`: some run of the stage is pending, and none is to be created;
* `DecisionWorkflow.Reached`: the suffixes of the advance jobs that may be in use;
* `advanceWorkflow_spec`: an advance that returns ends the workflow, leaves it waiting for a job
  whose suffix was not in use before, or polls, and then asks for a job whose suffix may be in use.
-/

namespace LaunchOS

open Txn

variable {M α : Type}

/-! ## The runs of the workflows -/

/-- The contract of the runs with a reference of a decision workflow. -/
def RunRef.contractKey : RunRef → String
  | .specialist _ contractKey | .candidate _ _ contractKey => contractKey
  | .chief _ _ => chiefGrowthProducerContractKey
  | _ => ""

/-- A run of a decision workflow is the first or a later one of those with its reference. -/
structure AgentRun.KeyedAs (run : AgentRun M) (ref : RunRef) (runs : List (AgentRun M)) :
    Prop where
  isDecision : ref.isDecision
  inputRef : run.inputRef = some ref
  contractKey : run.contractKey = ref.contractKey
  contractVersion : run.contractVersion = 1
  idempotencyKey : run.idempotencyKey = some (.base ref) ∨
    ∃ n ≤ countRuns run.scope [ref] runs, run.idempotencyKey = some (.retry ref n)

/-- Every run with a reference of a decision workflow is keyed. -/
def RunsKeyed (runs : List (AgentRun M)) : Prop :=
  ∀ run ∈ runs, run.owned RunRef.isDecision → ∃ ref, run.KeyedAs ref runs

theorem countRuns_append (scope : TenantScope) (refs : List RunRef)
    (runs runs' : List (AgentRun M)) :
    countRuns scope refs (runs ++ runs') = countRuns scope refs runs + countRuns scope refs runs' :=
  List.countP_append

/-- Only the runs with the references count. -/
theorem countRuns_filter_owned (scope : TenantScope) {own : RunRef → Bool} {refs : List RunRef}
    (hrefs : ∀ ref ∈ refs, own ref) (runs : List (AgentRun M)) :
    countRuns scope refs (runs.filter (AgentRun.owned own)) = countRuns scope refs runs := by
  rw [countRuns, countRuns, List.countP_filter]
  refine List.countP_congr fun run _ => ?_
  simp only [Bool.and_eq_true, decide_eq_true_eq, Option.any_eq_true, AgentRun.owned,
    Bool.or_eq_true]
  constructor
  · rintro ⟨hmine, -⟩
    exact hmine
  · rintro ⟨hscope, ref, href, hmem⟩
    exact ⟨⟨hscope, ref, href, hmem⟩, .inl ⟨ref, href, hrefs ref hmem⟩⟩

/-- What keeps the identity of the runs keeps their number. -/
theorem countRuns_map (scope : TenantScope) (refs : List RunRef) {f : AgentRun M → AgentRun M}
    (hf : ∀ run : AgentRun M, run.SameIdentity (f run)) (runs : List (AgentRun M)) :
    countRuns scope refs (runs.map f) = countRuns scope refs runs := by
  rw [countRuns, countRuns, List.countP_map]
  refine List.countP_congr fun run _ => ?_
  simp only [Function.comp, (hf run).scope, (hf run).inputRef]

theorem AgentRun.KeyedAs.mono {run : AgentRun M} {ref : RunRef} {runs runs' : List (AgentRun M)}
    (h : run.KeyedAs ref runs)
    (hle : countRuns run.scope [ref] runs ≤ countRuns run.scope [ref] runs') :
    run.KeyedAs ref runs' where
  isDecision := h.isDecision
  inputRef := h.inputRef
  contractKey := h.contractKey
  contractVersion := h.contractVersion
  idempotencyKey := h.idempotencyKey.imp_right fun ⟨n, hn, hkey⟩ => ⟨n, hn.trans hle, hkey⟩

/-- The runs of the rest of the application do not matter. -/
theorem RunsKeyed.of_ownRuns {runs runs' : List (AgentRun M)} (h : RunsKeyed runs)
    (hown : runs'.filter (AgentRun.owned RunRef.isDecision) =
      runs.filter (AgentRun.owned RunRef.isDecision)) : RunsKeyed runs' := by
  intro run hrun howned
  have hold : run ∈ runs := by
    have hmem := List.mem_filter.mpr ⟨hrun, howned⟩
    rw [hown] at hmem
    exact (List.mem_filter.mp hmem).1
  obtain ⟨ref, hkeyed⟩ := h run hold howned
  refine ⟨ref, hkeyed.mono (le_of_eq ?_)⟩
  have hrefs : ∀ ref' ∈ [ref], ref'.isDecision := by
    simpa using hkeyed.isDecision
  rw [← countRuns_filter_owned _ hrefs runs, ← countRuns_filter_owned _ hrefs runs', hown]

theorem RunsKeyed.map {runs : List (AgentRun M)} (h : RunsKeyed runs)
    {f : AgentRun M → AgentRun M} (hf : ∀ run : AgentRun M, run.SameIdentity (f run)) :
    RunsKeyed (runs.map f) := by
  intro run' hrun' howned
  obtain ⟨run, hrun, rfl⟩ := List.mem_map.mp hrun'
  have hsame := hf run
  rw [AgentRun.owned, hsame.inputRef, hsame.idempotencyKey] at howned
  obtain ⟨ref, hdecision, href, hcontract, hversion, hkey⟩ := h run hrun howned
  refine ⟨ref, hdecision, hsame.inputRef.trans href, hsame.contractKey.trans hcontract,
    hsame.contractVersion.trans hversion, ?_⟩
  rw [hsame.idempotencyKey, hsame.scope, countRuns_map _ _ hf]
  exact hkey

namespace RunRole

variable {role : RunRole M α} {w : DecisionWorkflow}

/-- The references and contracts of the roles fit together. -/
structure Proper (role : RunRole M α) : Prop where
  isDecision : role.ref.isDecision
  contractKey : role.contractKey = role.ref.contractKey

/-- The query for the runs of a role counts the runs with its reference. -/
theorem length_agentRuns (hrole : role.Proper) {runs : List (AgentRun M)} (h : RunsKeyed runs) :
    (role.agentRuns w runs).length = countRuns w.scope [role.ref] runs := by
  rw [agentRuns, List.length_reverse, countRuns, List.countP_eq_length_filter]
  congr 1
  refine List.filter_congr fun run hrun => ?_
  by_cases href : run.inputRef = some role.ref
  · have howned : run.owned RunRef.isDecision := by
      simp [AgentRun.owned, href, hrole.isDecision]
    obtain ⟨ref, -, href', hcontract, hversion, -⟩ := h run hrun howned
    obtain rfl : role.ref = ref := Option.some.inj (href.symm.trans href')
    simp [href, hcontract, hversion, hrole.contractKey]
  · cases hinput : run.inputRef with
    | none => simp
    | some ref =>
        rw [hinput] at href
        simp only [Option.some.injEq] at href
        simp [href]

/-- No run has the key of the next one. -/
theorem nextRunIdempotencyKey_unused (hrole : role.Proper) {runs : List (AgentRun M)}
    (h : RunsKeyed runs) {run : AgentRun M} (hrun : run ∈ runs) (hscope : run.scope = w.scope) :
    run.idempotencyKey ≠ some (role.nextRunIdempotencyKey w runs) := by
  intro hkey
  have hlength := length_agentRuns (w := w) hrole h
  have href : (role.nextRunIdempotencyKey w runs).ref = role.ref := by
    unfold nextRunIdempotencyKey
    dsimp only
    split <;> rfl
  have howned : run.owned RunRef.isDecision := by
    simp [AgentRun.owned, hkey, href, hrole.isDecision]
  obtain ⟨ref, -, hinput, -, -, hcases⟩ := h run hrun howned
  rw [hscope] at hcases
  rcases hcases with hbase | ⟨n, hn, hretry⟩
  · -- the first run is there, so the next key is that of a retry
    have hmine := Option.some.inj (hbase.symm.trans hkey)
    have hsame : ref = role.ref := by
      rw [← href, ← hmine]
      rfl
    have hpos : 0 < countRuns w.scope [role.ref] runs := by
      rw [countRuns, List.countP_pos_iff]
      exact ⟨run, hrun, by simp [hscope, hinput, hsame]⟩
    unfold nextRunIdempotencyKey at hmine
    dsimp only at hmine
    split at hmine
    next hnil =>
      rw [hnil] at hlength
      simp at hlength
      omega
    next => cases hmine
  · have hmine := Option.some.inj (hretry.symm.trans hkey)
    unfold nextRunIdempotencyKey at hmine
    dsimp only at hmine
    split at hmine
    next => cases hmine
    next =>
      cases hmine
      rw [hlength] at hn
      omega

end RunRole

/-! ## Ensuring runs -/

/-- What ensuring runs does to the database: no advance job is made, the tables of the workflow are
left alone, and runs are only added. -/
structure Spawns (db db' : AgentDatabase M DecisionTables) : Prop where
  nextId : db.nextId ≤ db'.nextId
  subset : ∀ job ∈ db.jobs, job ∈ db'.jobs
  back : ∀ job ∈ db'.jobs, job.idempotencyKey.isDecision → job ∈ db.jobs
  domain : db'.tables.domain = db.tables.domain
  runs : ∃ new, db'.tables.agentRuns = db.tables.agentRuns ++ new
  keyed : RunsKeyed db'.tables.agentRuns

namespace Spawns

variable {db db' db'' : AgentDatabase M DecisionTables}

theorem refl (h : RunsKeyed db.tables.agentRuns) : Spawns db db :=
  ⟨le_rfl, fun _ hjob => hjob, fun _ hjob _ => hjob, rfl, ⟨[], by simp⟩, h⟩

theorem trans (h : Spawns db db') (h' : Spawns db' db'') : Spawns db db'' where
  nextId := h.nextId.trans h'.nextId
  subset job hjob := h'.subset job (h.subset job hjob)
  back job hjob hown := h.back job (h'.back job hjob hown) hown
  domain := h'.domain.trans h.domain
  runs := by
    obtain ⟨new, hnew⟩ := h.runs
    obtain ⟨new', hnew'⟩ := h'.runs
    exact ⟨new ++ new', by rw [hnew', hnew, List.append_assoc]⟩
  keyed := h'.keyed

theorem countRuns_le (h : Spawns db db') (scope : TenantScope) (refs : List RunRef) :
    countRuns scope refs db.tables.agentRuns ≤ countRuns scope refs db'.tables.agentRuns := by
  obtain ⟨new, hnew⟩ := h.runs
  rw [hnew, countRuns_append]
  exact Nat.le_add_right _ _

end Spawns

/-- A run that is ready or pending. -/
def RunState.settled : Except JobError RunState → Bool
  | .ok .ready | .ok .pending => true
  | _ => false

/-- A run that is pending. -/
def RunState.isPending : Except JobError RunState → Bool
  | .ok .pending => true
  | _ => false

section EnsureRuns

variable {now : Time} {answer : DecisionAnswer} {w : DecisionWorkflow}
variable {db : AgentDatabase M DecisionTables}

/-- The run of a role that is to be created is created. -/
theorem ensures_createNextRun {role : RunRole M α} (hrole : role.Proper)
    (h : RunsKeyed db.tables.agentRuns) (contextRefs : List ContextReference)
    (admission : Except JobError Unit) :
    Ensures (DomainTxn.createAgentRun now
        { scope := w.scope
          contractKey := role.contractKey
          inputRef := some role.ref
          contextRefs := contextRefs
          jobType := role.jobType
          idempotencyKey := some (role.nextRunIdempotencyKey w db.tables.agentRuns)
          isAgentRun := role.isAgentRun } admission)
      (fun _ db' => Spawns db db' ∧
        ∃ run : AgentRun M, db'.tables.agentRuns = db.tables.agentRuns ++ [run] ∧
          run.scope = w.scope ∧ run.inputRef = some role.ref) db := by
  intro run db' hcreate
  rcases createAgentRun_eq_ok hcreate with ⟨-, hrun, hscope, -, hkey⟩ | hinsert
  · exact absurd hkey (RunRole.nextRunIdempotencyKey_unused hrole h hrun hscope)
  · obtain ⟨job, -, -, -, rfl, rfl⟩ := insertAgentRun_eq_ok hinsert
    let job : CreateJob := CreateAgentRun.job
      { scope := w.scope
        contractKey := role.contractKey
        inputRef := some role.ref
        contextRefs := contextRefs
        jobType := role.jobType
        idempotencyKey := some (role.nextRunIdempotencyKey w db.tables.agentRuns)
        isAgentRun := role.isAgentRun } db.nextId
    have hkeeps : Keeps JobKey.isDecision RunRef.isDecision SameVersions
        (db.applyJobOp now .newId) ((db.applyJobOp now .newId).applyJobOp now (.createJob job)) :=
      keeps_applyCreateJob now rfl _
    refine ⟨⟨(Nat.le_succ _).trans hkeeps.nextId, hkeeps.subset, hkeeps.back, rfl, ⟨_, rfl⟩, ?_⟩,
      _, rfl, rfl, rfl⟩
    intro run hrun howned
    rcases List.mem_append.mp hrun with hold | hnew
    · obtain ⟨ref, hkeyed⟩ := h run hold howned
      refine ⟨ref, hkeyed.mono ?_⟩
      rw [countRuns_append]
      exact Nat.le_add_right _ _
    · rw [List.mem_singleton] at hnew
      subst hnew
      refine ⟨role.ref, hrole.isDecision, rfl, hrole.contractKey, rfl, ?_⟩
      simp only [CreateAgentRun.row, RunRole.nextRunIdempotencyKey]
      split
      next => exact .inl rfl
      next =>
        refine .inr ⟨_, ?_, rfl⟩
        rw [RunRole.length_agentRuns hrole h, countRuns_append]
        refine Nat.add_le_add_left ?_ _
        simp [countRuns]

/-- What ensuring one run does. -/
theorem ensures_ensureRun {role : RunRole M α} (hrole : role.Proper)
    (h : RunsKeyed db.tables.agentRuns) {contextRefs : List ContextReference} :
    Ensures (role.ensureRun w now answer contextRefs) (fun ready db' =>
      (db' = db ∧
        role.runState w db.tables.agentRuns = .ok (if ready then .ready else .pending)) ∨
      (ready = false ∧ Spawns db db' ∧
        ∃ run : AgentRun M, db'.tables.agentRuns = db.tables.agentRuns ++ [run] ∧
          run.scope = w.scope ∧ run.inputRef = some role.ref)) db := by
  rw [RunRole.ensureRun, ensures_bind, ensures_agentRuns, ensures_bind, ensures_check]
  intro state hstate
  cases state with
  | ready =>
      rw [ensures_pure]
      exact .inl ⟨rfl, hstate⟩
  | pending =>
      rw [ensures_pure]
      exact .inl ⟨rfl, hstate⟩
  | create =>
      rw [ensures_bind]
      refine (ensures_createNextRun hrole h contextRefs answer.admission).mono fun _ db' hspawns => ?_
      rw [ensures_pure]
      exact .inr ⟨rfl, hspawns⟩

/-- What ensuring the runs of a stage does: it finds each of them ready or pending and changes
nothing, or it creates at least one. -/
structure Ensured {β : Type} (w : DecisionWorkflow) (refs : List RunRef) (role : β → RunRole M α)
    (keys : List β) (start : ℕ) (db : AgentDatabase M DecisionTables) (notReady : ℕ)
    (db' : AgentDatabase M DecisionTables) : Prop where
  spawns : Spawns db db'
  le : start ≤ notReady
  cases : (db' = db ∧
      (∀ key ∈ keys, RunState.settled ((role key).runState w db.tables.agentRuns)) ∧
      (start < notReady ↔
        ∃ key ∈ keys, RunState.isPending ((role key).runState w db.tables.agentRuns))) ∨
    (start < notReady ∧
      countRuns w.scope refs db.tables.agentRuns < countRuns w.scope refs db'.tables.agentRuns)

theorem ensures_ensureRuns {β : Type} {refs : List RunRef} {role : β → RunRole M α}
    {keys : List β} (hrole : ∀ key ∈ keys, (role key).Proper ∧ (role key).ref ∈ refs)
    (h : RunsKeyed db.tables.agentRuns) {contextRefs : List ContextReference} (start : ℕ) :
    Ensures (keys.foldlM
        (fun notReady key => do
          return if ← (role key).ensureRun w now answer contextRefs then notReady
            else notReady + 1) start)
      (fun notReady db' => Ensured w refs role keys start db notReady db') db := by
  induction keys generalizing start db with
  | nil =>
      rw [List.foldlM_nil, ensures_pure]
      exact ⟨.refl h, le_rfl, .inl ⟨rfl, by simp, by simp⟩⟩
  | cons key keys ih =>
      have hrest : ∀ key' ∈ keys, (role key').Proper ∧ (role key').ref ∈ refs :=
        fun key' hkey' => hrole key' (List.mem_cons_of_mem key hkey')
      obtain ⟨hproper, href⟩ := hrole key List.mem_cons_self
      rw [List.foldlM_cons, ensures_bind, ensures_bind]
      refine (ensures_ensureRun hproper h).mono fun ready db₁ hready => ?_
      rw [ensures_pure]
      rcases hready with ⟨rfl, hstate⟩ | ⟨rfl, hspawns, run, hruns, hscope, hinput⟩
      · refine (ih hrest h _).mono fun notReady db' hrec => ?_
        cases ready with
        | true =>
            simp only [if_true] at hrec hstate
            refine ⟨hrec.spawns, hrec.le, hrec.cases.imp_left ?_⟩
            rintro ⟨hsame, hsettled, hpending⟩
            refine ⟨hsame, List.forall_mem_cons.mpr ⟨by rw [hstate]; rfl, hsettled⟩, ?_⟩
            rw [hpending, List.exists_mem_cons_iff, hstate]
            simp [RunState.isPending]
        | false =>
            simp only [Bool.false_eq_true, if_false] at hrec hstate
            have hlt : start < notReady := hrec.le
            refine ⟨hrec.spawns, hlt.le, ?_⟩
            rcases hrec.cases with ⟨hsame, hsettled, -⟩ | ⟨-, hgrown⟩
            · refine .inl ⟨hsame, List.forall_mem_cons.mpr ⟨by rw [hstate]; rfl, hsettled⟩, ?_⟩
              refine iff_of_true hlt ⟨key, List.mem_cons_self, ?_⟩
              rw [hstate]
              rfl
            · exact .inr ⟨hlt, hgrown⟩
      · refine (ih hrest hspawns.keyed _).mono fun notReady db' hrec => ?_
        simp only [Bool.false_eq_true, if_false] at hrec
        have hlt : start < notReady := hrec.le
        have hmore : countRuns w.scope refs db.tables.agentRuns <
            countRuns w.scope refs db₁.tables.agentRuns := by
          rw [hruns, countRuns_append]
          refine Nat.lt_add_of_pos_right ?_
          simp [countRuns, hscope, hinput, href]
        exact ⟨hspawns.trans hrec.spawns, hlt.le,
          .inr ⟨hlt, hmore.trans_le (hrec.spawns.countRuns_le _ _)⟩⟩

end EnsureRuns

namespace DecisionWorkflow

/-! ## The job a workflow waits for -/

section Waiting

variable (R : RunReader M) (w : DecisionWorkflow) (db : AgentDatabase M DecisionTables)

/-- The workflow waits for the runs of a stage. -/
def running : Bool :=
  match w.status with
  | .specialistsRunning | .chiefRunning | .controllersRunning => true
  | _ => false

/-- The states of the runs of the stage. -/
def runStates : List (Except JobError RunState) :=
  let t := db.tables.domain
  let runs := db.tables.agentRuns
  match w.status with
  | .specialistsRunning =>
      specialistContractKeys.map fun key => (specialistRole R w t key).runState w runs
  | .chiefRunning => [(chiefRole R w t (nextCandidateVersion w t)).runState w runs]
  | .controllersRunning =>
      match latestCandidateOrNone w t with
      | some candidate =>
          requiredControllerTypes.map fun type =>
            (controllerRole R w t candidate type).runState w runs
      | none => []
  | _ => []

/-- Some run of the stage is pending, and none is to be created. -/
def polls : Bool :=
  (w.runStates R db).all RunState.settled && (w.runStates R db).any RunState.isPending

/-- The suffix of the advance job the stage asks for as long as its runs are not ready. -/
def wakeUp : Option DecisionAdvance :=
  let t := db.tables.domain
  let runs := db.tables.agentRuns
  match w.status with
  | .specialistsRunning => some (.specialistOutputRetry (specialistRunGeneration w runs))
  | .chiefRunning =>
      some (.chiefOutputRetry (nextCandidateVersion w t)
        (chiefRunGeneration w (nextCandidateVersion w t) runs))
  | .controllersRunning =>
      some (.controllerOutputRetry (latestCandidateVersion w t)
        (controllerRunGeneration w (latestCandidateVersion w t) runs))
  | _ => none

/-- The workflow has got as far as to use the suffix. -/
def Reached : DecisionAdvance → Prop
  | .start | .resume _ _ => True
  | .afterSpecialists => w.status ≠ .snapshotReady
  | .specialistOutputRetry generation =>
      generation ≤ specialistRunGeneration w db.tables.agentRuns
  | .afterChief version => version ≤ latestCandidateVersion w db.tables.domain ∨
      version = nextCandidateVersion w db.tables.domain ∧ w.status = .chiefRunning
  | .chiefOutputRetry version generation =>
      generation ≤ chiefRunGeneration w version db.tables.agentRuns
  | .afterControllers version => version ≤ latestCandidateVersion w db.tables.domain
  | .controllerOutputRetry version generation =>
      generation ≤ controllerRunGeneration w version db.tables.agentRuns

/-- The unique key of an advance job. -/
def advanceKey (suffix : DecisionAdvance) : TenantScope × JobType × JobKey :=
  (w.scope, .workflowAdvance, .decisionWorkflow w.id suffix)

end Waiting

/-- Nothing happens to the rows of the workflows, to the versions of the candidates, to the advance
jobs and to the runs of the workflows. -/
abbrev Quiet : AgentDatabase M DecisionTables → AgentDatabase M DecisionTables → Prop :=
  Keeps JobKey.isDecision RunRef.isDecision SameVersions

theorem quietRelation (now : Time) :
    DomainRelation (M := M) now (fun ref => !ref.isDecision) SameVersions Quiet :=
  domainRelation_keeps now (fun _ => rfl) SameVersions

/-- The latest version depends on the versions of the workflow. -/
theorem latestCandidateVersion_congr {w w' : DecisionWorkflow} {t t' : DecisionTables}
    (h : t'.versionsOf w'.id = t.versionsOf w.id) :
    latestCandidateVersion w' t' = latestCandidateVersion w t :=
  congrArg (fun versions => versions.foldr max 0) h

/-- Suffixes that have been reached stay so as candidates and runs are added, unless the workflow
leaves `CHIEF_RUNNING` without a new candidate. -/
theorem Reached.mono {w w' : DecisionWorkflow} {db db' : AgentDatabase M DecisionTables}
    {suffix : DecisionAdvance} (hreached : w.Reached db suffix) (hid : w'.id = w.id)
    (hscope : w'.scope = w.scope)
    (hlatest : latestCandidateVersion w db.tables.domain ≤
      latestCandidateVersion w' db'.tables.domain)
    (hruns : ∀ scope refs, (∀ ref ∈ refs, ref.isDecision) →
      countRuns scope refs db.tables.agentRuns ≤ countRuns scope refs db'.tables.agentRuns)
    (hstart : w.status ≠ .snapshotReady → w'.status ≠ .snapshotReady)
    (hchief : w.status = .chiefRunning → w'.status = .chiefRunning ∨
      latestCandidateVersion w db.tables.domain < latestCandidateVersion w' db'.tables.domain) :
    w'.Reached db' suffix := by
  cases suffix with
  | start => trivial
  | resume status revisionCount => trivial
  | afterSpecialists => exact hstart hreached
  | specialistOutputRetry generation =>
      refine le_trans (show generation ≤ specialistRunGeneration w _ from hreached) ?_
      have hrefs : specialistRunInputRef w' = specialistRunInputRef w := by
        funext contractKey
        rw [specialistRunInputRef, specialistRunInputRef, hid]
      rw [specialistRunGeneration, specialistRunGeneration, hscope, hrefs]
      refine hruns _ _ ?_
      simp [specialistRunInputRef, RunRef.isDecision]
  | chiefOutputRetry version generation =>
      refine le_trans (show generation ≤ chiefRunGeneration w version _ from hreached) ?_
      rw [chiefRunGeneration, chiefRunGeneration, hscope, chiefRunInputRef, chiefRunInputRef, hid]
      refine hruns _ _ ?_
      simp [RunRef.isDecision]
  | controllerOutputRetry version generation =>
      refine le_trans (show generation ≤ controllerRunGeneration w version _ from hreached) ?_
      simp only [controllerRunGeneration, controllerRunInputRef, hscope, hid]
      refine hruns _ _ ?_
      simp [RunRef.isDecision]
  | afterChief version =>
      rcases hreached with hle | ⟨hnext, hstatus⟩
      · exact .inl (hle.trans hlatest)
      · rw [nextCandidateVersion] at hnext
        rcases hchief hstatus with hstill | hlt
        · rcases hlatest.eq_or_lt with hsame | hlt
          · exact .inr ⟨by rw [nextCandidateVersion, ← hsame]; exact hnext, hstill⟩
          · exact .inl (hnext.trans_le hlt)
        · exact .inl (hnext.trans_le hlt)
  | afterControllers version => exact le_trans hreached hlatest

/-- What an advance has done to the database so far, `w` being the row it started with and `w'` the
one it holds: no advance job was made, and at most a new version of the candidate. -/
structure Moved (w w' : DecisionWorkflow) (db db' : AgentDatabase M DecisionTables) : Prop where
  id : w'.id = w.id
  scope : w'.scope = w.scope
  nextId : db.nextId ≤ db'.nextId
  subset : ∀ job ∈ db.jobs, job ∈ db'.jobs
  back : ∀ job ∈ db'.jobs, job.idempotencyKey.isDecision → job ∈ db.jobs
  workflows : db'.tables.domain.decisionWorkflows = db.tables.domain.decisionWorkflows
  others : ∀ id, id ≠ w.id →
    db'.tables.domain.versionsOf id = db.tables.domain.versionsOf id
  latest : latestCandidateVersion w db.tables.domain ≤ latestCandidateVersion w' db'.tables.domain
  runs : ∀ scope refs, (∀ ref ∈ refs, ref.isDecision) →
    countRuns scope refs db.tables.agentRuns ≤ countRuns scope refs db'.tables.agentRuns
  keyed : RunsKeyed db'.tables.agentRuns

namespace Moved

variable {w w' w'' : DecisionWorkflow} {db db' db'' : AgentDatabase M DecisionTables}

theorem refl (w : DecisionWorkflow) (h : RunsKeyed db.tables.agentRuns) : Moved w w db db :=
  ⟨rfl, rfl, le_rfl, fun _ hjob => hjob, fun _ hjob _ => hjob, rfl, fun _ _ => rfl, le_rfl,
    fun _ _ _ => le_rfl, h⟩

theorem quiet (h : Moved w w' db db') (hquiet : Quiet db' db'') : Moved w w' db db'' where
  id := h.id
  scope := h.scope
  nextId := h.nextId.trans hquiet.nextId
  subset job hjob := hquiet.subset job (h.subset job hjob)
  back job hjob hown := h.back job (hquiet.back job hjob hown) hown
  workflows := hquiet.domain.1.trans h.workflows
  others id hid := (hquiet.domain.2 id).trans (h.others id hid)
  latest := h.latest.trans (latestCandidateVersion_congr (hquiet.domain.2 w'.id)).ge
  runs scope refs hrefs := by
    refine (h.runs scope refs hrefs).trans (le_of_eq ?_)
    rw [← countRuns_filter_owned scope hrefs db'.tables.agentRuns,
      ← countRuns_filter_owned scope hrefs db''.tables.agentRuns]
    exact (congrArg (countRuns scope refs) hquiet.runs).symm
  keyed := h.keyed.of_ownRuns hquiet.runs

theorem spawns (h : Moved w w' db db') (hspawns : Spawns db' db'') : Moved w w' db db'' where
  id := h.id
  scope := h.scope
  nextId := h.nextId.trans hspawns.nextId
  subset job hjob := hspawns.subset job (h.subset job hjob)
  back job hjob hown := h.back job (hspawns.back job hjob hown) hown
  workflows := by
    rw [hspawns.domain]
    exact h.workflows
  others := by
    rw [hspawns.domain]
    exact h.others
  latest := by
    rw [hspawns.domain]
    exact h.latest
  runs scope refs hrefs := (h.runs scope refs hrefs).trans (hspawns.countRuns_le scope refs)
  keyed := hspawns.keyed

theorem trans (h : Moved w w' db db') (h' : Moved w' w'' db' db'') : Moved w w'' db db'' where
  id := h'.id.trans h.id
  scope := h'.scope.trans h.scope
  nextId := h.nextId.trans h'.nextId
  subset job hjob := h'.subset job (h.subset job hjob)
  back job hjob hown := h.back job (h'.back job hjob hown) hown
  workflows := h'.workflows.trans h.workflows
  others id hid := (h'.others id (h.id ▸ hid)).trans (h.others id hid)
  latest := h.latest.trans h'.latest
  runs scope refs hrefs := (h.runs scope refs hrefs).trans (h'.runs scope refs hrefs)
  keyed := h'.keyed

/-- Only the id and the tenant of the row matter. -/
theorem row (h : Moved w w' db db') (hid : w''.id = w'.id) (hscope : w''.scope = w'.scope) :
    Moved w w'' db db' where
  id := hid.trans h.id
  scope := hscope.trans h.scope
  nextId := h.nextId
  subset := h.subset
  back := h.back
  workflows := h.workflows
  others := h.others
  latest := by
    have hsame : latestCandidateVersion w'' db'.tables.domain =
        latestCandidateVersion w' db'.tables.domain :=
      latestCandidateVersion_congr (by rw [hid])
    rw [hsame]
    exact h.latest
  runs := h.runs
  keyed := h.keyed

theorem reached (h : Moved w w' db db')
    (hstart : w.status ≠ .snapshotReady → w'.status ≠ .snapshotReady)
    (hchief : w.status = .chiefRunning → w'.status = .chiefRunning ∨
      latestCandidateVersion w db.tables.domain < latestCandidateVersion w' db'.tables.domain)
    (suffix : DecisionAdvance) (hreached : w.Reached db suffix) : w'.Reached db' suffix :=
  hreached.mono h.id h.scope h.latest h.runs hstart hchief

end Moved

/-- What one advance does that returns: the workflow has ended, or it waits for a job whose suffix
was not in use before, or it polls, and leaves it at a job whose suffix may be in use. -/
inductive Advanced (R : RunReader M) (now : Time) (w : DecisionWorkflow)
    (db : AgentDatabase M DecisionTables) :
    DecisionWorkflow → AgentDatabase M DecisionTables → Prop
  | ended {w' : DecisionWorkflow} {db' : AgentDatabase M DecisionTables}
      (hmoved : Moved w w' db db')
      (hreached : ∀ suffix, w.Reached db suffix → w'.Reached db' suffix)
      (hended : w'.running = false) : Advanced R now w db w' db'
  | waits {w' : DecisionWorkflow} {db' : AgentDatabase M DecisionTables}
      (suffix : DecisionAdvance) (hmoved : Moved w w' db db')
      (hreached : ∀ suffix, w.Reached db suffix → w'.Reached db' suffix)
      (hsuffix : w'.Reached db' suffix) (hfresh : ¬ w.Reached db suffix) :
      Advanced R now w db w' (db'.applyJobOp now (.createJob (advanceJob w suffix)))
  | polls (suffix : DecisionAdvance) (hpolls : w.polls R db) (hwakeUp : w.wakeUp db = some suffix) :
      Advanced R now w db w (db.applyJobOp now (.createJob (advanceJob w suffix)))

section Spec

variable {R : RunReader M} {now : Time} {answer : DecisionAnswer} {w : DecisionWorkflow}
variable {db : AgentDatabase M DecisionTables}

theorem ensures_enqueueWorkflowAdvance (suffix : DecisionAdvance) :
    Ensures (enqueueWorkflowAdvance now w suffix)
      (fun _ db' => db' = db.applyJobOp now (.createJob (advanceJob w suffix))) db :=
  fun _ _ h => (DomainTxn.createJob_eq_ok h).1

theorem ensures_ensureSpecialistRuns (h : RunsKeyed db.tables.agentRuns) :
    Ensures (ensureSpecialistRuns R now answer w)
      (Ensured w (specialistContractKeys.map (specialistRunInputRef w))
        (specialistRole R w db.tables.domain) specialistContractKeys 0 db) db := by
  have hrole : ∀ key ∈ specialistContractKeys,
      (specialistRole R w db.tables.domain key).Proper ∧
        (specialistRole R w db.tables.domain key).ref ∈
          specialistContractKeys.map (specialistRunInputRef w) :=
    fun key hkey => ⟨⟨rfl, rfl⟩, List.mem_map_of_mem hkey⟩
  rw [ensureSpecialistRuns, ensures_bind, ensures_tables]
  exact ensures_ensureRuns hrole h 0

theorem ensures_ensureChiefRun {previousCandidate : Option DecisionCandidate}
    {reviews : List ControllerReview} (h : RunsKeyed db.tables.agentRuns) :
    Ensures (ensureChiefRun R now answer w previousCandidate reviews)
      (Ensured w [chiefRunInputRef w (nextCandidateVersion w db.tables.domain)]
        (chiefRole R w db.tables.domain) [nextCandidateVersion w db.tables.domain] 0 db) db := by
  have hrole : ∀ version ∈ [nextCandidateVersion w db.tables.domain],
      (chiefRole R w db.tables.domain version).Proper ∧
        (chiefRole R w db.tables.domain version).ref ∈
          [chiefRunInputRef w (nextCandidateVersion w db.tables.domain)] := by
    intro version hversion
    rw [List.mem_singleton.mp hversion]
    exact ⟨⟨rfl, rfl⟩, List.mem_singleton_self _⟩
  rw [ensureChiefRun, ensures_bind, ensures_tables]
  exact ensures_ensureRuns hrole h 0

theorem ensures_ensureControllerRuns (candidate : DecisionCandidate)
    (h : RunsKeyed db.tables.agentRuns) :
    Ensures (ensureControllerRuns R now answer w candidate)
      (Ensured w
        (requiredControllerTypes.map fun type =>
          controllerRunInputRef w candidate.versionNumber (controllerContractKey type))
        (controllerRole R w db.tables.domain candidate) requiredControllerTypes 0 db) db := by
  have hrole : ∀ type ∈ requiredControllerTypes,
      (controllerRole R w db.tables.domain candidate type).Proper ∧
        (controllerRole R w db.tables.domain candidate type).ref ∈
          requiredControllerTypes.map fun type =>
            controllerRunInputRef w candidate.versionNumber (controllerContractKey type) :=
    fun type htype => ⟨⟨rfl, rfl⟩, List.mem_map.mpr ⟨type, htype, rfl⟩⟩
  rw [ensureControllerRuns, ensures_bind, ensures_tables]
  exact ensures_ensureRuns hrole h 0

/-- Waiting for the next stage, after the rows have changed as `Moved` says. -/
theorem Advanced.of_moved {w' w'' : DecisionWorkflow} {db' : AgentDatabase M DecisionTables}
    (suffix : DecisionAdvance) (hmoved : Moved w w' db db')
    (hreached : ∀ suffix, w.Reached db suffix → w'.Reached db' suffix)
    (hsuffix : w'.Reached db' suffix) (hfresh : ¬ w.Reached db suffix)
    (hid : w''.id = w.id) (hscope : w''.scope = w.scope) :
    Advanced R now w db w' (db'.applyJobOp now (.createJob (advanceJob w'' suffix))) := by
  have hjob : advanceJob w'' suffix = advanceJob w suffix := by
    rw [advanceJob, advanceJob, hid, hscope]
  rw [hjob]
  exact .waits suffix hmoved hreached hsuffix hfresh

/-- Going to `CHIEF_RUNNING` from another status. -/
theorem ensures_enterChiefRunning {w₁ : DecisionWorkflow}
    {previousCandidate : Option DecisionCandidate} {reviews : List ControllerReview}
    {db₁ : AgentDatabase M DecisionTables} (hmoved : Moved w w₁ db db₁)
    (hlatest : latestCandidateVersion w₁ db₁.tables.domain =
      latestCandidateVersion w db.tables.domain) (hstatus : w.status ≠ .chiefRunning) :
    Ensures (enterChiefRunning R now answer w₁ previousCandidate reviews)
      (Advanced R now w db) db₁ := by
  rw [enterChiefRunning, ensures_bind]
  refine (ensures_ensureChiefRun hmoved.keyed).mono fun notReady db₂ hensured => ?_
  rw [ensures_bind, ensures_tables, ensures_bind]
  refine (ensures_enqueueWorkflowAdvance _).mono ?_
  rintro _ _ rfl
  rw [ensures_pure]
  have hmoved' : Moved w { w₁ with status := .chiefRunning } db db₂ :=
    (hmoved.spawns hensured.spawns).row rfl rfl
  have hsame : latestCandidateVersion w₁ db₂.tables.domain =
      latestCandidateVersion w db.tables.domain := by
    rw [hensured.spawns.domain]
    exact hlatest
  refine .of_moved _ hmoved' (hmoved'.reached (by simp) fun h => absurd h hstatus)
    (.inr ⟨rfl, rfl⟩) ?_ hmoved.id hmoved.scope
  rintro (hle | ⟨-, hchief⟩)
  · rw [nextCandidateVersion, hsame] at hle
    exact absurd hle (Nat.not_succ_le_self _)
  · exact hstatus hchief

/-- The runs of the stage are not ready: the workflow polls, or a run has been created and the
wake-up is a new one. -/
theorem Advanced.retry {β : Type} {refs : List RunRef} {role : β → RunRole M α} {keys : List β}
    {notReady : ℕ} {db₁ : AgentDatabase M DecisionTables} (h : RunsKeyed db.tables.agentRuns)
    (hensured : Ensured w refs role keys 0 db notReady db₁) (hne : notReady ≠ 0)
    (hstates : w.runStates R db =
      keys.map fun key => (role key).runState w db.tables.agentRuns)
    {suffix : ℕ → DecisionAdvance}
    (hwakeUp : w.wakeUp db = some (suffix (countRuns w.scope refs db.tables.agentRuns)))
    (hsuffix : ∀ (db' : AgentDatabase M DecisionTables) generation,
      w.Reached db' (suffix generation) ↔
        generation ≤ countRuns w.scope refs db'.tables.agentRuns) :
    Advanced R now w db w (db₁.applyJobOp now
      (.createJob (advanceJob w (suffix (countRuns w.scope refs db₁.tables.agentRuns))))) := by
  rcases hensured.cases with ⟨rfl, hsettled, hpending⟩ | ⟨-, hlt⟩
  · refine .polls _ ?_ hwakeUp
    obtain ⟨key, hkey, hkeyPending⟩ := hpending.mp (Nat.pos_of_ne_zero hne)
    rw [DecisionWorkflow.polls, hstates, Bool.and_eq_true, List.all_map, List.any_map]
    exact ⟨List.all_eq_true.mpr hsettled, List.any_eq_true.mpr ⟨key, hkey, hkeyPending⟩⟩
  · have hmoved : Moved w w db db₁ := (Moved.refl w h).spawns hensured.spawns
    refine .waits _ hmoved (hmoved.reached (fun hstart => hstart) .inl) ((hsuffix db₁ _).mpr le_rfl) ?_
    rw [hsuffix]
    exact not_le.mpr hlt

/-- The next candidate does not exist yet. -/
theorem candidateForVersion_next (w : DecisionWorkflow) (t : DecisionTables) :
    candidateForVersion w (nextCandidateVersion w t) t = none := by
  rw [candidateForVersion, List.find?_eq_none]
  intro c hc
  have hne : c.versionNumber ≠ latestCandidateVersion w t + 1 :=
    (Nat.lt_succ_of_le (Table.le_maxOf hc)).ne
  exact fun h => hne (of_decide_eq_true h)

/-- The new candidate is the next one, and from then on the latest. -/
theorem ensures_materializeCandidate (h : RunsKeyed db.tables.agentRuns) :
    Ensures (materializeCandidate R answer w) (fun candidate db' => Moved w w db db' ∧
      candidate.versionNumber = nextCandidateVersion w db.tables.domain ∧
      latestCandidateVersion w db'.tables.domain = candidate.versionNumber) db := by
  rw [materializeCandidate, ensures_bind, ensures_tables]
  dsimp only
  rw [candidateForVersion_next]
  dsimp only
  rw [ensures_bind, ensures_agentRuns, ensures_bind, ensures_check]
  rintro ⟨run, output⟩ -
  rw [ensures_bind, ensures_check]
  intro _ _
  rw [ensures_bind, ensures_newId, ensures_bind, ensures_modifyTables, ensures_pure]
  dsimp only
  have hversions : ∀ (c : DecisionCandidate) (id : Id),
      { db.tables.domain with
        decisionCandidates := db.tables.domain.decisionCandidates ++ [c] }.versionsOf id =
        db.tables.domain.versionsOf id ++ if c.workflowId = id then [c.versionNumber] else [] := by
    intro c id
    rw [DecisionTables.versionsOf, List.filter_append, List.map_append, DecisionTables.versionsOf]
    by_cases hid : c.workflowId = id <;> simp [hid]
  have hlatest : ∀ c : DecisionCandidate, c.workflowId = w.id →
      latestCandidateVersion w { db.tables.domain with
        decisionCandidates := db.tables.domain.decisionCandidates ++ [c] } =
        max (latestCandidateVersion w db.tables.domain) c.versionNumber := by
    intro c hc
    have hmine : candidatesOf w { db.tables.domain with
        decisionCandidates := db.tables.domain.decisionCandidates ++ [c] } =
          candidatesOf w db.tables.domain ++ [c] := by
      simp [candidatesOf, hc]
    rw [latestCandidateVersion, hmine, Table.maxOf_append, Table.maxOf_singleton,
      latestCandidateVersion]
  have hnext : latestCandidateVersion w db.tables.domain ≤
      nextCandidateVersion w db.tables.domain := Nat.le_succ _
  refine ⟨⟨rfl, rfl, Nat.le_succ _, fun _ hjob => hjob, fun _ hjob _ => hjob, rfl, ?_, ?_,
    fun _ _ _ => le_rfl, h⟩, rfl, ?_⟩
  · intro id hid
    refine (hversions _ id).trans ?_
    simp [Ne.symm hid]
  · refine le_of_le_of_eq ?_ (hlatest _ rfl).symm
    exact le_max_left _ _
  · exact (hlatest _ rfl).trans (max_eq_right hnext)

/-- The latest candidate has the latest version. -/
theorem versionNumber_latestCandidate {t : DecisionTables} {candidate : DecisionCandidate}
    (h : latestCandidate w t = .ok candidate) :
    latestCandidateOrNone w t = some candidate ∧
      candidate.versionNumber = latestCandidateVersion w t := by
  have hfound : latestCandidateOrNone w t = some candidate := orRaise_eq_ok_iff.mp h
  refine ⟨hfound, ?_⟩
  rw [latestCandidateOrNone, candidateForVersion] at hfound
  simpa using List.find?_some hfound

theorem ensures_advanceSnapshot (h : RunsKeyed db.tables.agentRuns)
    (hstatus : w.status = .snapshotReady) :
    Ensures (advanceSnapshot R now answer w) (Advanced R now w db) db := by
  rw [advanceSnapshot, ensures_bind]
  refine (ensures_ensureSpecialistRuns h).mono fun notReady db₁ hensured => ?_
  rw [ensures_bind]
  refine (ensures_enqueueWorkflowAdvance _).mono ?_
  rintro _ _ rfl
  rw [ensures_pure]
  have hmoved : Moved w { w with status := .specialistsRunning } db db₁ :=
    ((Moved.refl w h).spawns hensured.spawns).row rfl rfl
  refine .waits _ hmoved (hmoved.reached (by simp) (by simp [hstatus])) (by simp [Reached]) ?_
  simp [Reached, hstatus]

theorem ensures_advanceSpecialists (h : RunsKeyed db.tables.agentRuns)
    (hstatus : w.status = .specialistsRunning) :
    Ensures (advanceSpecialists R now answer w) (Advanced R now w db) db := by
  rw [advanceSpecialists, ensures_bind]
  refine (ensures_ensureSpecialistRuns h).mono fun notReady db₁ hensured => ?_
  rw [ensures_ite]
  constructor
  · intro hne
    rw [ensures_bind, ensures_agentRuns, ensures_bind]
    refine (ensures_enqueueWorkflowAdvance _).mono ?_
    rintro _ _ rfl
    rw [ensures_pure]
    refine .retry h hensured hne ?_ ?_ fun _ _ => Iff.rfl
    · rw [runStates, hstatus]
    · rw [wakeUp, hstatus]
      rfl
  · intro _
    rw [ensures_bind]
    refine (within_materializeSpecialistContributions (quietRelation now)
      (fun _ _ => ⟨rfl, fun _ => rfl⟩) R answer w db₁).mono fun _ db₂ hquiet => ?_
    refine ensures_enterChiefRunning
      (((Moved.refl w h).spawns hensured.spawns).quiet hquiet) ?_ (by simp [hstatus])
    rw [latestCandidateVersion_congr (hquiet.domain.2 w.id), hensured.spawns.domain]

theorem ensures_advanceChief (h : RunsKeyed db.tables.agentRuns)
    (hstatus : w.status = .chiefRunning) :
    Ensures (advanceChief R now answer w) (Advanced R now w db) db := by
  rw [advanceChief, ensures_bind]
  refine (ensures_ensureChiefRun h).mono fun notReady db₁ hensured => ?_
  rw [ensures_ite]
  constructor
  · intro hne
    rw [ensures_bind, ensures_tables, ensures_bind, ensures_agentRuns, ensures_bind]
    refine (ensures_enqueueWorkflowAdvance _).mono ?_
    rintro _ _ rfl
    rw [ensures_pure, hensured.spawns.domain]
    refine .retry h hensured hne ?_ ?_ fun _ _ => Iff.rfl
    · rw [runStates, hstatus]
      rfl
    · rw [wakeUp, hstatus]
      rfl
  · intro _
    rw [ensures_bind]
    refine (ensures_materializeCandidate hensured.spawns.keyed).mono ?_
    rintro candidate db₂ ⟨hmade, hnumber, hlatest⟩
    rw [hensured.spawns.domain] at hnumber
    rw [ensures_bind]
    refine (ensures_ensureControllerRuns candidate hmade.keyed).mono fun _ db₃ hcontrollers => ?_
    rw [ensures_bind]
    refine (within_setCandidateStatus (quietRelation now) candidate .underReview db₃).mono
      fun _ db₄ hquiet => ?_
    rw [ensures_bind]
    refine (ensures_enqueueWorkflowAdvance _).mono ?_
    rintro _ _ rfl
    rw [ensures_pure]
    have hmoved : Moved w { w with status := .controllersRunning } db db₄ := by
      have hensured' : Moved w w db db₁ := (Moved.refl w h).spawns hensured.spawns
      refine (((hensured'.trans hmade).spawns hcontrollers.spawns).quiet hquiet).row rfl rfl
    have hlatest' : latestCandidateVersion { w with status := .controllersRunning }
        db₄.tables.domain = candidate.versionNumber := by
      change latestCandidateVersion w db₄.tables.domain = _
      rw [latestCandidateVersion_congr (hquiet.domain.2 w.id), hcontrollers.spawns.domain]
      exact hlatest
    have hlt : latestCandidateVersion w db.tables.domain < candidate.versionNumber := by
      rw [hnumber]
      exact Nat.lt_succ_self _
    refine .waits _ hmoved (hmoved.reached (by simp) fun _ => .inr ?_) ?_ ?_
    · rw [hlatest']
      exact hlt
    · change candidate.versionNumber ≤ latestCandidateVersion _ _
      rw [hlatest']
    · exact not_le.mpr hlt

/-- The workflow that has its Decision is the same. -/
theorem ensures_materializeFinalDecision (candidate : DecisionCandidate) :
    Ensures (materializeFinalDecision now w candidate)
      (fun w' _ => w'.id = w.id ∧ w'.scope = w.scope) db := by
  rw [materializeFinalDecision, ensures_bind, ensures_tables]
  split
  next =>
    rw [ensures_bind, ensures_check]
    intro _ _
    rw [ensures_pure]
    exact ⟨rfl, rfl⟩
  next =>
    dsimp only
    rw [ensures_bind, ensures_check]
    intro _ _
    rw [ensures_bind, ensures_newId, ensures_bind, ensures_modifyTables, ensures_bind,
      setCandidateStatus, ensures_modifyTables, ensures_bind, DomainTxn.addOutboxEvent,
      ensures_modify, ensures_pure]
    exact ⟨rfl, rfl⟩

theorem ensures_concludeReviews {db₁ : AgentDatabase M DecisionTables} (hmoved : Moved w w db db₁)
    (hlatest : latestCandidateVersion w db₁.tables.domain =
      latestCandidateVersion w db.tables.domain)
    (hstatus : w.status = .controllersRunning) (candidate : DecisionCandidate)
    {reviews : List ControllerReview} (outcome : ControllerVerdict) :
    Ensures (concludeReviews R now answer w candidate reviews outcome) (Advanced R now w db) db₁ := by
  have hended : ∀ {w' : DecisionWorkflow} {db' : AgentDatabase M DecisionTables},
      Moved w w' db db' → w'.running = false → w'.status ≠ .snapshotReady →
        Advanced R now w db w' db' :=
    fun hmoved' hrunning hstart =>
      .ended hmoved' (hmoved'.reached (fun _ => hstart) (by simp [hstatus])) hrunning
  cases outcome with
  | block =>
      rw [concludeReviews, ensures_bind]
      refine (within_setCandidateStatus (quietRelation now) candidate .blocked db₁).mono
        fun _ db₂ hquiet => ?_
      rw [ensures_pure]
      exact hended ((hmoved.quiet hquiet).row rfl rfl) rfl (by simp)
  | revise | passWithConditions =>
      rw [concludeReviews, ensures_bind]
      refine (within_setCandidateStatus (quietRelation now) candidate .revisionRequired db₁).mono
        fun _ db₂ hquiet => ?_
      rw [ensures_ite]
      refine ⟨fun _ => ?_, fun _ => ?_⟩
      · rw [ensures_pure]
        exact hended ((hmoved.quiet hquiet).row rfl rfl) rfl (by simp)
      · refine ensures_enterChiefRunning ((hmoved.quiet hquiet).row rfl rfl) ?_ (by simp [hstatus])
        rw [← hlatest]
        exact latestCandidateVersion_congr (hquiet.domain.2 w.id)
  | pass =>
      rw [concludeReviews, ensures_bind]
      refine (within_setCandidateStatus (quietRelation now) candidate .accepted db₁).mono
        fun _ db₂ hquiet => ?_
      rw [ensures_bind]
      refine ((within_materializeFinalDecision (quietRelation now) w candidate db₂).and
        (ensures_materializeFinalDecision candidate)).mono ?_
      rintro w' db₃ ⟨hquiet', hid, hscope⟩
      rw [ensures_pure]
      exact hended (((hmoved.quiet hquiet).quiet hquiet').row hid hscope) rfl (by simp)

theorem ensures_advanceControllers (h : RunsKeyed db.tables.agentRuns)
    (hstatus : w.status = .controllersRunning) :
    Ensures (advanceControllers R now answer w) (Advanced R now w db) db := by
  rw [advanceControllers, ensures_bind, ensures_tables, ensures_bind, ensures_check]
  intro candidate hcandidate
  obtain ⟨hfound, hnumber⟩ := versionNumber_latestCandidate hcandidate
  rw [ensures_bind]
  refine (ensures_ensureControllerRuns candidate h).mono fun notReady db₁ hensured => ?_
  rw [ensures_ite]
  constructor
  · intro hne
    rw [ensures_bind, ensures_agentRuns, ensures_bind]
    refine (ensures_enqueueWorkflowAdvance _).mono ?_
    rintro _ _ rfl
    rw [ensures_pure]
    refine .retry h hensured hne ?_ ?_ fun _ _ => Iff.rfl
    · rw [runStates, hstatus]
      simp only [hfound]
    · rw [wakeUp, hstatus, hnumber]
      rfl
  · intro _
    rw [ensures_bind]
    refine (within_materializeControllerReviews (quietRelation now) R answer w candidate db₁).mono
      fun reviews db₂ hquiet => ?_
    rw [ensures_bind, ensures_check]
    intro outcome _
    refine ensures_concludeReviews (((Moved.refl w h).spawns hensured.spawns).quiet hquiet) ?_
      hstatus candidate outcome
    rw [latestCandidateVersion_congr (hquiet.domain.2 w.id), hensured.spawns.domain]

/-- One advance of a workflow. -/
theorem advanceWorkflow_spec (h : RunsKeyed db.tables.agentRuns) :
    Ensures (advanceWorkflow R now answer w) (Advanced R now w db) db := by
  unfold advanceWorkflow
  split
  next hstatus => exact ensures_advanceSnapshot h hstatus
  next hstatus => exact ensures_advanceSpecialists h hstatus
  next hstatus => exact ensures_advanceChief h hstatus
  next hstatus => exact ensures_advanceControllers h hstatus
  next hsnapshot hspecialists hchief hcontrollers =>
    rw [ensures_pure]
    refine .ended (.refl w h) (fun _ hreached => hreached) ?_
    unfold running
    split <;> first | contradiction | rfl

end Spec

end DecisionWorkflow

end LaunchOS
