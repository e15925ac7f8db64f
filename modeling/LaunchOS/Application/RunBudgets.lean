import LaunchOS.Application.ControllerGate

/-!
# The runs of a decision workflow

Every run of a decision workflow has one of the references of the workflow, those for one version more
than it may revise, and at most three runs have the same one.

The module introduces:

* `runRefs`: the references of the runs for a number of versions;
* `RunsBudgeted`: every run has one of them, and none has more than three;
* `RunsBudgeted.countP_isRun_le`: the bound on the runs of a workflow;
* `Spends`, `spendsWithin_ensureRun` and so on: a stage that makes no candidate stays in the budget.
-/

namespace LaunchOS

open Txn Transition

variable {M α : Type}

/-! ## Runs -/

/-- The decision workflow that a reference names. -/
def RunRef.decisionWorkflowId : RunRef → Option Id
  | .specialist workflowId _ | .chief workflowId _ | .candidate workflowId _ _ => some workflowId
  | _ => none

theorem RunRef.isDecision_of_workflowId {ref : RunRef} {workflowId : Id}
    (h : ref.decisionWorkflowId = some workflowId) : ref.isDecision = true := by
  cases ref <;> first | rfl | cases h

namespace DecisionWorkflow

/-- The references of the runs of a workflow for a number of versions. -/
def runRefs (w : DecisionWorkflow) (versions : ℕ) : List RunRef :=
  specialistContractKeys.map (specialistRunInputRef w) ++
    (List.range' 1 versions).flatMap fun version =>
      chiefRunInputRef w version :: requiredControllerTypes.map fun type =>
        controllerRunInputRef w version (controllerContractKey type)

/-- Three specialists, and for each version the chief and seven controllers. -/
theorem length_runRefs (w : DecisionWorkflow) (versions : ℕ) :
    (w.runRefs versions).length = 3 + 8 * versions := by
  have hversion : ∀ start, ((List.range' start versions).flatMap fun version =>
      chiefRunInputRef w version :: requiredControllerTypes.map fun type =>
        controllerRunInputRef w version (controllerContractKey type)).length = 8 * versions := by
    induction versions with
    | zero => exact fun _ => rfl
    | succ versions ih =>
        intro start
        rw [List.range'_succ, List.flatMap_cons, List.length_append, ih, List.length_cons,
          List.length_map]
        show 8 + 8 * versions = 8 * (versions + 1)
        omega
  rw [runRefs, List.length_append, List.length_map, hversion]
  rfl

theorem workflowId_of_mem_runRefs {w : DecisionWorkflow} {versions : ℕ} {ref : RunRef}
    (h : ref ∈ w.runRefs versions) : ref.decisionWorkflowId = some w.id := by
  rcases List.mem_append.mp h with hspecialist | hversion
  · obtain ⟨key, -, rfl⟩ := List.mem_map.mp hspecialist
    rfl
  · obtain ⟨version, -, hmem⟩ := List.mem_flatMap.mp hversion
    rcases List.mem_cons.mp hmem with rfl | hcontroller
    · rfl
    · obtain ⟨type, -, rfl⟩ := List.mem_map.mp hcontroller
      rfl

theorem specialistRef_mem_runRefs (w : DecisionWorkflow) (versions : ℕ) {key : String}
    (h : key ∈ specialistContractKeys) : specialistRunInputRef w key ∈ w.runRefs versions :=
  List.mem_append_left _ (List.mem_map_of_mem h)

theorem chiefRef_mem_runRefs {w : DecisionWorkflow} {versions version : ℕ} (hpos : 1 ≤ version)
    (hle : version ≤ versions) : chiefRunInputRef w version ∈ w.runRefs versions := by
  refine List.mem_append_right _ (List.mem_flatMap.mpr ⟨version, ?_, List.mem_cons_self⟩)
  rw [List.mem_range'_1]
  omega

theorem controllerRef_mem_runRefs {w : DecisionWorkflow} {versions version : ℕ}
    (hpos : 1 ≤ version) (hle : version ≤ versions) {type : String}
    (h : type ∈ requiredControllerTypes) :
    controllerRunInputRef w version (controllerContractKey type) ∈ w.runRefs versions := by
  refine List.mem_append_right _ (List.mem_flatMap.mpr ⟨version, ?_, ?_⟩)
  · rw [List.mem_range'_1]
    omega
  · exact List.mem_cons_of_mem _ (List.mem_map.mpr ⟨type, h, rfl⟩)

/-- The run has a reference of the workflow. -/
def isRun (w : DecisionWorkflow) (run : AgentRun M) : Bool :=
  run.inputRef.bind RunRef.decisionWorkflowId = some w.id

end DecisionWorkflow

open DecisionWorkflow

/-- Every run of a workflow has one of its references, which are those for one version more than it
may revise; and at most three runs have the same one. -/
structure RunsBudgeted (workflows : List DecisionWorkflow) (runs : List (AgentRun M)) : Prop where
  ids : Table.KeysNodup DecisionWorkflow.id workflows
  referenced : ∀ run ∈ runs, ∀ ref, run.inputRef = some ref → ref.isDecision = true →
    run.contractKey = ref.contractKey ∧ run.contractVersion = 1 ∧
      ∃ w ∈ workflows, run.scope = w.scope ∧ ref ∈ w.runRefs (w.maxRevisionRounds + 1)
  attempts : ∀ ref : RunRef, ref.isDecision = true →
    runs.countP (fun run => run.inputRef = some ref) ≤ 3

namespace RunsBudgeted

variable {workflows workflows' : List DecisionWorkflow} {runs : List (AgentRun M)}
variable {w : DecisionWorkflow}

/-- What a workflow starts with does not change, and workflows are only added. -/
theorem mono (h : RunsBudgeted workflows runs)
    (hnodup : Table.KeysNodup DecisionWorkflow.id workflows')
    (hkept : ∀ w ∈ workflows, ∃ w' ∈ workflows', w'.id = w.id ∧ w'.scope = w.scope ∧
      w'.maxRevisionRounds = w.maxRevisionRounds) : RunsBudgeted workflows' runs where
  ids := hnodup
  referenced run hrun ref href hdecision := by
    obtain ⟨hcontract, hversion, w, hw, hscope, hmem⟩ := h.referenced run hrun ref href hdecision
    obtain ⟨w', hw', hid, hscope', hrounds⟩ := hkept w hw
    refine ⟨hcontract, hversion, w', hw', hscope.trans hscope'.symm, ?_⟩
    rw [hrounds]
    unfold runRefs specialistRunInputRef chiefRunInputRef controllerRunInputRef at hmem ⊢
    rw [hid]
    exact hmem
  attempts := h.attempts

theorem map (h : RunsBudgeted workflows runs) {f : AgentRun M → AgentRun M}
    (hf : ∀ run : AgentRun M, run.SameIdentity (f run)) : RunsBudgeted workflows (runs.map f) where
  ids := h.ids
  referenced run' hrun' ref href hdecision := by
    obtain ⟨run, hrun, rfl⟩ := List.mem_map.mp hrun'
    have hsame := hf run
    rw [hsame.inputRef] at href
    rw [hsame.contractKey, hsame.contractVersion, hsame.scope]
    exact h.referenced run hrun ref href hdecision
  attempts ref hdecision := by
    have hinput : ∀ run : AgentRun M, (f run).inputRef = run.inputRef := fun run => (hf run).inputRef
    rw [List.countP_map]
    simp only [Function.comp_def, hinput]
    exact h.attempts ref hdecision

/-- A run with a reference of the rest of the application. -/
theorem addForeign (h : RunsBudgeted workflows runs) {run : AgentRun M}
    (hforeign : run.inputRef.all (fun ref => !ref.isDecision) = true) :
    RunsBudgeted workflows (runs ++ [run]) := by
  have hne : ∀ ref : RunRef, ref.isDecision = true → run.inputRef ≠ some ref := by
    intro ref hdecision href
    rw [href, Option.all_some, hdecision] at hforeign
    cases hforeign
  refine ⟨h.ids, fun other hother ref href hdecision => ?_, fun ref hdecision => ?_⟩
  · rcases List.mem_append.mp hother with hold | hnew
    · exact h.referenced other hold ref href hdecision
    · rw [List.mem_singleton.mp hnew] at href
      exact absurd href (hne ref hdecision)
  · rw [List.countP_append]
    have hnone : [run].countP (fun run => decide (run.inputRef = some ref)) = 0 := by
      simp [hne ref hdecision]
    rw [hnone]
    exact h.attempts ref hdecision

/-- The query for the runs of a role finds all runs with its reference. -/
theorem length_agentRuns (h : RunsBudgeted workflows runs) (hw : w ∈ workflows)
    {role : RunRole M α} (hrole : role.Proper)
    (href : role.ref ∈ w.runRefs (w.maxRevisionRounds + 1)) {w₀ : DecisionWorkflow}
    (hscope : w₀.scope = w.scope) :
    (role.agentRuns w₀ runs).length = runs.countP (fun run => run.inputRef = some role.ref) := by
  rw [RunRole.agentRuns, List.length_reverse, List.countP_eq_length_filter]
  congr 1
  refine List.filter_congr fun run hrun => ?_
  by_cases hinput : run.inputRef = some role.ref
  · obtain ⟨hcontract, hversion, w', hw', hscope', hmem⟩ :=
      h.referenced run hrun role.ref hinput hrole.isDecision
    -- the reference names the workflow
    have hid : w'.id = w.id := by
      have hnamed := workflowId_of_mem_runRefs hmem
      rw [workflowId_of_mem_runRefs href] at hnamed
      exact (Option.some.inj hnamed).symm
    obtain rfl : w' = w := h.ids.eq_of_key_eq hw' hw hid
    simp [hinput, hcontract, hversion, hrole.contractKey, hscope', hscope]
  · simp [hinput]

/-- One more attempt, while there are less than three. -/
theorem addAttempt (h : RunsBudgeted workflows runs) (hw : w ∈ workflows) {run : AgentRun M}
    {ref : RunRef} (hinput : run.inputRef = some ref) (hscope : run.scope = w.scope)
    (hcontract : run.contractKey = ref.contractKey) (hversion : run.contractVersion = 1)
    (href : ref ∈ w.runRefs (w.maxRevisionRounds + 1))
    (hlt : runs.countP (fun run => run.inputRef = some ref) < 3) :
    RunsBudgeted workflows (runs ++ [run]) := by
  refine ⟨h.ids, fun other hother ref' href' hdecision => ?_, fun ref' hdecision => ?_⟩
  · rcases List.mem_append.mp hother with hold | hnew
    · exact h.referenced other hold ref' href' hdecision
    · rw [List.mem_singleton.mp hnew] at href' ⊢
      obtain rfl : ref = ref' := Option.some.inj (hinput.symm.trans href')
      exact ⟨hcontract, hversion, w, hw, hscope, href⟩
  · rw [List.countP_append]
    by_cases hsame : ref' = ref
    · subst hsame
      have hone : [run].countP (fun run => decide (run.inputRef = some ref')) = 1 := by
        simp [hinput]
      rw [hone]
      exact hlt
    · have hnone : [run].countP (fun run => decide (run.inputRef = some ref')) = 0 := by
        simp [hinput, Ne.symm hsame]
      rw [hnone]
      exact h.attempts ref' hdecision

/-- The bound on the runs of a workflow. -/
theorem countP_isRun_le (h : RunsBudgeted workflows runs) (hw : w ∈ workflows) :
    runs.countP w.isRun ≤ 9 + 24 * (w.maxRevisionRounds + 1) := by
  have hmul : runs.countP w.isRun ≤ 3 * (w.runRefs (w.maxRevisionRounds + 1)).length := by
    refine Table.countP_le_mul AgentRun.inputRef (fun run hrun hmine => ?_)
      fun ref href => h.attempts ref (RunRef.isDecision_of_workflowId (workflowId_of_mem_runRefs href))
    obtain ⟨ref, href, hid⟩ := Option.bind_eq_some_iff.mp (of_decide_eq_true hmine)
    obtain ⟨-, -, w', hw', -, hmem⟩ :=
      h.referenced run hrun ref href (RunRef.isDecision_of_workflowId hid)
    have hsame : w'.id = w.id := by
      rw [workflowId_of_mem_runRefs hmem] at hid
      exact Option.some.inj hid
    obtain rfl : w' = w := h.ids.eq_of_key_eq hw' hw hsame
    exact ⟨ref, hmem, href⟩
  rw [length_runRefs] at hmul
  omega

end RunsBudgeted

/-! ## Stages -/

/-- The rows of the workflows, and the candidates up to what is written into them later, are left
alone. -/
structure SameCandidates (t t' : DecisionTables) : Prop where
  workflows : t'.decisionWorkflows = t.decisionWorkflows
  candidates : t'.decisionCandidates.map DecisionCandidate.core =
    t.decisionCandidates.map DecisionCandidate.core

instance : IsPreorder DecisionTables SameCandidates where
  refl _ := ⟨rfl, rfl⟩
  trans _ _ _ h h' := ⟨h'.workflows.trans h.workflows, h'.candidates.trans h.candidates⟩

theorem sameCandidates_updateCandidate (id : Id) {f : DecisionCandidate → DecisionCandidate}
    (hf : ∀ c, (f c).core = c.core) (t : DecisionTables) : SameCandidates t (t.updateCandidate id f) := by
  refine ⟨rfl, ?_⟩
  show (Table.modify DecisionCandidate.id id f t.decisionCandidates).map _ = _
  rw [Table.modify, List.map_map]
  refine List.map_congr_left fun c _ => ?_
  by_cases hid : c.id = id
  · simp [hid, hf]
  · simp [hid]

/-- What a stage of the workflow `mine` does, or the rest of the application: no candidate is made, and
the runs stay within the budgets. -/
structure Spends (mine : Option DecisionWorkflow) (db db' : AgentDatabase M DecisionTables) : Prop
    extends SameCandidates db.tables.domain db'.tables.domain where
  nextId : db.nextId ≤ db'.nextId
  budget : (∀ w ∈ mine, w ∈ db.tables.domain.decisionWorkflows) →
    RunsBudgeted db.tables.domain.decisionWorkflows db.tables.agentRuns →
      RunsBudgeted db.tables.domain.decisionWorkflows db'.tables.agentRuns

instance (mine : Option DecisionWorkflow) :
    IsPreorder (AgentDatabase M DecisionTables) (Spends mine) where
  refl _ := ⟨refl _, le_rfl, fun _ h => h⟩
  trans _ _ _ h h' := by
    refine ⟨trans_of SameCandidates h.toSameCandidates h'.toSameCandidates, h.nextId.trans h'.nextId,
      fun hmine hbudget => ?_⟩
    have hlater := h'.budget
    rw [h.workflows] at hlater
    exact hlater hmine (h.budget hmine hbudget)

section Stages

variable {mine : Option DecisionWorkflow} {w : DecisionWorkflow} {now : Time}
variable {db db' : AgentDatabase M DecisionTables}

theorem Spends.of_quiet (hnext : db.nextId ≤ db'.nextId)
    (hsame : SameCandidates db.tables.domain db'.tables.domain)
    (hruns : db'.tables.agentRuns = db.tables.agentRuns) : Spends mine db db' :=
  ⟨hsame, hnext, fun _ h => hruns ▸ h⟩

theorem spendsWithin_createJob (mine : Option DecisionWorkflow) (now : Time) (args : CreateJob) :
    Within (Spends mine) (DomainTxn.createJob (M := M) now args) := by
  intro db job db' h
  obtain ⟨rfl, -⟩ := DomainTxn.createJob_eq_ok h
  exact .of_quiet (db.toJobTable.nextId_le_apply _ _) (refl _) rfl

/-- The runs of the rest of the application cost nothing. -/
theorem domainRelation_spends (now : Time) (mine : Option DecisionWorkflow) :
    DomainRelation (M := M) now (fun ref => !ref.isDecision) SameCandidates (Spends mine) where
  modifyTables f hf := within_modify _ fun db => .of_quiet le_rfl (hf db.tables.domain) rfl
  newId := by
    rintro db id db' ⟨⟩
    exact .of_quiet (Nat.le_succ _) (refl _) rfl
  addOutboxEvent scope eventType :=
    within_modify _ fun _ => .of_quiet (Nat.le_succ _) (refl _) rfl
  createAgentRun args admission href hkey := by
    intro db run db' h
    have hnext := (AgentGrows.of_createAgentRun h).nextId_le
    rcases createAgentRun_eq_ok h with ⟨rfl, -⟩ | hinsert
    · exact refl _
    · obtain ⟨job, -, -, -, rfl, rfl⟩ := insertAgentRun_eq_ok hinsert
      exact ⟨refl _, hnext, fun _ hbudget => hbudget.addForeign href⟩

theorem spendsWithin_performForeign (works : List ForeignWork) :
    Within (Spends none) (DecisionWorkflow.performForeign (M := M) now works) := by
  have h := domainRelation_spends (M := M) now none
  refine h.foldlM (fun _ work => ?_) _
  refine within_ite (fun hallowed => ?_) fun _ => h.pure _
  cases work with
  | createJob args => exact h.bind (spendsWithin_createJob none now args) fun _ => h.pure _
  | createAgentRun args admission =>
      simp only [ForeignWork.allowed, Bool.and_eq_true, Bool.not_eq_true'] at hallowed
      refine h.bind (h.createAgentRun args admission ?_ ?_) fun _ => h.pure _
      · simpa [Option.any_eq_false_iff_get, Option.all_eq_true_iff_get] using hallowed.1
      · simpa [Option.any_eq_false_iff_get, Option.all_eq_true_iff_get] using hallowed.2
  | outboxEvent scope eventType => exact h.addOutboxEvent scope eventType

/-! ### Runs -/

theorem RunRole.lt_of_runState_create {role : RunRole M α} {runs : List (AgentRun M)}
    (h : role.runState w runs = .ok .create) :
    (role.agentRuns w runs).length < role.maxOutputAttempts := by
  unfold runState at h
  dsimp only at h
  split at h
  · cases h
  · obtain ⟨ready, -, h⟩ := Except.bind_eq_ok_iff.mp h
    cases ready with
    | true => cases h
    | false =>
        obtain ⟨_, hlt, -⟩ := Except.bind_eq_ok_iff.mp h
        exact require_eq_ok_iff.mp hlt

/-- A role of a workflow, with three attempts. -/
structure RunRole.Costs (role : RunRole M α) (w : DecisionWorkflow) : Prop extends role.Proper where
  attempts : role.maxOutputAttempts = 3
  ref_mem : role.ref ∈ w.runRefs (w.maxRevisionRounds + 1)

/-- `revisionCount` is what the workflow is about to write. -/
theorem spendsWithin_ensureRun {role : RunRole M α} (h : role.Costs w) (answer : DecisionAnswer)
    (revisionCount : ℕ) {contextRefs : List ContextReference} :
    Within (Spends (some w))
      (role.ensureRun { w with revisionCount := revisionCount } now answer contextRefs) := by
  intro db
  rw [RunRole.ensureRun, ensures_bind, ensures_agentRuns, ensures_bind, ensures_check]
  intro state hstate
  cases state with
  | ready | pending => exact (ensures_pure _).mpr (refl _)
  | create =>
      have hlt := RunRole.lt_of_runState_create hstate
      rw [ensures_bind]
      intro run db' hcreate
      have hnext := (AgentGrows.of_createAgentRun hcreate).nextId_le
      refine (ensures_pure _).mpr ?_
      rcases createAgentRun_eq_ok hcreate with ⟨rfl, -⟩ | hinsert
      · exact refl _
      · obtain ⟨job, -, -, -, rfl, rfl⟩ := insertAgentRun_eq_ok hinsert
        refine ⟨refl _, hnext, fun hmine hbudget => ?_⟩
        have hw := hmine w rfl
        have hlength : (role.agentRuns { w with revisionCount := revisionCount }
            db.tables.agentRuns).length =
              db.tables.agentRuns.countP (fun run => run.inputRef = some role.ref) :=
          hbudget.length_agentRuns hw h.toProper h.ref_mem rfl
        rw [hlength, h.attempts] at hlt
        exact hbudget.addAttempt hw rfl rfl h.contractKey rfl h.ref_mem hlt

theorem spendsWithin_ensureRuns {β : Type} {role : β → RunRole M α} {keys : List β}
    (h : ∀ key ∈ keys, (role key).Costs w) (answer : DecisionAnswer) (revisionCount : ℕ)
    {contextRefs : List ContextReference} :
    Within (Spends (some w))
      (ensureRuns now answer { w with revisionCount := revisionCount } role contextRefs keys) := by
  intro db
  refine Ensures.foldlM (I := fun _ => Spends (some w) db) (fun key hkey notReady db₁ h₁ => ?_)
    (refl _)
  rw [ensures_bind]
  refine (spendsWithin_ensureRun (h key hkey) answer revisionCount db₁).mono fun ready db₂ h₂ => ?_
  exact (ensures_pure _).mpr (trans_of (Spends (some w)) h₁ h₂)

variable (R : RunReader M) (answer : DecisionAnswer)

theorem spendsWithin_ensureSpecialistRuns :
    Within (Spends (some w)) (ensureSpecialistRuns R now answer w) := by
  have hd := domainRelation_spends (M := M) now (some w)
  refine hd.bind hd.tables fun t => spendsWithin_ensureRuns (fun key hkey => ?_) answer
    w.revisionCount
  exact ⟨⟨rfl, rfl⟩, rfl, specialistRef_mem_runRefs w _ hkey⟩

theorem spends_ensureChiefRun {revisionCount : ℕ} {previousCandidate : Option DecisionCandidate}
    {reviews : List ControllerReview}
    (hle : nextCandidateVersion w db.tables.domain ≤ w.maxRevisionRounds + 1) :
    Ensures (ensureChiefRun R now answer { w with revisionCount := revisionCount } previousCandidate
        reviews)
      (fun _ => Spends (some w) db) db := by
  rw [ensureChiefRun, ensures_bind, ensures_tables]
  refine spendsWithin_ensureRuns (fun version hversion => ?_) answer revisionCount db
  rw [List.mem_singleton.mp hversion]
  exact ⟨⟨rfl, rfl⟩, rfl, chiefRef_mem_runRefs (Nat.succ_le_succ (Nat.zero_le _)) hle⟩

theorem spendsWithin_ensureControllerRuns {candidate : DecisionCandidate}
    (hpos : 1 ≤ candidate.versionNumber)
    (hle : candidate.versionNumber ≤ w.maxRevisionRounds + 1) :
    Within (Spends (some w)) (ensureControllerRuns R now answer w candidate) := by
  have hd := domainRelation_spends (M := M) now (some w)
  refine hd.bind hd.tables fun t => spendsWithin_ensureRuns (fun type htype => ?_) answer
    w.revisionCount
  exact ⟨⟨rfl, rfl⟩, rfl, controllerRef_mem_runRefs hpos hle htype⟩

end Stages

end LaunchOS
