import LaunchOS.Production.Workflow

/-!
# The production workflow on the runtime

The module introduces:

* `SameAssets`, `within_ensureRun` and so on: what each stage leaves alone;
* `ProductionCommand`: what the users and the rest of the application do;
* `productionApp`: the workflow as domain code, with the handlers of the rest of the application.
-/

namespace LaunchOS

open Txn

variable {M : Type}

/-! ## What the stages leave alone -/

/-- The rows of the workflows and of the asset versions are left alone. -/
def SameAssets (t t' : ProductionTables) : Prop :=
  t'.productionWorkflows = t.productionWorkflows ∧ t'.assetVersions = t.assetVersions

instance : IsPreorder ProductionTables SameAssets where
  refl _ := ⟨rfl, rfl⟩
  trans _ _ _ h h' := ⟨h'.1.trans h.1, h'.2.trans h.2⟩

/-- Only the rows that come before the versions are written. -/
def OnlyPrepares (t t' : ProductionTables) : Prop :=
  t' = { t with
    contentStrategies := t'.contentStrategies
    creativeBriefs := t'.creativeBriefs
    creativeBriefDetails := t'.creativeBriefDetails
    assets := t'.assets }

instance : IsPreorder ProductionTables OnlyPrepares where
  refl _ := rfl
  trans t t' t'' h h' := by
    unfold OnlyPrepares at h h' ⊢
    rw [h', h]

theorem OnlyPrepares.sameAssets {t t' : ProductionTables} (h : OnlyPrepares t t') :
    SameAssets t t' := by
  rw [OnlyPrepares] at h
  rw [h]
  exact ⟨rfl, rfl⟩

section Runs

variable {now : Time}
variable {R : AgentDatabase M ProductionTables → AgentDatabase M ProductionTables → Prop}
variable (h : DomainRelation now (fun _ => true) OnlyPrepares R)
variable (answer : ProductionAnswer) (w : ProductionWorkflow)
include h

theorem within_ensureRun (ref : RunRef) (contractKey : String)
    (contextRefs : List ContextReference) (jobType : JobType)
    (isAgentRun : jobType.isAgentRun = true) :
    Within R (ensureRun now answer w ref contractKey contextRefs jobType isAgentRun) :=
  h.bind (h.createAgentRun _ _ rfl rfl) fun _ => h.pure _

theorem within_ensureContentStrategyRun : Within R (ensureContentStrategyRun now answer w) := by
  refine h.bind h.tables fun t => ?_
  refine h.bind (h.check _) fun _ => ?_
  exact within_ensureRun h answer w _ _ _ _ _

theorem within_ensureWriterRun {previousVersion : Option AssetVersion}
    {reviews : List AssetReview} :
    Within R (ensureWriterRun now answer w previousVersion reviews) := by
  refine h.bind h.tables fun t => ?_
  refine h.bind (h.check _) fun _ => h.bind (h.check _) fun _ => h.bind (h.check _) fun _ => ?_
  exact within_ensureRun h answer w _ _ _ _ _

theorem within_ensureAssetControllerRuns (version : AssetVersion) :
    Within R (ensureAssetControllerRuns now answer w version) := by
  refine h.bind h.tables fun t => ?_
  refine h.bind (h.check _) fun _ => h.bind (h.check _) fun _ => h.bind (h.check _) fun _ => ?_
  exact h.foldlM (fun _ _ => within_ensureRun h answer w _ _ _ _ _) _

end Runs

section Stages

variable {now : Time} {refOk : RunRef → Bool}
variable {R : AgentDatabase M ProductionTables → AgentDatabase M ProductionTables → Prop}
variable (h : DomainRelation now refOk OnlyPrepares R)
variable (S : OutputSchemas M) (answer : ProductionAnswer) (w : ProductionWorkflow)
include h

theorem within_materializeContentStrategy : Within R (materializeContentStrategy S answer w) := by
  refine h.bind h.tables fun t => ?_
  split
  next => exact h.pure _
  next =>
    refine h.bind h.agentRuns fun runs => ?_
    refine h.bind (h.check _) fun run => h.bind (h.check _) fun output => ?_
    refine h.bind (h.check _) fun _ => h.bind (h.check _) fun _ => ?_
    refine h.bind h.newId fun id => h.bind ?_ fun _ => h.pure _
    exact h.modifyTables _ fun t => rfl

theorem within_materializeCreativeBrief (strategy : ContentStrategy) :
    Within R (materializeCreativeBrief answer w strategy) := by
  refine h.bind h.tables fun t => ?_
  split
  next => exact h.check _
  next =>
    refine h.bind h.newId fun id => h.bind (h.check _) fun _ => h.bind (h.check _) fun _ => ?_
    exact h.bind (h.modifyTables _ fun t => rfl) fun _ => h.pure _

theorem within_ensureAsset : Within R (ensureAsset w) := by
  refine h.bind h.tables fun t => ?_
  split
  next => exact h.bind (h.check _) fun _ => h.pure _
  next =>
    refine h.bind (h.check _) fun briefId => h.bind h.newId fun id => ?_
    exact h.bind (h.modifyTables _ fun t => rfl) fun _ => h.pure _

omit h in
theorem within_materializeAssetReviews (h : DomainRelation now refOk SameAssets R)
    (version : AssetVersion) : Within R (materializeAssetReviews S answer w version) := by
  refine h.foldlM (fun rows type => h.bind ?_ fun _ => h.pure _) _
  refine h.bind h.tables fun t => ?_
  split
  next => exact h.pure _
  next =>
    refine h.bind h.agentRuns fun runs => ?_
    refine h.bind (h.check _) fun run => h.bind (h.check _) fun output => ?_
    refine h.bind (h.check _) fun _ => h.bind (h.check _) fun _ => h.bind (h.check _) fun _ => ?_
    refine h.bind h.newId fun id => h.bind ?_ fun _ => h.pure _
    exact h.modifyTables _ fun t => ⟨rfl, rfl⟩

end Stages

/-! ## The workflow within a relation -/

/-- All writes of the workflow stay within `r`. -/
structure ProductionWrites (r : ProductionTables → ProductionTables → Prop) : Prop where
  prepares : ∀ t t', OnlyPrepares t t' → r t t'
  insertVersion : ∀ t version rights, r t { t with
    assetVersions := t.assetVersions ++ [version]
    assetRightsProvenance := t.assetRightsProvenance ++ [rights] }
  insertReview : ∀ t review, r t { t with assetReviews := t.assetReviews ++ [review] }
  workflows : ∀ t workflows, r t { t with productionWorkflows := workflows }

section Writes

variable {now : Time} {refOk : RunRef → Bool} {r : ProductionTables → ProductionTables → Prop}
variable {R : AgentDatabase M ProductionTables → AgentDatabase M ProductionTables → Prop}
variable (h : DomainRelation now refOk r R) (hw : ProductionWrites r)
variable (S : OutputSchemas M) (answer : ProductionAnswer) (w : ProductionWorkflow)
include h hw

theorem within_materializeAssetVersion : Within R (materializeAssetVersion S answer w) := by
  refine h.bind h.tables fun t => ?_
  dsimp only
  split
  next => exact h.pure _
  next =>
    refine h.bind h.agentRuns fun runs => h.bind (h.check _) fun run => ?_
    refine h.bind (h.check _) fun output => h.bind (h.check _) fun _ => ?_
    refine h.bind (within_ensureAsset (h.mono hw.prepares) w) fun asset => ?_
    refine h.bind (h.check _) fun _ => h.bind h.newId fun id => ?_
    exact h.bind (h.modifyTables _ fun t => hw.insertVersion t _ _) fun _ => h.pure _

theorem within_materializeAssetReview (version : AssetVersion) (controllerType : String) :
    Within R (materializeAssetReview S answer w version controllerType) := by
  refine h.bind h.tables fun t => ?_
  split
  next => exact h.pure _
  next =>
    refine h.bind h.agentRuns fun runs => ?_
    refine h.bind (h.check _) fun run => h.bind (h.check _) fun output => ?_
    refine h.bind (h.check _) fun _ => h.bind (h.check _) fun _ => h.bind (h.check _) fun _ => ?_
    refine h.bind h.newId fun id => h.bind ?_ fun _ => h.pure _
    exact h.modifyTables _ fun t => hw.insertReview t _

theorem within_startProductionWorkflow (hjob : ∀ w suffix, Within R (enqueueAdvance now w suffix))
    (scope : TenantScope) (decisionId : Id) (maxRevisionRounds : ℤ) :
    Within R (startProductionWorkflow now scope decisionId maxRevisionRounds) := by
  have := h.toIsPreorder
  refine h.bind (h.check _) fun _ => h.bind h.tables fun t => h.bind (h.check _) fun decision => ?_
  refine h.bind (h.check _) fun _ => h.bind (h.check _) fun _ => h.bind (h.check _) fun _ => ?_
  refine h.bind (h.check _) fun _ => h.bind (h.check _) fun approval => ?_
  refine h.bind (h.check _) fun _ => ?_
  split
  next => exact h.bind within_get fun db => h.check _
  next =>
    refine h.bind h.newId fun id => h.bind (h.modifyTables _ fun t => hw.workflows t _) fun _ => ?_
    exact h.bind (hjob _ _) fun _ => h.pure _

end Writes

section Workflow

variable {now : Time} {r : ProductionTables → ProductionTables → Prop}
variable {R : AgentDatabase M ProductionTables → AgentDatabase M ProductionTables → Prop}
variable (h : DomainRelation now (fun _ => true) r R) (hw : ProductionWrites r)
variable (S : OutputSchemas M) (answer : ProductionAnswer) (w : ProductionWorkflow)
include h hw

variable (hjob : ∀ w suffix, Within R (enqueueAdvance now w suffix))
include hjob

theorem within_enterProductionRunning {previousVersion : Option AssetVersion}
    {reviews : List AssetReview} :
    Within R (enterProductionRunning now answer w previousVersion reviews) := by
  refine h.bind (within_ensureWriterRun (h.mono hw.prepares) answer w) fun _ => ?_
  exact h.bind h.tables fun t => h.bind (hjob w _) fun _ => h.pure _

theorem within_advanceProductionWorkflow : Within R (advanceProductionWorkflow S now answer w) := by
  have hp : DomainRelation now (fun _ => true) OnlyPrepares R := h.mono hw.prepares
  refine h.bind h.tables fun t => h.bind (h.check _) fun _ => ?_
  split
  next =>
    refine h.bind (within_ensureContentStrategyRun hp answer w) fun _ => ?_
    exact h.bind (hjob w _) fun _ => h.pure _
  next =>
    refine h.bind (within_materializeContentStrategy hp S answer w) fun strategy => ?_
    refine h.bind (within_materializeCreativeBrief hp answer w strategy) fun brief => ?_
    exact within_enterProductionRunning h hw answer _ hjob
  next =>
    refine h.bind (within_materializeAssetVersion h hw S answer w) fun made => ?_
    refine h.bind (within_ensureAssetControllerRuns hp answer _ _) fun _ => ?_
    exact h.bind (hjob _ _) fun _ => h.pure _
  next =>
    refine h.bind h.tables fun t => h.bind (h.check _) fun version => ?_
    refine h.bind (h.foldlM (fun rows type => h.bind ?_ fun _ => h.pure _) _) fun reviews => ?_
    · exact within_materializeAssetReview h hw S answer w version type
    refine h.bind h.tables fun t => h.bind (h.check _) fun outcome => ?_
    cases outcome with
    | block => exact h.pure _
    | revise | passWithConditions =>
        refine within_ite (fun _ => h.pure _) fun _ => ?_
        exact within_enterProductionRunning h hw answer _ hjob
    | pass => exact h.pure _
  next => exact h.pure _

theorem within_productionWorkflowAdvanceHandler (context : RuntimeJobContext) (workflowId : Id) :
    Within R (productionWorkflowAdvanceHandler S now answer context workflowId) := by
  refine h.bind h.tables fun t => h.bind (h.check _) fun w => h.bind (h.check _) fun _ => ?_
  refine h.bind (within_advanceProductionWorkflow h hw S answer w hjob) fun w' => ?_
  exact h.modifyTables _ fun t => hw.workflows t _

end Workflow

/-! ## The workflow as domain code -/

section Grows

variable (S : OutputSchemas M) (now : Time) (answer : ProductionAnswer) (w : ProductionWorkflow)

private theorem grows :
    DomainRelation (M := M) (T := ProductionTables) now (fun _ => true) (fun _ _ => True)
      (AgentGrows now) :=
  domainRelation_agentGrows now _ _

private theorem growingWrites : ProductionWrites fun _ _ => True := by
  constructor <;> intros <;> trivial

theorem growsWithin_enqueueAdvance (suffix : ProductionAdvance) :
    Within (AgentGrows now) (enqueueAdvance (M := M) now w suffix) :=
  growsWithin_createJob now (by simp [advanceJob]) (by simp [advanceJob])

theorem growsWithin_productionWorkflowAdvanceHandler (context : RuntimeJobContext)
    (workflowId : Id) :
    Within (AgentGrows now) (productionWorkflowAdvanceHandler S now answer context workflowId) :=
  within_productionWorkflowAdvanceHandler (grows now) growingWrites S answer
    (growsWithin_enqueueAdvance now) context workflowId

theorem growsWithin_startProductionWorkflow (scope : TenantScope) (decisionId : Id)
    (maxRevisionRounds : ℤ) : Within (AgentGrows now)
      (startProductionWorkflow (M := M) now scope decisionId maxRevisionRounds) :=
  within_startProductionWorkflow (grows now) growingWrites (growsWithin_enqueueAdvance now) scope
    decisionId maxRevisionRounds

end Grows

/-- The idempotency keys of the workflow's own jobs. -/
def JobKey.isProduction : JobKey → Bool
  | .productionWorkflow _ _ => true
  | _ => false

/-- The input references of the workflow's own runs. -/
def RunRef.isProduction : RunRef → Bool
  | .contentStrategy _ | .asset _ _ | .assetController _ _ _ => true
  | _ => false

/-- What the users do, and the rest of the application outside of jobs. -/
inductive ProductionCommand
  | startProductionWorkflow (scope : TenantScope) (decisionId : Id) (maxRevisionRounds : ℤ)
  /-- The decision workflows, the approvals and the connectors write these tables. -/
  | writeDecisions (decisions : List Decision) (decisionApprovals : List DecisionApproval)
      (evidence : List Evidence)
  | foreign (work : ForeignWork)

/-- The work of a handler of the rest of the application. -/
def performForeign (now : Time) (works : List ForeignWork) : ProductionTxn M Unit :=
  works.foldlM (fun _ work => work.perform now JobKey.isProduction RunRef.isProduction) ()

/-- The `WorkflowAdvanceDispatcher` and the handlers of the other job types. -/
def productionHandler (S : OutputSchemas M) (now : Time) (answer : ProductionAnswer)
    (context : RuntimeJobContext) (payload : JobPayload) : ProductionTxn M Unit :=
  match context.jobType, payload with
  | .workflowAdvance, .productionAdvance workflowId =>
      productionWorkflowAdvanceHandler S now answer context workflowId
  | _, _ => do performForeign now (← DomainTxn.check answer.foreign)

/-- A command. -/
def ProductionCommand.run (now : Time) : ProductionCommand → ProductionTxn M Unit
  | .startProductionWorkflow scope decisionId maxRevisionRounds =>
      LaunchOS.startProductionWorkflow now scope decisionId maxRevisionRounds
  | .writeDecisions decisions decisionApprovals evidence =>
      DomainTxn.modifyTables fun t =>
        { t with
          decisions := decisions
          decisionApprovals := decisionApprovals
          evidence := evidence }
  | .foreign work => performForeign now [work]

theorem growsWithin_performForeign (now : Time) (works : List ForeignWork) :
    Within (AgentGrows now) (performForeign (M := M) now works) :=
  (grows now).foldlM (fun _ work => growsWithin_perform now _ _ work) _

/-- The production workflow on the runtime. -/
def productionApp (S : OutputSchemas M) :
    DomainApp M ProductionTables ProductionAnswer ProductionCommand where
  handle context payload now answer := exec (productionHandler S now answer context payload)
  command now c := exec (c.run now)
  handle_grows {context payload now answer db db'} h := by
    refine Ensures.of_exec (m := productionHandler S now answer context payload) ?_ h
    unfold productionHandler
    split
    next => exact growsWithin_productionWorkflowAdvanceHandler S now answer context _ db
    next =>
      exact (grows now).bind ((grows now).check _) (fun works => growsWithin_performForeign now works) db
  command_grows {now c db db'} h := by
    refine Ensures.of_exec (m := c.run now) ?_ h
    cases c with
    | startProductionWorkflow scope decisionId maxRevisionRounds =>
        exact growsWithin_startProductionWorkflow now scope decisionId maxRevisionRounds db
    | writeDecisions decisions decisionApprovals evidence =>
        simp only [ProductionCommand.run]
        exact growsWithin_modifyTables now _ db
    | foreign work => exact growsWithin_performForeign now [work] db

end LaunchOS
