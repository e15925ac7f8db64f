import LaunchOS.Application.DecisionGovernance

/-!
# The decision workflow on the runtime

The module introduces:

* `SameVersions`, `within_materializeControllerReviews` and so on: what each stage leaves alone;
* `DecisionCommand`: what the users and the rest of the application do;
* `decisionApp`: the workflow as domain code, with the handlers of the rest of the application.
-/

namespace LaunchOS

open Txn

variable {M α : Type}

/-! ## What the stages leave alone -/

/-- The versions of the candidates of a workflow. -/
def DecisionTables.versionsOf (workflowId : Id) (t : DecisionTables) : List ℕ :=
  (t.decisionCandidates.filter fun c => c.workflowId = workflowId).map
    DecisionCandidate.versionNumber

/-- The rows of the workflows and the versions of the candidates are left alone. -/
def SameVersions (t t' : DecisionTables) : Prop :=
  t'.decisionWorkflows = t.decisionWorkflows ∧ ∀ id, t'.versionsOf id = t.versionsOf id

instance : IsPreorder DecisionTables SameVersions where
  refl _ := ⟨rfl, fun _ => rfl⟩
  trans _ _ _ h h' := ⟨h'.1.trans h.1, fun id => (h'.2 id).trans (h.2 id)⟩

theorem sameVersions_updateCandidate (id : Id) {f : DecisionCandidate → DecisionCandidate}
    (hworkflow : ∀ c, (f c).workflowId = c.workflowId)
    (hversion : ∀ c, (f c).versionNumber = c.versionNumber) (t : DecisionTables) :
    SameVersions t (t.updateCandidate id f) := by
  refine ⟨rfl, fun workflowId => ?_⟩
  have hmap : ∀ rows : List DecisionCandidate,
      ((Table.modify DecisionCandidate.id id f rows).filter fun c => c.workflowId = workflowId).map
          DecisionCandidate.versionNumber =
        (rows.filter fun c => c.workflowId = workflowId).map DecisionCandidate.versionNumber := by
    intro rows
    induction rows with
    | nil => rfl
    | cons c rows ih =>
        have hrow : (if c.id = id then f c else c).workflowId = c.workflowId ∧
            (if c.id = id then f c else c).versionNumber = c.versionNumber := by
          split
          · exact ⟨hworkflow c, hversion c⟩
          · exact ⟨rfl, rfl⟩
        simp only [Table.modify, List.map_cons, List.filter_cons, hrow.1] at ih ⊢
        split
        · simp only [List.map_cons, hrow.2, ih]
        · exact ih
  exact hmap t.decisionCandidates

namespace DecisionWorkflow

section Stages

variable {now : Time} {refOk : RunRef → Bool}
variable {Rel : AgentDatabase M DecisionTables → AgentDatabase M DecisionTables → Prop}

theorem within_materializeSpecialistContribution {r : DecisionTables → DecisionTables → Prop}
    (h : DomainRelation now refOk r Rel)
    (hr : ∀ t rows, r t { t with specialistContributions := rows }) (R : RunReader M)
    (answer : DecisionAnswer) (w : DecisionWorkflow) (contractKey : String) :
    Within Rel (materializeSpecialistContribution R answer w contractKey) := by
  refine h.bind h.tables fun t => ?_
  split
  next => exact h.pure _
  next =>
    refine h.bind h.agentRuns fun runs => h.bind (h.check _) fun made => ?_
    refine h.bind (h.check _) fun _ => h.bind h.newId fun id => ?_
    exact h.modifyTables _ fun t => hr t _

theorem within_materializeSpecialistContributions {r : DecisionTables → DecisionTables → Prop}
    (h : DomainRelation now refOk r Rel)
    (hr : ∀ t rows, r t { t with specialistContributions := rows }) (R : RunReader M)
    (answer : DecisionAnswer) (w : DecisionWorkflow) :
    Within Rel (materializeSpecialistContributions R answer w) :=
  h.foldlM (fun _ contractKey =>
    within_materializeSpecialistContribution h hr R answer w contractKey) _

theorem within_materializeControllerReview {r : DecisionTables → DecisionTables → Prop}
    (h : DomainRelation now refOk r Rel)
    (hr : ∀ t rows, r t { t with controllerReviews := rows }) (R : RunReader M)
    (answer : DecisionAnswer) (w : DecisionWorkflow) (candidate : DecisionCandidate)
    (controllerType : String) :
    Within Rel (materializeControllerReview R answer w candidate controllerType) := by
  refine h.bind h.tables fun t => ?_
  split
  next => exact h.pure _
  next =>
    refine h.bind h.agentRuns fun runs => h.bind (h.check _) fun made => ?_
    refine h.bind (h.check _) fun _ => h.bind h.newId fun id => h.bind ?_ fun _ => h.pure _
    exact h.modifyTables _ fun t => hr t _

theorem within_materializeCandidate {r : DecisionTables → DecisionTables → Prop}
    (h : DomainRelation now refOk r Rel)
    (hr : ∀ t rows, r t { t with decisionCandidates := rows }) (R : RunReader M)
    (answer : DecisionAnswer) (w : DecisionWorkflow) :
    Within Rel (materializeCandidate R answer w) := by
  refine h.bind h.tables fun t => ?_
  dsimp only
  split
  next => exact h.pure _
  next =>
    refine h.bind h.agentRuns fun runs => h.bind (h.check _) fun made => ?_
    refine h.bind (h.check _) fun _ => h.bind h.newId fun id => h.bind ?_ fun _ => h.pure _
    exact h.modifyTables _ fun t => hr t _

theorem within_takeSnapshot {r : DecisionTables → DecisionTables → Prop}
    (h : DomainRelation now refOk r Rel)
    (hr : ∀ t row, r t { t with businessSnapshots := t.businessSnapshots ++ [row] })
    (scope : TenantScope) (source : SnapshotSource) : Within Rel (takeSnapshot scope source) := by
  cases source with
  | existing snapshotId => exact h.bind h.tables fun t => h.check _
  | created payload =>
      refine h.bind (h.check _) fun evidence => h.bind h.newId fun id => ?_
      exact h.bind (h.modifyTables _ fun t => hr t _) fun _ => h.pure _

variable (h : DomainRelation now refOk SameVersions Rel)
variable (R : RunReader M) (answer : DecisionAnswer) (w : DecisionWorkflow)
include h

theorem within_updateCandidate (id : Id) {f : DecisionCandidate → DecisionCandidate}
    (hworkflow : ∀ c, (f c).workflowId = c.workflowId)
    (hversion : ∀ c, (f c).versionNumber = c.versionNumber) :
    Within Rel (DomainTxn.modifyTables (DecisionTables.updateCandidate id f)) :=
  h.modifyTables _ (sameVersions_updateCandidate id hworkflow hversion)

theorem within_setCandidateStatus (candidate : DecisionCandidate)
    (status : DecisionCandidateStatus) : Within Rel (setCandidateStatus candidate status) :=
  within_updateCandidate h _ (fun _ => rfl) fun _ => rfl

theorem within_materializeControllerReviews (candidate : DecisionCandidate) :
    Within Rel (materializeControllerReviews R answer w candidate) := by
  refine h.bind (h.foldlM (fun reviews type => h.bind ?_ fun _ => h.pure _) _) fun reviews => ?_
  · exact within_materializeControllerReview h (fun _ _ => ⟨rfl, fun _ => rfl⟩) R answer w candidate
      type
  · exact h.bind (within_updateCandidate h _ (fun _ => rfl) fun _ => rfl) fun _ => h.pure _

theorem within_materializeFinalDecision (candidate : DecisionCandidate) :
    Within Rel (materializeFinalDecision now w candidate) := by
  refine h.bind h.tables fun t => ?_
  split
  next => exact h.bind (h.check _) fun _ => h.pure _
  next =>
    refine h.bind (h.check _) fun _ => h.bind h.newId fun id => ?_
    refine h.bind (h.modifyTables _ fun t => ⟨rfl, fun _ => rfl⟩) fun _ => ?_
    refine h.bind (within_setCandidateStatus h candidate .materialized) fun _ => ?_
    exact h.bind (h.addOutboxEvent _ _) fun _ => h.pure _

end Stages

/-! ## The steps within a relation -/

section Advance

variable {now : Time} {r : DecisionTables → DecisionTables → Prop}
variable {Rel : AgentDatabase M DecisionTables → AgentDatabase M DecisionTables → Prop}
variable (h : DomainRelation now (fun _ => true) r Rel)
variable (R : RunReader M) (answer : DecisionAnswer) (w : DecisionWorkflow)
include h

theorem within_ensureRuns {β : Type} (role : β → RunRole M α) (contextRefs : List ContextReference)
    (keys : List β) : Within Rel (ensureRuns now answer w role contextRefs keys) := by
  refine h.foldlM (fun notReady key => h.bind ?_ fun _ => h.pure _) _
  refine h.bind h.agentRuns fun runs => h.bind (h.check _) fun state => ?_
  cases state with
  | ready => exact h.pure _
  | pending => exact h.pure _
  | create => exact h.bind (h.createAgentRun _ _ rfl rfl) fun _ => h.pure _

theorem within_ensureSpecialistRuns : Within Rel (ensureSpecialistRuns R now answer w) :=
  h.bind h.tables fun _ => within_ensureRuns h answer w _ _ _

theorem within_ensureChiefRun {previousCandidate : Option DecisionCandidate}
    {reviews : List ControllerReview} :
    Within Rel (ensureChiefRun R now answer w previousCandidate reviews) :=
  h.bind h.tables fun _ => within_ensureRuns h answer w _ _ _

theorem within_ensureControllerRuns (candidate : DecisionCandidate) :
    Within Rel (ensureControllerRuns R now answer w candidate) :=
  h.bind h.tables fun _ => within_ensureRuns h answer w _ _ _

/-- The jobs of the workflow and what its stages write stay within a relation. -/
structure StagesWithin (Rel : AgentDatabase M DecisionTables → AgentDatabase M DecisionTables → Prop)
    (R : RunReader M) (now : Time) (answer : DecisionAnswer) : Prop where
  enqueue : ∀ w suffix, Within Rel (enqueueWorkflowAdvance now w suffix)
  contribution : ∀ w contractKey, Within Rel (materializeSpecialistContribution R answer w contractKey)
  candidate : ∀ w, Within Rel (materializeCandidate R answer w)
  review : ∀ w candidate controllerType,
    Within Rel (materializeControllerReview R answer w candidate controllerType)
  update : ∀ id (f : DecisionCandidate → DecisionCandidate),
    (∀ c, f c = { c with status := (f c).status, controllerReviewIds := (f c).controllerReviewIds }) →
      Within Rel (DomainTxn.modifyTables (DecisionTables.updateCandidate id f))
  decision : ∀ w candidate, Within Rel (materializeFinalDecision now w candidate)
  put : ∀ w, Within Rel (putWorkflow w)

variable (hs : StagesWithin Rel R now answer)
include hs

theorem within_enterChiefRunning {previousCandidate : Option DecisionCandidate}
    {reviews : List ControllerReview} :
    Within Rel (enterChiefRunning R now answer w previousCandidate reviews) := by
  refine h.bind (within_ensureChiefRun h R answer w) fun _ => h.bind h.tables fun t => ?_
  exact h.bind (hs.enqueue w _) fun _ => h.pure _

omit h in
theorem StagesWithin.setCandidateStatus (candidate : DecisionCandidate)
    (status : DecisionCandidateStatus) : Within Rel (setCandidateStatus candidate status) :=
  hs.update candidate.id _ fun _ => rfl

theorem within_concludeReviews (candidate : DecisionCandidate) {reviews : List ControllerReview}
    (outcome : ControllerVerdict) :
    Within Rel (concludeReviews R now answer w candidate reviews outcome) := by
  cases outcome with
  | block => exact h.bind (hs.setCandidateStatus R answer candidate _) fun _ => h.pure _
  | revise | passWithConditions =>
      refine h.bind (hs.setCandidateStatus R answer candidate _) fun _ => ?_
      refine within_ite (fun _ => h.pure _) fun _ => ?_
      exact within_enterChiefRunning h R answer _ hs
  | pass =>
      refine h.bind (hs.setCandidateStatus R answer candidate _) fun _ => ?_
      exact h.bind (hs.decision w candidate) fun _ => h.pure _

theorem within_advanceWorkflow : Within Rel (advanceWorkflow R now answer w) := by
  unfold advanceWorkflow
  split
  next =>
    refine h.bind (within_ensureSpecialistRuns h R answer w) fun _ => ?_
    exact h.bind (hs.enqueue w _) fun _ => h.pure _
  next =>
    refine h.bind (within_ensureSpecialistRuns h R answer w) fun notReady => ?_
    refine within_ite (fun _ => ?_) fun _ => ?_
    · exact h.bind h.agentRuns fun runs => h.bind (hs.enqueue w _) fun _ => h.pure _
    · refine h.bind (h.foldlM (fun _ contractKey => hs.contribution w contractKey) _) fun _ => ?_
      exact within_enterChiefRunning h R answer w hs
  next =>
    refine h.bind (within_ensureChiefRun h R answer w) fun notReady => ?_
    refine within_ite (fun _ => ?_) fun _ => ?_
    · refine h.bind h.tables fun t => h.bind h.agentRuns fun runs => ?_
      exact h.bind (hs.enqueue w _) fun _ => h.pure _
    · refine h.bind (hs.candidate w) fun candidate => ?_
      refine h.bind (within_ensureControllerRuns h R answer w candidate) fun _ => ?_
      refine h.bind (hs.setCandidateStatus R answer candidate _) fun _ => ?_
      exact h.bind (hs.enqueue w _) fun _ => h.pure _
  next =>
    refine h.bind h.tables fun t => h.bind (h.check _) fun candidate => ?_
    refine h.bind (within_ensureControllerRuns h R answer w candidate) fun notReady => ?_
    refine within_ite (fun _ => ?_) fun _ => ?_
    · exact h.bind h.agentRuns fun runs => h.bind (hs.enqueue w _) fun _ => h.pure _
    · refine h.bind ?_ fun reviews => h.bind (h.check _) fun outcome => ?_
      · refine h.bind (h.foldlM (fun rows type => ?_) _) fun rows => ?_
        · exact h.bind (hs.review w candidate type) fun _ => h.pure _
        · exact h.bind (hs.update candidate.id _ fun _ => rfl) fun _ => h.pure _
      · exact within_concludeReviews h R answer w hs candidate outcome
  next => exact h.pure _

theorem within_decisionWorkflowAdvanceHandler (context : RuntimeJobContext) (workflowId : Id) :
    Within Rel (decisionWorkflowAdvanceHandler R now answer context workflowId) := by
  refine h.bind h.tables fun t => h.bind (h.check _) fun w => h.bind (h.check _) fun _ => ?_
  refine h.bind (within_advanceWorkflow h R answer w hs) fun w' => h.bind (hs.put w') fun _ => ?_
  exact within_ite (fun _ => h.check _) fun _ => h.pure _

end Advance

section Commands

variable {now : Time} {r : DecisionTables → DecisionTables → Prop}
variable {Rel : AgentDatabase M DecisionTables → AgentDatabase M DecisionTables → Prop}
variable (h : DomainRelation now (fun _ => true) r Rel)
include h

theorem within_startDecisionWorkflow
    (henqueue : ∀ w suffix, Within Rel (enqueueWorkflowAdvance now w suffix))
    (hsnapshots : ∀ t row, r t { t with businessSnapshots := t.businessSnapshots ++ [row] })
    (hworkflows : ∀ t rows, r t { t with decisionWorkflows := rows })
    (scope : TenantScope) (source : SnapshotSource) (launchId : Option Id)
    (maxRevisionRounds : ℤ) :
    Within Rel (startDecisionWorkflow now scope source launchId maxRevisionRounds) := by
  refine h.bind (within_takeSnapshot h hsnapshots scope source) fun snapshot => ?_
  refine h.bind h.tables fun t => h.bind (h.check _) fun _ => ?_
  split
  next => exact h.bind (henqueue _ _) fun _ => h.pure _
  next =>
    refine h.bind (h.check _) fun _ => h.bind h.newId fun id => ?_
    refine h.bind (h.modifyTables _ fun t => hworkflows t _) fun _ => ?_
    exact h.bind (h.addOutboxEvent _ _) fun _ => h.bind (henqueue _ _) fun _ => h.pure _

theorem within_approveDecisionForProduction
    (hworkflows : ∀ t rows, r t { t with decisionWorkflows := rows })
    (hdecisions : ∀ t decisionId approval, r t { t with
      decisionApprovals := t.decisionApprovals ++ [approval]
      decisions := Table.modify FinalDecision.id decisionId
        (fun decision => { decision with approvedForProduction := true }) t.decisions })
    (scope : TenantScope) (workflowId : Id) (approvedByUserId : String) :
    Within Rel (approveDecisionForProduction now scope workflowId approvedByUserId) := by
  refine h.bind h.tables fun t => h.bind (h.check _) fun w => h.bind (h.check _) fun _ => ?_
  refine within_ite (fun _ => h.check _) fun _ => h.bind (h.check _) fun awaited => ?_
  obtain ⟨decision, candidateId⟩ := awaited
  dsimp only
  split
  next => exact h.pure _
  next =>
    refine h.bind h.newId fun id => h.bind (h.modifyTables _ fun t => hdecisions t _ _) fun _ => ?_
    refine h.bind (h.modifyTables _ fun t => hworkflows t _) fun _ => ?_
    exact h.bind (h.addOutboxEvent _ _) fun _ => h.pure _

end Commands

/-! ## The workflow as domain code -/

section Grows

variable (R : RunReader M) (now : Time) (answer : DecisionAnswer)

private theorem growth :
    DomainRelation (M := M) (T := DecisionTables) now (fun _ => true) (fun _ _ => True)
      (AgentGrows now) :=
  domainRelation_agentGrows now _ _

theorem growsWithin_enqueueWorkflowAdvance (w : DecisionWorkflow) (suffix : DecisionAdvance) :
    Within (AgentGrows now) (enqueueWorkflowAdvance (M := M) now w suffix) :=
  growsWithin_createJob now (by simp [advanceJob]) (by simp [advanceJob])

theorem growsWithin_stages : StagesWithin (AgentGrows now) R now answer where
  enqueue := growsWithin_enqueueWorkflowAdvance now
  contribution w contractKey :=
    within_materializeSpecialistContribution (growth now) (fun _ _ => trivial) R answer w contractKey
  candidate w :=
    within_materializeCandidate (growth now) (fun _ _ => trivial) R answer w
  review w candidate _ :=
    within_materializeControllerReview (growth now) (fun _ _ => trivial) R answer w candidate _
  update _ _ _ := growsWithin_modifyTables now _
  decision w candidate :=
    within_materializeFinalDecision (domainRelation_agentGrows now (fun _ => true) _) w candidate
  put _ := growsWithin_modifyTables now _

theorem growsWithin_decisionWorkflowAdvanceHandler (context : RuntimeJobContext)
    (workflowId : Id) :
    Within (AgentGrows now) (decisionWorkflowAdvanceHandler R now answer context workflowId) :=
  within_decisionWorkflowAdvanceHandler (growth now) R answer (growsWithin_stages R now answer)
    context workflowId

theorem growsWithin_startDecisionWorkflow (scope : TenantScope) (source : SnapshotSource)
    (launchId : Option Id) (maxRevisionRounds : ℤ) :
    Within (AgentGrows now)
      (startDecisionWorkflow (M := M) now scope source launchId maxRevisionRounds) :=
  within_startDecisionWorkflow (growth now) (growsWithin_enqueueWorkflowAdvance now)
    (fun _ _ => trivial) (fun _ _ => trivial) scope source launchId maxRevisionRounds

theorem growsWithin_approveDecisionForProduction (scope : TenantScope) (workflowId : Id)
    (approvedByUserId : String) :
    Within (AgentGrows now)
      (approveDecisionForProduction (M := M) now scope workflowId approvedByUserId) :=
  within_approveDecisionForProduction (growth now) (fun _ _ => trivial) (fun _ _ _ => trivial) scope
    workflowId approvedByUserId

end Grows

end DecisionWorkflow

/-- The idempotency keys of the workflow's own jobs. -/
def JobKey.isDecision : JobKey → Bool
  | .decisionWorkflow _ _ => true
  | _ => false

/-- The input references of the workflow's own runs. -/
def RunRef.isDecision : RunRef → Bool
  | .specialist _ _ | .chief _ _ | .candidate _ _ _ => true
  | _ => false

/-- What the users do, and the rest of the application outside of jobs. -/
inductive DecisionCommand
  | startDecisionWorkflow (scope : TenantScope) (source : DecisionWorkflow.SnapshotSource)
      (launchId : Option Id) (maxRevisionRounds : ℤ)
  | approveDecisionForProduction (scope : TenantScope) (workflowId : Id)
      (approvedByUserId : String)
  /-- The commands of the business write these tables. -/
  | writeBusiness (businessSnapshots : List BusinessSnapshot) (launches : List Launch)
  | foreign (work : ForeignWork)

namespace DecisionWorkflow

/-- The work of a handler of the rest of the application. -/
def performForeign (now : Time) (works : List ForeignWork) : DecisionTxn M Unit :=
  works.foldlM (fun _ work => work.perform now JobKey.isDecision RunRef.isDecision) ()

/-- The `WorkflowAdvanceDispatcher` and the handlers of the other job types. -/
def handler (R : RunReader M) (now : Time) (answer : DecisionAnswer) (context : RuntimeJobContext)
    (payload : JobPayload) : DecisionTxn M Unit :=
  match context.jobType, payload with
  | .workflowAdvance, .decisionAdvance workflowId =>
      decisionWorkflowAdvanceHandler R now answer context workflowId
  | _, _ => do performForeign now (← DomainTxn.check answer.foreign)

/-- A command. -/
def runCommand (now : Time) : DecisionCommand → DecisionTxn M Unit
  | .startDecisionWorkflow scope source launchId maxRevisionRounds =>
      startDecisionWorkflow now scope source launchId maxRevisionRounds
  | .approveDecisionForProduction scope workflowId approvedByUserId => do
      let _ ← approveDecisionForProduction now scope workflowId approvedByUserId
  | .writeBusiness businessSnapshots launches =>
      DomainTxn.modifyTables fun t =>
        { t with businessSnapshots := businessSnapshots, launches := launches }
  | .foreign work => performForeign now [work]

theorem growsWithin_performForeign (now : Time) (works : List ForeignWork) :
    Within (AgentGrows now) (performForeign (M := M) now works) :=
  (growth now).foldlM (fun _ work => growsWithin_perform now _ _ work) _

end DecisionWorkflow

open DecisionWorkflow in
/-- The decision workflow on the runtime. -/
def decisionApp (R : RunReader M) : DomainApp M DecisionTables DecisionAnswer DecisionCommand where
  handle context payload now answer := exec (handler R now answer context payload)
  command now c := exec (runCommand now c)
  handle_grows {context payload now answer db db'} h := by
    refine Ensures.of_exec (m := handler R now answer context payload) ?_ h
    unfold handler
    split
    next => exact growsWithin_decisionWorkflowAdvanceHandler R now answer context _ db
    next =>
      exact (growth now).bind ((growth now).check _)
        (fun works => growsWithin_performForeign now works) db
  command_grows {now c db db'} h := by
    refine Ensures.of_exec (m := runCommand now c) ?_ h
    cases c with
    | startDecisionWorkflow scope source launchId maxRevisionRounds =>
        exact growsWithin_startDecisionWorkflow now scope source launchId maxRevisionRounds db
    | approveDecisionForProduction scope workflowId approvedByUserId =>
        exact (growth now).bind
          (growsWithin_approveDecisionForProduction now scope workflowId approvedByUserId)
          (fun _ => (growth now).pure _) db
    | writeBusiness businessSnapshots launches =>
        simp only [runCommand]
        exact growsWithin_modifyTables now _ db
    | foreign work => exact growsWithin_performForeign now [work] db

end LaunchOS
