import LaunchOS.AiRuntime.RunContexts
import LaunchOS.Application.ControllerGate

/-!
# The contexts of the decision workflow

The runs of the specialists, the chief and the controllers are created with references that fit their
contracts, in every round of revision.

The module introduces:

* `fits_specialist`, `fits_chief`, `fits_controller`: the references of each family of runs;
* `DecisionWorkflow.consulted`, `Consulted`: the workflows that have contributions, and their rows;
* `decision_runs_fit`: what holds of the runs in every state.
-/

namespace LaunchOS

open ContextBuilder Transition Txn

variable {M : Type}

namespace DecisionWorkflow

/-! ## The references -/

section References

variable (w : DecisionWorkflow)

theorem fits_specialist (key : String) :
    Fits ({} : ContextBudget).maxItems (specialistContract key).toContextContract [snapshotRef w] where
  ne_nil := List.cons_ne_nil _ _
  allowed := by simp [snapshotRef, specialistContract]
  present := by simp [snapshotRef, specialistContract]
  before _ _ := lt_of_le_of_lt List.countP_le_length (show _ < 20 by simp)

theorem fits_controller (candidate : DecisionCandidate) (key : String) :
    Fits ({} : ContextBudget).maxItems (controllerContract key).toContextContract
      (controllerContextRefs w candidate) where
  ne_nil := List.cons_ne_nil _ _
  allowed := by simp [controllerContextRefs, snapshotRef, controllerContract]
  present := by simp [controllerContextRefs, snapshotRef, controllerContract]
  before _ _ := lt_of_le_of_lt List.countP_le_length (show _ < 20 by simp [controllerContextRefs])

/-- The contributions come last in the order of the types, so that their number does not matter. -/
theorem fits_chief {t : DecisionTables} {previousCandidate : Option DecisionCandidate}
    {reviews : List ControllerReview} (hcontributions : specialistContributions w t ≠ [])
    (hreviews : reviews.length ≤ requiredControllerTypes.length) :
    Fits ({} : ContextBudget).maxItems chiefGrowthProducerContract.toContextContract
      (chiefContextRefs w t previousCandidate reviews) where
  ne_nil := List.cons_ne_nil _ _
  allowed := by
    intro reference hreference
    simp only [chiefContextRefs, List.mem_append, List.mem_cons, List.mem_map] at hreference
    rcases hreference with ((rfl | ⟨_, -, rfl⟩) | ⟨_, -, rfl⟩) | ⟨_, -, rfl⟩ <;>
      simp [snapshotRef, chiefGrowthProducerContract]
  present := by
    obtain ⟨row, hrow⟩ := List.exists_mem_of_ne_nil _ hcontributions
    intro type htype
    simp only [chiefGrowthProducerContract, List.mem_cons, List.not_mem_nil, or_false] at htype
    rcases htype with rfl | rfl
    · exact ⟨snapshotRef w, by simp [chiefContextRefs], rfl⟩
    · refine ⟨⟨"specialist_contribution", toString row.id⟩, ?_, rfl⟩
      simp only [chiefContextRefs, List.mem_append, List.mem_cons, List.mem_map]
      exact .inl (.inl (.inr ⟨row, hrow, rfl⟩))
  before := by
    intro type htype
    have hlast : ∀ type ∈ chiefGrowthProducerContract.requiredContextTypes,
        ¬ "specialist_contribution".toList < type.toList := by decide
    have hprevious : (previousCandidate.toList.map fun candidate =>
        (⟨"decision_candidate", toString candidate.id⟩ : ContextReference)).length ≤ 1 := by
      cases previousCandidate <;> simp
    have hseven : requiredControllerTypes.length = 7 := rfl
    rw [chiefContextRefs, List.countP_append, List.countP_append, List.countP_cons, countP_typed,
      countP_typed "controller_review", if_neg (hlast type htype)]
    have hcandidate := (List.countP_le_length (p := fun reference : ContextReference =>
      reference.objectType.toList < type.toList)).trans hprevious
    show _ < 20
    split <;> split <;> omega

end References

/-- The types of these contracts are known to every builder. -/
theorem types_known (builder : Builder) : baseTypes ⊆ builder.types := by
  cases builder with
  | base => exact List.Subset.refl _
  | production => exact List.subset_append_right _ _

section Registered

variable (builder : Builder) (w : DecisionWorkflow)

theorem registered_specialist {key : String} (hkey : key ∈ specialistContractKeys) :
    FitsRegistered builder key [snapshotRef w] := by
  refine ⟨specialistContract key, ?_, rfl, rfl, ?_, fits_specialist w key⟩
  · have hmem : specialistContract key ∈ specialistContracts := List.mem_map_of_mem hkey
    simp [phase4AgentRegistry, phase3AgentRegistry, hmem]
  · exact List.Subset.trans (show ["business_snapshot"] ⊆ baseTypes by decide) (types_known builder)

theorem registered_controller (candidate : DecisionCandidate) {type : String}
    (htype : type ∈ requiredControllerTypes) :
    FitsRegistered builder (controllerContractKey type) (controllerContextRefs w candidate) := by
  refine ⟨controllerContract (controllerContractKey type), ?_, rfl, rfl, ?_,
    fits_controller w candidate _⟩
  · have hmem : controllerContract (controllerContractKey type) ∈ controllerContracts :=
      List.mem_map_of_mem htype
    simp [phase4AgentRegistry, phase3AgentRegistry, hmem]
  · exact List.Subset.trans
      (show ["business_snapshot", "decision_candidate"] ⊆ baseTypes by decide) (types_known builder)

theorem registered_chief {t : DecisionTables} {previousCandidate : Option DecisionCandidate}
    {reviews : List ControllerReview} (hcontributions : specialistContributions w t ≠ [])
    (hreviews : reviews.length ≤ requiredControllerTypes.length) :
    FitsRegistered builder chiefGrowthProducerContractKey
      (chiefContextRefs w t previousCandidate reviews) := by
  refine ⟨chiefGrowthProducerContract, ?_, rfl, rfl, ?_, fits_chief w hcontributions hreviews⟩
  · simp [phase4AgentRegistry, phase3AgentRegistry]
  · exact List.Subset.trans
      (show chiefGrowthProducerContract.allowedContextTypes ⊆ baseTypes by decide)
      (types_known builder)

end Registered

/-! ## The stages -/

/-- The rows of the workflows are left alone, and contributions stay. -/
structure KeepsContributions (t t' : DecisionTables) : Prop where
  workflows : t'.decisionWorkflows = t.decisionWorkflows
  contributions : t.specialistContributions ⊆ t'.specialistContributions

instance : IsPreorder DecisionTables KeepsContributions where
  refl _ := ⟨rfl, List.Subset.refl _⟩
  trans _ _ _ h h' :=
    ⟨h'.workflows.trans h.workflows, List.Subset.trans h.contributions h'.contributions⟩

/-- The candidates and their reviews are left alone as well. -/
structure KeepsRounds (t t' : DecisionTables) : Prop extends KeepsContributions t t' where
  candidates : t'.decisionCandidates = t.decisionCandidates
  reviews : t'.controllerReviews = t.controllerReviews

instance : IsPreorder DecisionTables KeepsRounds where
  refl t := ⟨refl t, rfl, rfl⟩
  trans _ _ _ h h' := ⟨trans_of KeepsContributions h.toKeepsContributions h'.toKeepsContributions,
    h'.candidates.trans h.candidates, h'.reviews.trans h.reviews⟩

/-- No candidate has more reviews than there are controllers. -/
def FewReviews (t : DecisionTables) : Prop :=
  ∀ c ∈ t.decisionCandidates, (controllerReviews c t).length ≤ requiredControllerTypes.length

theorem KeepsRounds.fewReviews {t t' : DecisionTables} (h : KeepsRounds t t') (hfew : FewReviews t) :
    FewReviews t' := by
  intro c hc
  rw [h.candidates] at hc
  rw [controllerReviews, h.reviews]
  exact hfew c hc

theorem KeepsContributions.specialistContributions_ne_nil {t t' : DecisionTables}
    (h : KeepsContributions t t') {w : DecisionWorkflow} (hw : specialistContributions w t ≠ []) :
    specialistContributions w t' ≠ [] := by
  obtain ⟨row, hrow⟩ := List.exists_mem_of_ne_nil _ hw
  obtain ⟨hmem, hmine⟩ := List.mem_filter.mp hrow
  exact List.ne_nil_of_mem (List.mem_filter.mpr ⟨h.contributions hmem, hmine⟩)

/-- The runs that are created fit. -/
abbrev DecisionSpawns (builder : Builder) (r : DecisionTables → DecisionTables → Prop) :
    AgentDatabase M DecisionTables → AgentDatabase M DecisionTables → Prop :=
  SpawnsFit RunRef.isDecision builder r

section Stages

variable {α : Type} {r : DecisionTables → DecisionTables → Prop} [IsPreorder DecisionTables r]
variable (builder : Builder) (R : RunReader M) (now : Time) (answer : DecisionAnswer)
variable (w : DecisionWorkflow) {db : AgentDatabase M DecisionTables}

private theorem fitting (builder : Builder) (now : Time) (r : DecisionTables → DecisionTables → Prop)
    [IsPreorder DecisionTables r] :
    DomainRelation (M := M) now (fun ref => !ref.isDecision) r (DecisionSpawns builder r) :=
  domainRelation_spawnsFit now RunRef.isDecision builder r

theorem fitsWithin_enqueueWorkflowAdvance (suffix : DecisionAdvance) :
    Within (DecisionSpawns builder r) (enqueueWorkflowAdvance (M := M) now w suffix) :=
  fitsWithin_createJob now _

theorem fitsWithin_ensureRuns {β : Type} {role : β → RunRole M α}
    {contextRefs : List ContextReference} {keys : List β}
    (hfits : ∀ key ∈ keys, FitsRegistered builder (role key).contractKey contextRefs) :
    Within (DecisionSpawns builder r) (ensureRuns now answer w role contextRefs keys) := by
  have h := fitting (M := M) builder now r
  have hrun : ∀ key ∈ keys, Within (DecisionSpawns builder r)
      ((role key).ensureRun w now answer contextRefs) := by
    intro key hkey
    refine h.bind h.agentRuns fun runs => h.bind (h.check _) fun state => ?_
    cases state with
    | ready | pending => exact h.pure _
    | create =>
        refine h.bind (fitsWithin_createAgentRun now answer.admission fun _ => ?_) fun _ => h.pure _
        exact (hfits key hkey).row rfl
  intro db
  refine Ensures.foldlM (I := fun _ db' => DecisionSpawns builder r db db')
    (fun key hkey notReady db₁ h₁ => ?_) (refl db)
  rw [ensures_bind]
  refine (hrun key hkey db₁).mono fun _ db₂ h₂ => ?_
  rw [ensures_pure]
  exact trans_of (DecisionSpawns builder r) h₁ h₂

theorem fitsWithin_ensureSpecialistRuns :
    Within (DecisionSpawns builder r) (ensureSpecialistRuns R now answer w) := by
  have h := fitting (M := M) builder now r
  refine h.bind h.tables fun t => fitsWithin_ensureRuns builder now answer w fun key hkey => ?_
  exact registered_specialist builder w hkey

theorem fitsWithin_ensureControllerRuns (candidate : DecisionCandidate) :
    Within (DecisionSpawns builder r) (ensureControllerRuns R now answer w candidate) := by
  have h := fitting (M := M) builder now r
  refine h.bind h.tables fun t => fitsWithin_ensureRuns builder now answer w fun type htype => ?_
  exact registered_controller builder w candidate htype

/-- The reviews of the round before are those of one candidate. -/
theorem length_previousRound_le {t : DecisionTables} (hfew : FewReviews t) {version : ℕ}
    {previousCandidate : Option DecisionCandidate} {reviews : List ControllerReview}
    (hreviews : reviews.length ≤ requiredControllerTypes.length) :
    (previousRound w t version previousCandidate reviews).2.length ≤
      requiredControllerTypes.length := by
  unfold previousRound
  split
  next =>
    split
    next candidate hcandidate =>
      exact hfew candidate (List.mem_of_mem_filter (List.mem_of_find?_eq_some hcandidate))
    next => exact Nat.zero_le _
  next => exact hreviews

theorem fits_ensureChiefRun (hcontributions : specialistContributions w db.tables.domain ≠ [])
    (hfew : FewReviews db.tables.domain) {previousCandidate : Option DecisionCandidate}
    {reviews : List ControllerReview}
    (hreviews : reviews.length ≤ requiredControllerTypes.length) :
    Ensures (ensureChiefRun R now answer w previousCandidate reviews)
      (fun _ => DecisionSpawns builder r db) db := by
  rw [ensureChiefRun, ensures_bind, ensures_tables]
  refine fitsWithin_ensureRuns builder now answer w (fun version _ => ?_) db
  exact registered_chief builder w hcontributions (length_previousRound_le w hfew hreviews)

/-- A contribution is found or made. -/
theorem fits_materializeSpecialistContribution (contractKey : String) :
    Ensures (materializeSpecialistContribution R answer w contractKey) (fun _ db' =>
      DecisionSpawns builder KeepsRounds db db' ∧
        specialistContributions w db'.tables.domain ≠ []) db := by
  rw [materializeSpecialistContribution, ensures_bind, ensures_tables]
  split
  next row hfind =>
    rw [ensures_pure]
    refine ⟨refl db, List.ne_nil_of_mem (a := row) (List.mem_filter.mpr ?_)⟩
    have hsame := List.find?_some hfind
    simp only [Bool.and_eq_true, decide_eq_true_eq] at hsame
    exact ⟨List.mem_of_find?_eq_some hfind, decide_eq_true hsame.1.1⟩
  next =>
    rw [ensures_bind, ensures_agentRuns, ensures_bind, ensures_check]
    rintro ⟨agentRun, output⟩ -
    rw [ensures_bind, ensures_check]
    intro _ _
    rw [ensures_bind, ensures_newId, ensures_modifyTables]
    refine ⟨⟨⟨Nat.le_succ _, ?_⟩, fun _ hrun => .inl hrun⟩, ?_⟩
    · exact ⟨⟨rfl, List.subset_append_left _ _⟩, rfl, rfl⟩
    · simp [specialistContributions]

theorem fits_materializeSpecialistContributions :
    Ensures (materializeSpecialistContributions R answer w) (fun _ db' =>
      DecisionSpawns builder KeepsRounds db db' ∧
        specialistContributions w db'.tables.domain ≠ []) db := by
  have hloop : Ensures (materializeSpecialistContributions R answer w) (fun _ db' =>
      DecisionSpawns builder KeepsRounds db db' ∧ (specialistContractKeys ≠ [] →
        specialistContributions w db'.tables.domain ≠ [])) db := by
    refine Ensures.foldlM_prefix (I := fun done _ db' => DecisionSpawns builder KeepsRounds db db' ∧
      (done ≠ [] → specialistContributions w db'.tables.domain ≠ [])) ?_ ⟨refl db, fun h => absurd rfl h⟩
    rintro done key rest - _ db₁ ⟨h₁, -⟩
    refine (fits_materializeSpecialistContribution builder R answer w key).mono ?_
    rintro _ db₂ ⟨h₂, hmade⟩
    exact ⟨trans_of (DecisionSpawns builder KeepsRounds) h₁ h₂, fun _ => hmade⟩
  exact hloop.mono fun _ db' h => ⟨h.1, h.2 (by decide)⟩

/-! ### Candidates and reviews -/

theorem fitsWithin_materializeCandidate :
    Within (DecisionSpawns builder KeepsContributions) (materializeCandidate (M := M) R answer w) :=
  within_materializeCandidate (fitting builder 0 KeepsContributions)
    (fun _ _ => ⟨rfl, List.Subset.refl _⟩) R answer w

theorem fitsWithin_setCandidateStatus (candidate : DecisionCandidate)
    (status : DecisionCandidateStatus) :
    Within (DecisionSpawns builder KeepsContributions)
      (setCandidateStatus (M := M) candidate status) :=
  (fitting builder 0 KeepsContributions).modifyTables _ fun _ => ⟨rfl, List.Subset.refl _⟩

/-- As many reviews are made as there are controllers. -/
theorem fits_materializeControllerReviews (candidate : DecisionCandidate) :
    Ensures (materializeControllerReviews R answer w candidate) (fun reviews db' =>
      DecisionSpawns builder KeepsContributions db db' ∧
        reviews.length = requiredControllerTypes.length) db := by
  have h := fitting (M := M) builder 0 KeepsContributions
  rw [materializeControllerReviews, ensures_bind]
  have hloop : Ensures (requiredControllerTypes.foldlM (fun reviews type => do
      return reviews ++ [← materializeControllerReview R answer w candidate type]) [])
      (fun reviews db' => DecisionSpawns builder KeepsContributions db db' ∧
        reviews.length = requiredControllerTypes.length) db := by
    refine Ensures.foldlM_prefix (I := fun done (reviews : List ControllerReview) db' =>
      DecisionSpawns builder KeepsContributions db db' ∧ reviews.length = done.length) ?_ ⟨refl db, rfl⟩
    rintro done type rest - reviews db₁ ⟨h₁, hlength⟩
    rw [ensures_bind]
    refine (within_materializeControllerReview h (fun _ _ => ⟨rfl, List.Subset.refl _⟩) R answer w
      candidate type db₁).mono fun review db₂ h₂ => ?_
    rw [ensures_pure]
    exact ⟨trans_of (DecisionSpawns builder KeepsContributions) h₁ h₂, by simp [hlength]⟩
  refine hloop.mono ?_
  rintro reviews db₁ ⟨h₁, hlength⟩
  have hupdate : Within (DecisionSpawns (M := M) builder KeepsContributions)
      (DomainTxn.modifyTables (DecisionTables.updateCandidate candidate.id fun c =>
        { c with controllerReviewIds := reviews.map ControllerReview.id })) :=
    h.modifyTables _ fun _ => ⟨rfl, List.Subset.refl _⟩
  refine hupdate.ensures_bind fun _ db₂ h₂ => ?_
  rw [ensures_pure]
  exact ⟨trans_of (DecisionSpawns builder KeepsContributions) h₁ h₂, hlength⟩

theorem fitsWithin_materializeFinalDecision (candidate : DecisionCandidate) :
    Within (DecisionSpawns builder KeepsContributions)
      (materializeFinalDecision (M := M) now w candidate) := by
  have h := fitting (M := M) builder now KeepsContributions
  refine h.bind h.tables fun t => ?_
  split
  next => exact h.bind (h.check _) fun _ => h.pure _
  next =>
    refine h.bind (h.check _) fun _ => h.bind h.newId fun id => ?_
    refine h.bind (h.modifyTables _ fun t => ⟨rfl, List.Subset.refl _⟩) fun _ => ?_
    refine h.bind (fitsWithin_setCandidateStatus builder candidate .materialized) fun _ => ?_
    exact h.bind (h.addOutboxEvent _ _) fun _ => h.pure _

end Stages

/-! ## One advance -/

/-- The chief or the controllers work on the workflow. -/
def consulted (w : DecisionWorkflow) : Prop :=
  w.status = .chiefRunning ∨ w.status = .controllersRunning

/-- What an advance of a workflow ends with. -/
structure Briefed (builder : Builder) (db : AgentDatabase M DecisionTables) (w : DecisionWorkflow)
    (w' : DecisionWorkflow) (db' : AgentDatabase M DecisionTables) : Prop where
  id : w'.id = w.id
  spawns : DecisionSpawns builder KeepsContributions db db'
  contributions : w'.consulted → specialistContributions w' db'.tables.domain ≠ []

section Advance

variable (builder : Builder) (R : RunReader M) (now : Time) (answer : DecisionAnswer)
variable (w : DecisionWorkflow) {db : AgentDatabase M DecisionTables}

/-- Waiting for the chief with a run whose references fit. -/
theorem briefed_enterChiefRunning {w₁ : DecisionWorkflow} {db₁ : AgentDatabase M DecisionTables}
    {previousCandidate : Option DecisionCandidate} {reviews : List ControllerReview}
    (hid : w₁.id = w.id) (hspawns : DecisionSpawns builder KeepsContributions db db₁)
    (hcontributions : specialistContributions w₁ db₁.tables.domain ≠ [])
    (hfits : Ensures (ensureChiefRun R now answer w₁ previousCandidate reviews)
      (fun _ => DecisionSpawns builder KeepsContributions db₁) db₁) :
    Ensures (enterChiefRunning R now answer w₁ previousCandidate reviews) (Briefed builder db w)
      db₁ := by
  rw [enterChiefRunning, ensures_bind]
  refine hfits.mono fun _ db₂ h₂ => ?_
  rw [ensures_bind, ensures_tables]
  refine (fitsWithin_enqueueWorkflowAdvance (r := KeepsContributions) builder now w₁
    _).ensures_bind fun _ db₃ h₃ => ?_
  rw [ensures_pure]
  have hmore := trans_of (DecisionSpawns builder KeepsContributions) h₂ h₃
  refine ⟨hid, trans_of (DecisionSpawns builder KeepsContributions) hspawns hmore, fun _ => ?_⟩
  exact hmore.domain.specialistContributions_ne_nil hcontributions

/-- A workflow that neither the chief nor the controllers work on. -/
theorem Briefed.of_spawns {w' : DecisionWorkflow} {db' : AgentDatabase M DecisionTables}
    (hid : w'.id = w.id) (hspawns : DecisionSpawns builder KeepsContributions db db')
    (hstatus : ¬ w'.consulted) : Briefed builder db w w' db' :=
  ⟨hid, hspawns, fun hconsulted => absurd hconsulted hstatus⟩

theorem briefed_advanceSnapshot : Ensures (advanceSnapshot R now answer w) (Briefed builder db w) db := by
  rw [advanceSnapshot]
  refine (fitsWithin_ensureSpecialistRuns (r := KeepsContributions) builder R now answer
    w).ensures_bind fun _ db₁ h₁ => ?_
  refine (fitsWithin_enqueueWorkflowAdvance (r := KeepsContributions) builder now w
    _).ensures_bind fun _ db₂ h₂ => ?_
  rw [ensures_pure]
  exact .of_spawns builder w rfl (trans_of (DecisionSpawns builder KeepsContributions) h₁ h₂)
    (by simp [consulted])

theorem briefed_advanceSpecialists (hfew : FewReviews db.tables.domain)
    (hstatus : w.status = .specialistsRunning) :
    Ensures (advanceSpecialists R now answer w) (Briefed builder db w) db := by
  have hrounds : ∀ {db₁ db₂ : AgentDatabase M DecisionTables},
      DecisionSpawns builder KeepsRounds db₁ db₂ →
        DecisionSpawns builder KeepsContributions db₁ db₂ :=
    fun h => h.mono fun _ _ => KeepsRounds.toKeepsContributions
  rw [advanceSpecialists]
  refine (fitsWithin_ensureSpecialistRuns (r := KeepsRounds) builder R now answer w).ensures_bind
    fun notReady db₁ h₁ => ?_
  rw [ensures_ite]
  constructor
  · intro _
    rw [ensures_bind, ensures_agentRuns]
    refine (fitsWithin_enqueueWorkflowAdvance (r := KeepsContributions) builder now w
      _).ensures_bind fun _ db₂ h₂ => ?_
    rw [ensures_pure]
    exact .of_spawns builder w rfl
      (trans_of (DecisionSpawns builder KeepsContributions) (hrounds h₁) h₂)
      (by simp [consulted, hstatus])
  · intro _
    rw [ensures_bind]
    refine (fits_materializeSpecialistContributions builder R answer w).mono ?_
    rintro _ db₂ ⟨h₂, hmade⟩
    have hspawns := trans_of (DecisionSpawns builder KeepsRounds) h₁ h₂
    exact briefed_enterChiefRunning builder R now answer w rfl (hrounds hspawns) hmade
      (fits_ensureChiefRun builder R now answer w hmade (hspawns.domain.fewReviews hfew)
        (Nat.zero_le _))

theorem briefed_advanceChief (hfew : FewReviews db.tables.domain)
    (hcontributions : specialistContributions w db.tables.domain ≠ []) :
    Ensures (advanceChief R now answer w) (Briefed builder db w) db := by
  -- what is added to the database so far
  let spawned := DecisionSpawns (M := M) builder KeepsContributions
  rw [advanceChief, ensures_bind]
  refine (fits_ensureChiefRun (r := KeepsContributions) builder R now answer w hcontributions hfew
    (Nat.zero_le _)).mono fun notReady db₁ h₁ => ?_
  rw [ensures_ite]
  constructor
  · intro _
    rw [ensures_bind, ensures_tables, ensures_bind, ensures_agentRuns]
    refine (fitsWithin_enqueueWorkflowAdvance (r := KeepsContributions) builder now w
      _).ensures_bind fun _ db₂ h₂ => ?_
    rw [ensures_pure]
    have hspawns := trans_of spawned h₁ h₂
    exact ⟨rfl, hspawns, fun _ => hspawns.domain.specialistContributions_ne_nil hcontributions⟩
  · intro _
    refine (fitsWithin_materializeCandidate builder R answer w).ensures_bind
      fun candidate db₂ h₂ => ?_
    refine (fitsWithin_ensureControllerRuns (r := KeepsContributions) builder R now answer w
      candidate).ensures_bind fun _ db₃ h₃ => ?_
    refine (fitsWithin_setCandidateStatus builder candidate _).ensures_bind fun _ db₄ h₄ => ?_
    refine (fitsWithin_enqueueWorkflowAdvance (r := KeepsContributions) builder now w
      _).ensures_bind fun _ db₅ h₅ => ?_
    rw [ensures_pure]
    have hspawns := trans_of spawned (trans_of spawned (trans_of spawned h₁ h₂) h₃)
      (trans_of spawned h₄ h₅)
    exact ⟨rfl, hspawns, fun _ => hspawns.domain.specialistContributions_ne_nil hcontributions⟩

theorem briefed_concludeReviews {db₁ : AgentDatabase M DecisionTables}
    (hspawns : DecisionSpawns builder KeepsContributions db db₁)
    (hcontributions : specialistContributions w db₁.tables.domain ≠ [])
    (candidate : DecisionCandidate) {reviews : List ControllerReview}
    (hreviews : reviews.length = requiredControllerTypes.length) (outcome : ControllerVerdict) :
    Ensures (concludeReviews R now answer w candidate reviews outcome) (Briefed builder db w) db₁ := by
  let spawned := DecisionSpawns (M := M) builder KeepsContributions
  cases outcome with
  | block =>
      rw [concludeReviews]
      refine (fitsWithin_setCandidateStatus builder candidate _).ensures_bind fun _ db₂ h₂ => ?_
      rw [ensures_pure]
      exact .of_spawns builder w rfl (trans_of spawned hspawns h₂) (by simp [consulted])
  | revise | passWithConditions =>
      rw [concludeReviews]
      refine (fitsWithin_setCandidateStatus builder candidate _).ensures_bind fun _ db₂ h₂ => ?_
      have hmore : specialistContributions w db₂.tables.domain ≠ [] :=
        h₂.domain.specialistContributions_ne_nil hcontributions
      rw [ensures_ite]
      constructor
      · intro _
        rw [ensures_pure]
        exact .of_spawns builder w rfl (trans_of spawned hspawns h₂) (by simp [consulted])
      · intro _
        -- the round before is the one that was reviewed
        refine briefed_enterChiefRunning builder R now answer w rfl (trans_of spawned hspawns h₂)
          hmore ?_
        rw [ensureChiefRun, ensures_bind, ensures_tables]
        refine fitsWithin_ensureRuns builder now answer _ (fun version _ => ?_) db₂
        refine registered_chief builder _ hmore ?_
        simp [previousRound, hreviews]
  | pass =>
      rw [concludeReviews]
      refine (fitsWithin_setCandidateStatus builder candidate _).ensures_bind fun _ db₂ h₂ => ?_
      rw [ensures_bind]
      refine ((fitsWithin_materializeFinalDecision builder now w candidate db₂).and
        (ensures_materializeFinalDecision candidate)).mono ?_
      rintro w' db₃ ⟨h₃, hid, -⟩
      rw [ensures_pure]
      exact .of_spawns builder w hid (trans_of spawned (trans_of spawned hspawns h₂) h₃)
        (by simp [consulted])

theorem briefed_advanceControllers
    (hcontributions : specialistContributions w db.tables.domain ≠ []) :
    Ensures (advanceControllers R now answer w) (Briefed builder db w) db := by
  let spawned := DecisionSpawns (M := M) builder KeepsContributions
  rw [advanceControllers, ensures_bind, ensures_tables, ensures_bind, ensures_check]
  intro candidate _
  refine (fitsWithin_ensureControllerRuns (r := KeepsContributions) builder R now answer w
    candidate).ensures_bind fun notReady db₁ h₁ => ?_
  rw [ensures_ite]
  constructor
  · intro _
    rw [ensures_bind, ensures_agentRuns]
    refine (fitsWithin_enqueueWorkflowAdvance (r := KeepsContributions) builder now w
      _).ensures_bind fun _ db₂ h₂ => ?_
    rw [ensures_pure]
    have hspawns := trans_of spawned h₁ h₂
    exact ⟨rfl, hspawns, fun _ => hspawns.domain.specialistContributions_ne_nil hcontributions⟩
  · intro _
    rw [ensures_bind]
    refine (fits_materializeControllerReviews builder R answer w candidate).mono ?_
    rintro reviews db₂ ⟨h₂, hlength⟩
    rw [ensures_bind, ensures_check]
    intro outcome _
    have hspawns := trans_of spawned h₁ h₂
    exact briefed_concludeReviews builder R now answer w hspawns
      (hspawns.domain.specialistContributions_ne_nil hcontributions) candidate hlength outcome

theorem briefed_advanceWorkflow (hfew : FewReviews db.tables.domain)
    (hcontributions : w.consulted → specialistContributions w db.tables.domain ≠ []) :
    Ensures (advanceWorkflow R now answer w) (Briefed builder db w) db := by
  unfold advanceWorkflow
  split
  next => exact briefed_advanceSnapshot builder R now answer w
  next hstatus => exact briefed_advanceSpecialists builder R now answer w hfew hstatus
  next hstatus =>
    exact briefed_advanceChief builder R now answer w hfew (hcontributions (.inl hstatus))
  next hstatus =>
    exact briefed_advanceControllers builder R now answer w (hcontributions (.inr hstatus))
  next =>
    rw [ensures_pure]
    exact ⟨rfl, refl db, hcontributions⟩

end Advance

/-! ## Handlers and commands -/

/-- The workflows that the chief or the controllers work on have contributions, and the runs of the
workflows fit their contracts. -/
structure Informed (builder : Builder) (t : AgentTables M DecisionTables) : Prop where
  contributions : ∀ w ∈ t.domain.decisionWorkflows, w.consulted →
    specialistContributions w t.domain ≠ []
  runs : RunsFit RunRef.isDecision builder t.agentRuns

section Handlers

variable {builder : Builder} {now : Time} {db db' : AgentDatabase M DecisionTables}

theorem Informed.spawns (h : Informed builder db.tables)
    (hspawns : DecisionSpawns builder KeepsContributions db db') : Informed builder db'.tables where
  contributions w hw hconsulted := by
    rw [hspawns.domain.workflows] at hw
    exact hspawns.domain.specialistContributions_ne_nil (h.contributions w hw hconsulted)
  runs := h.runs.spawns hspawns

/-- The row of a workflow is written. -/
theorem Informed.written (h : Informed builder db.tables) {w : DecisionWorkflow}
    (hw : w.consulted → specialistContributions w db.tables.domain ≠ []) :
    Informed builder (w.written db).tables where
  contributions w' hw' hconsulted := by
    rcases Table.mem_modify_cases hw' with ⟨_, _, _, rfl⟩ | ⟨hold, -⟩
    · exact hw hconsulted
    · exact h.contributions w' hold hconsulted
  runs := h.runs

/-- A new workflow is added. -/
theorem Informed.inserted (h : Informed builder db.tables) {w : DecisionWorkflow}
    (hw : ¬ w.consulted) : Informed builder (w.inserted db).tables where
  contributions w' hw' hconsulted := by
    rcases List.mem_append.mp hw' with hold | hnew
    · exact h.contributions w' hold hconsulted
    · rw [List.mem_singleton.mp hnew] at hconsulted
      exact absurd hconsulted hw
  runs := h.runs

theorem informed_decisionWorkflowAdvanceHandler (R : RunReader M) (answer : DecisionAnswer)
    (context : RuntimeJobContext) (workflowId : Id) (hfew : FewReviews db.tables.domain)
    (h : Informed builder db.tables) :
    Ensures (decisionWorkflowAdvanceHandler R now answer context workflowId)
      (fun _ db' => Informed builder db'.tables) db := by
  rw [decisionWorkflowAdvanceHandler, ensures_bind, ensures_tables, ensures_bind, ensures_check]
  intro w hfound
  have hw : w ∈ db.tables.domain.decisionWorkflows :=
    Table.mem_of_find (orRaise_eq_ok_iff.mp hfound)
  rw [ensures_bind, ensures_check]
  intro _ _
  rw [ensures_bind]
  refine (briefed_advanceWorkflow builder R now answer w hfew (h.contributions w hw)).mono
    fun w' db₁ h₁ => ?_
  rw [ensures_bind, DecisionWorkflow.putWorkflow, ensures_modifyTables]
  have hwritten : Informed builder (w'.written db₁).tables :=
    (h.spawns h₁.spawns).written h₁.contributions
  rw [ensures_ite]
  constructor
  · intro _
    rw [ensures_check]
    exact fun _ _ => hwritten
  · intro _
    rw [ensures_pure]
    exact hwritten

theorem fitsWithin_performForeign (works : List ForeignWork) :
    Within (DecisionSpawns builder KeepsContributions)
      (DecisionWorkflow.performForeign (M := M) now works) :=
  (fitting builder now KeepsContributions).foldlM (fun _ work => fitsWithin_perform now _ work) _

theorem informed_startDecisionWorkflow (h : Informed builder db.tables) (scope : TenantScope)
    (source : SnapshotSource) (launchId : Option Id) (maxRevisionRounds : ℤ) :
    Ensures (startDecisionWorkflow now scope source launchId maxRevisionRounds)
      (fun _ db' => Informed builder db'.tables) db := by
  have hd := fitting (M := M) builder now KeepsContributions
  refine (within_takeSnapshot hd (fun _ _ => ⟨rfl, List.Subset.refl _⟩) scope source).ensures_bind
    fun snapshot db₁ h₁ => ?_
  rw [ensures_bind, ensures_tables, ensures_bind, ensures_check]
  intro _ _
  split
  next existing _ =>
    refine (fitsWithin_enqueueWorkflowAdvance (r := KeepsContributions) builder now existing
      _).ensures_bind fun _ db₂ h₂ => ?_
    rw [ensures_pure]
    exact (h.spawns h₁).spawns h₂
  next =>
    rw [ensures_bind, ensures_check]
    intro _ _
    rw [ensures_bind, ensures_newId, ensures_bind, ensures_modifyTables]
    refine (hd.addOutboxEvent _ _).ensures_bind fun _ db₂ h₂ => ?_
    refine (fitsWithin_enqueueWorkflowAdvance (r := KeepsContributions) builder now _
      _).ensures_bind fun _ db₃ h₃ => ?_
    rw [ensures_pure]
    refine (((h.spawns h₁).inserted ?_).spawns h₂).spawns h₃
    simp [consulted]

theorem informed_approveDecisionForProduction (h : Informed builder db.tables)
    (scope : TenantScope) (workflowId : Id) (approvedByUserId : String) :
    Ensures (approveDecisionForProduction now scope workflowId approvedByUserId)
      (fun _ db' => Informed builder db'.tables) db := by
  have hd := fitting (M := M) builder now KeepsContributions
  rw [approveDecisionForProduction, ensures_bind, ensures_tables, ensures_bind, ensures_check]
  intro w _
  rw [ensures_bind, ensures_check]
  intro _ _
  rw [ensures_ite]
  constructor
  · intro _
    rw [ensures_check]
    exact fun _ _ => h
  · intro _
    rw [ensures_bind, ensures_check]
    rintro ⟨decision, candidateId⟩ -
    dsimp only
    split
    next =>
      rw [ensures_pure]
      exact h
    next =>
      rw [ensures_bind, ensures_newId]
      refine Within.ensures_bind (hd.modifyTables _ fun t => ⟨rfl, List.Subset.refl _⟩)
        fun _ db₁ h₁ => ?_
      rw [ensures_bind, DecisionWorkflow.putWorkflow, ensures_modifyTables]
      refine (hd.addOutboxEvent _ _).ensures_bind fun _ db₂ h₂ => ?_
      rw [ensures_pure]
      have hnew : Informed builder (db.applyJobOp 0 .newId).tables := h
      refine ((hnew.spawns h₁).written ?_).spawns h₂
      simp [consulted]

theorem informed_command (h : Informed builder db.tables) (c : DecisionCommand) :
    Ensures (runCommand now c) (fun _ db' => Informed builder db'.tables) db := by
  cases c with
  | startDecisionWorkflow scope source launchId maxRevisionRounds =>
      exact informed_startDecisionWorkflow h scope source launchId maxRevisionRounds
  | approveDecisionForProduction scope workflowId approvedByUserId =>
      rw [runCommand, ensures_bind]
      refine (informed_approveDecisionForProduction h scope workflowId approvedByUserId).mono
        fun _ db' h' => ?_
      rw [ensures_pure]
      exact h'
  | writeBusiness businessSnapshots launches =>
      rw [runCommand, ensures_modifyTables]
      exact ⟨h.contributions, h.runs⟩
  | foreign work =>
      exact (fitsWithin_performForeign [work] db).mono fun _ db' hspawns => h.spawns hspawns

theorem informed_handler (R : RunReader M) (answer : DecisionAnswer) (context : RuntimeJobContext)
    (payload : JobPayload) (hfew : FewReviews db.tables.domain) (h : Informed builder db.tables) :
    Ensures (handler R now answer context payload) (fun _ db' => Informed builder db'.tables) db := by
  unfold handler
  split
  next => exact informed_decisionWorkflowAdvanceHandler R answer context _ hfew h
  next =>
    rw [ensures_bind, ensures_check]
    intro works _
    exact (fitsWithin_performForeign works db).mono fun _ db' hspawns => h.spawns hspawns

end Handlers

/-! ## Runs -/

/-- The gate has one review of each controller. -/
theorem fewReviews_of_gated {t : DecisionTables} {nextId : Id} (h : t.gate.Gated nextId) :
    FewReviews t := by
  intro c hc
  have hlength : (controllerReviews c t).length = (t.gate.reviewsOf c.id).length := by
    rw [DecisionTables.reviewsOf_gate, List.length_map]
    rfl
  rw [hlength]
  rcases h.reviewed c.core (DecisionTables.mem_gate_candidates hc) with hnone | hall
  · show (t.gate.reviewsOf c.core.id).length ≤ _
    rw [hnone]
    exact Nat.zero_le _
  · rw [← hall, List.length_map]
    exact le_rfl

theorem informed_step (builder : Builder) (R : RunReader M) {s : DecisionState M}
    (h : DecisionGated s.db ∧ Informed builder s.db.tables)
    (action : Action (DomainAnswer M DecisionAnswer) DecisionCommand) :
    DecisionGated ((decisionApp R).app.step action s).db ∧
      Informed builder ((decisionApp R).app.step action s).db.tables := by
  obtain ⟨hgated, hinformed⟩ := h
  refine (decisionApp R).tables_step
    (I := fun nextId t => t.domain.gate.Gated nextId ∧ Informed builder t)
    (fun hle h => ⟨h.1.mono hle, h.2⟩) ?_ ⟨hgated, hinformed⟩ ?_ ?_ action
  · intro n t runId f hf h
    exact ⟨h.1, h.2.contributions, h.2.runs.updateRun runId hf⟩
  · intro c db hok
    exact ⟨((secures_command hgated c).of_exec hok).gated, (informed_command hinformed c).of_exec hok⟩
  · intro context payload answer db hok
    refine ⟨((secures_handler R answer context payload hgated).of_exec hok).gated, ?_⟩
    exact (informed_handler R answer context payload (fewReviews_of_gated hgated) hinformed).of_exec
      hok

/-- In every state the runs of decision workflows fit their contracts. -/
theorem decision_runs_fit (builder : Builder) (R : RunReader M) {s : DecisionState M}
    (h : DecisionState.Empty s)
    (actions : List (Action (DomainAnswer M DecisionAnswer) DecisionCommand)) :
    RunsFit RunRef.isDecision builder
      (run (decisionApp R).app.step s actions).db.tables.agentRuns := by
  have hstart : Informed builder s.db.tables := by
    refine ⟨fun w hw => ?_, fun agentRun hrun => ?_⟩
    · rw [h.initial.decisionWorkflows] at hw
      cases hw
    · rw [h.initial.agentRuns] at hrun
      cases hrun
  exact (invariant_run_of_step (decisionApp R).app.step
    (I := fun s' => DecisionGated s'.db ∧ Informed builder s'.db.tables)
    (fun _ action h' => informed_step builder R h' action) ⟨h.gated, hstart⟩ actions).2.runs

end DecisionWorkflow

end LaunchOS
