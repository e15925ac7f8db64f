import LaunchOS.Application.DecisionMoves
import LaunchOS.Application.RunBudgets
import LaunchOS.Lib.Versions

/-!
# How often a decision workflow revises

A workflow with `max_revision_rounds` R makes at most R + 1 candidates, which are numbered and linked,
and its runs are bounded with them.

The module introduces:

* `DecisionWorkflow.Revising`: the candidates of a workflow, in step with its status;
* `Revised`, `revised_advanceWorkflow`: what an advance does;
* `Revisions`: the invariant, which `revisions_step` keeps;
* `decision_revisions_bounded`: the bounds, in every run.
-/

namespace LaunchOS

open Txn Transition Versions DecisionWorkflow

variable {M : Type}

/-! ## Candidates -/

namespace DecisionWorkflow

/-- The workflow has its next candidate still to make. -/
def drafting (w : DecisionWorkflow) : Bool :=
  match w.status with
  | .snapshotReady | .specialistsRunning | .chiefRunning => true
  | _ => false

/-- The candidates are numbered and linked, and there are as many as the workflow has revised, and one
more when it is not about to make it. -/
structure Revising (w : DecisionWorkflow) (candidates : List DecisionCandidate) : Prop where
  rounds : w.revisionCount ≤ w.maxRevisionRounds
  first : w.status = .snapshotReady ∨ w.status = .specialistsRunning → w.revisionCount = 0
  length : candidates.length = w.revisionCount + if w.drafting then 0 else 1
  numbered : Numbered DecisionCandidate.versionNumber candidates
  linked : Linked DecisionCandidate.id DecisionCandidate.previousCandidateId candidates
  round : ∀ c ∈ candidates, c.revisionRound + 1 = c.versionNumber

namespace Revising

variable {w w' : DecisionWorkflow} {candidates candidates' : List DecisionCandidate}
variable {t : DecisionTables}

/-- What is written into a candidate later does not matter. -/
theorem congr (h : w.Revising candidates)
    (hcore : candidates'.map DecisionCandidate.core = candidates.map DecisionCandidate.core) :
    w.Revising candidates' where
  rounds := h.rounds
  first := h.first
  length := by
    have hlength := congrArg List.length hcore
    rw [List.length_map, List.length_map] at hlength
    rw [hlength]
    exact h.length
  numbered := by
    rw [← numbered_map_iff (f := DecisionCandidate.core) fun _ => rfl, hcore]
    exact (numbered_map_iff (f := DecisionCandidate.core) fun _ => rfl).mpr h.numbered
  linked := by
    rw [← linked_map_iff (f := DecisionCandidate.core) (fun _ => rfl) fun _ => rfl, hcore]
    exact (linked_map_iff (f := DecisionCandidate.core) (fun _ => rfl) fun _ => rfl).mpr h.linked
  round c hc := by
    have hmem : c.core ∈ candidates.map DecisionCandidate.core := hcore ▸ List.mem_map_of_mem hc
    obtain ⟨c', hc', heq⟩ := List.mem_map.mp hmem
    have hround := h.round c' hc'
    -- the round and the version stand in the core
    have hsame : c'.core.revisionRound + 1 = c'.core.versionNumber := hround
    rw [heq] at hsame
    exact hsame

/-- The status and the number of revisions change together. -/
theorem turn (h : w.Revising candidates) (hrounds : w'.revisionCount ≤ w'.maxRevisionRounds)
    (hfirst : w'.status = .snapshotReady ∨ w'.status = .specialistsRunning → w'.revisionCount = 0)
    (hlength : candidates.length = w'.revisionCount + if w'.drafting then 0 else 1) :
    w'.Revising candidates :=
  ⟨hrounds, hfirst, hlength, h.numbered, h.linked, h.round⟩

theorem nextCandidateVersion_eq (h : w.Revising (candidatesOf w t)) :
    nextCandidateVersion w t = (candidatesOf w t).length + 1 := by
  rw [nextCandidateVersion, latestCandidateVersion, h.numbered.maxOf_eq]

theorem latestCandidateOrNone_eq (h : w.Revising (candidatesOf w t)) :
    latestCandidateOrNone w t = (candidatesOf w t).getLast? :=
  h.numbered.find_highest

theorem length_le (h : w.Revising candidates) : candidates.length ≤ w.maxRevisionRounds + 1 := by
  have hlength := h.length
  have hrounds := h.rounds
  split at hlength <;> omega

end Revising

/-- The candidates of a workflow, without what is written into them later. -/
theorem map_core_candidatesOf (w : DecisionWorkflow) (t : DecisionTables) :
    (candidatesOf w t).map DecisionCandidate.core =
      (t.decisionCandidates.map DecisionCandidate.core).filter fun c => c.workflowId = w.id := by
  rw [candidatesOf, List.filter_map]
  rfl

end DecisionWorkflow


/-! ## The advance of a workflow -/

/-- What an advance makes of the workflow `w`, whose row is written at the end of the step. -/
structure Revised (w : DecisionWorkflow) (db : AgentDatabase M DecisionTables)
    (w' : DecisionWorkflow) (db' : AgentDatabase M DecisionTables) : Prop where
  id : w'.id = w.id
  scope : w'.scope = w.scope
  maxRounds : w'.maxRevisionRounds = w.maxRevisionRounds
  nextId : db.nextId ≤ db'.nextId
  workflows : db'.tables.domain.decisionWorkflows = db.tables.domain.decisionWorkflows
  candidates : ∃ new : List DecisionCandidate, (∀ c ∈ new, c.workflowId = w.id) ∧
    db'.tables.domain.decisionCandidates.map DecisionCandidate.core =
      db.tables.domain.decisionCandidates.map DecisionCandidate.core ++ new
  budget : w ∈ db.tables.domain.decisionWorkflows →
    RunsBudgeted db.tables.domain.decisionWorkflows db.tables.agentRuns →
      RunsBudgeted db.tables.domain.decisionWorkflows db'.tables.agentRuns
  revising : w'.Revising (candidatesOf w db'.tables.domain)

section Advance

variable {w w' : DecisionWorkflow} {db db' db'' : AgentDatabase M DecisionTables}

/-- Without the candidates being touched, the workflow turns to another status. -/
theorem revised_turn (hid : w'.id = w.id) (hscope : w'.scope = w.scope)
    (hmax : w'.maxRevisionRounds = w.maxRevisionRounds)
    (hrevising : w'.Revising (candidatesOf w db.tables.domain)) : Revised w db w' db :=
  ⟨hid, hscope, hmax, le_rfl, rfl, ⟨[], by simp, (List.append_nil _).symm⟩, fun _ h => h, hrevising⟩

theorem SameCandidates.revising {t t' : DecisionTables} (hsame : SameCandidates t t')
    (h : w'.Revising (candidatesOf w t)) : w'.Revising (candidatesOf w t') := by
  refine h.congr ?_
  rw [map_core_candidatesOf, map_core_candidatesOf, hsame.candidates]

theorem Spends.budget_of_mem (h : Spends (some w) db db')
    (hw : w ∈ db.tables.domain.decisionWorkflows)
    (hbudget : RunsBudgeted db.tables.domain.decisionWorkflows db.tables.agentRuns) :
    RunsBudgeted db.tables.domain.decisionWorkflows db'.tables.agentRuns :=
  h.budget (fun _ hmine => Option.some.inj hmine ▸ hw) hbudget

theorem Spends.revised (h : Spends (some w) db db') (h' : Revised w db' w' db'') :
    Revised w db w' db'' where
  id := h'.id
  scope := h'.scope
  maxRounds := h'.maxRounds
  nextId := h.nextId.trans h'.nextId
  workflows := h'.workflows.trans h.workflows
  candidates := by
    rw [← h.candidates]
    exact h'.candidates
  budget hw hbudget := by
    have hlater := h'.budget
    rw [h.workflows] at hlater
    exact hlater hw (h.budget_of_mem hw hbudget)
  revising := h'.revising

theorem Revised.spends (h : Revised w db w' db') (h' : Spends (some w) db' db'') :
    Revised w db w' db'' where
  id := h.id
  scope := h.scope
  maxRounds := h.maxRounds
  nextId := h.nextId.trans h'.nextId
  workflows := h'.workflows.trans h.workflows
  candidates := by
    rw [h'.candidates]
    exact h.candidates
  budget hw hbudget := by
    have hlater := h'.budget_of_mem
    rw [h.workflows] at hlater
    exact hlater hw (h.budget hw hbudget)
  revising := h'.toSameCandidates.revising h.revising

variable (R : RunReader M) {now : Time} (answer : DecisionAnswer)

theorem spendsWithin_setCandidateStatus (w : DecisionWorkflow) (candidate : DecisionCandidate)
    (status : DecisionCandidateStatus) :
    Within (Spends (some w)) (setCandidateStatus (M := M) candidate status) :=
  (domainRelation_spends 0 (some w)).modifyTables _
    (sameCandidates_updateCandidate candidate.id fun _ => rfl)

theorem spendsWithin_enqueueWorkflowAdvance (w w' : DecisionWorkflow) (suffix : DecisionAdvance) :
    Within (Spends (some w)) (enqueueWorkflowAdvance (M := M) now w' suffix) :=
  spendsWithin_createJob (some w) now _

theorem spendsWithin_materializeControllerReviews (candidate : DecisionCandidate) :
    Within (Spends (some w)) (materializeControllerReviews R answer w candidate) := by
  have h := domainRelation_spends (M := M) 0 (some w)
  refine h.bind (h.foldlM (fun reviews type => h.bind ?_ fun _ => h.pure _) _) fun reviews => ?_
  · exact within_materializeControllerReview h (fun _ _ => ⟨rfl, rfl⟩) R answer w candidate type
  · refine h.bind (h.modifyTables _ ?_) fun _ => h.pure _
    exact sameCandidates_updateCandidate candidate.id fun _ => rfl

/-- The chief makes the candidate after as many revisions. -/
theorem revised_enterChiefRunning {revisionCount : ℕ} {previousCandidate : Option DecisionCandidate}
    {reviews : List ControllerReview}
    (h : w.Revising (candidatesOf w db.tables.domain))
    (hcount : (candidatesOf w db.tables.domain).length = revisionCount)
    (hle : revisionCount ≤ w.maxRevisionRounds) :
    Ensures (enterChiefRunning R now answer { w with revisionCount := revisionCount }
        previousCandidate reviews)
      (Revised w db) db := by
  have hversion := h.nextCandidateVersion_eq
  have hbound : nextCandidateVersion w db.tables.domain ≤ w.maxRevisionRounds + 1 := by omega
  rw [enterChiefRunning, ensures_bind]
  refine (spends_ensureChiefRun R answer hbound).mono fun _ db₁ h₁ => ?_
  rw [ensures_bind, ensures_tables]
  refine (spendsWithin_enqueueWorkflowAdvance w _ _).ensures_bind fun _ db₂ h₂ => ?_
  rw [ensures_pure]
  refine (h₁.revised ?_).spends h₂
  refine revised_turn rfl rfl rfl ((h₁.toSameCandidates.revising h).turn hle ?_ ?_)
  · rintro (hstatus | hstatus) <;> cases hstatus
  · have hsame := congrArg List.length (map_core_candidatesOf w db₁.tables.domain)
    rw [h₁.candidates, ← map_core_candidatesOf, List.length_map, List.length_map] at hsame
    exact hsame.trans hcount

/-- The candidate of the chief is the next one. -/
theorem revised_materializeCandidate (h : w.Revising (candidatesOf w db.tables.domain))
    (hstatus : w.status = .chiefRunning) :
    Ensures (materializeCandidate R answer w) (fun candidate db' =>
      candidate.versionNumber = w.revisionCount + 1 ∧
        Revised w db { w with status := .controllersRunning } db') db := by
  have hlength : (candidatesOf w db.tables.domain).length = w.revisionCount := by
    have hlength := h.length
    rw [drafting, hstatus] at hlength
    exact hlength
  have hversion := h.nextCandidateVersion_eq
  have hlatest := h.latestCandidateOrNone_eq
  rw [materializeCandidate, ensures_bind, ensures_tables]
  dsimp only
  rw [candidateForVersion_next]
  dsimp only
  rw [ensures_bind, ensures_agentRuns, ensures_bind, ensures_check]
  rintro ⟨run, output⟩ -
  rw [ensures_bind, ensures_check]
  intro _ _
  rw [ensures_bind, ensures_newId, ensures_bind, ensures_modifyTables, ensures_pure]
  dsimp only
  refine ⟨hversion.trans (congrArg (· + 1) hlength), ?_⟩
  -- the row that is added, by what the invariant needs of it
  have hnew : ∀ c : DecisionCandidate, c.workflowId = w.id →
      c.versionNumber = nextCandidateVersion w db.tables.domain →
      c.revisionRound = w.revisionCount →
      c.previousCandidateId =
        (latestCandidateOrNone w db.tables.domain).map DecisionCandidate.id →
      Revised w db { w with status := .controllersRunning }
        { db.applyJobOp 0 .newId with tables := { db.tables with domain :=
          { db.tables.domain with
            decisionCandidates := db.tables.domain.decisionCandidates ++ [c] } } } := by
    intro c hworkflow hnumber hround hprior
    rw [hversion] at hnumber
    rw [hlatest] at hprior
    have hrows : candidatesOf w { db.tables.domain with
        decisionCandidates := db.tables.domain.decisionCandidates ++ [c] } =
          candidatesOf w db.tables.domain ++ [c] := by
      simp [candidatesOf, hworkflow]
    refine ⟨rfl, rfl, rfl, Nat.le_succ _, rfl, ⟨[c.core], ?_, List.map_append⟩, fun _ h => h, ?_⟩
    · intro c' hc'
      rw [List.mem_singleton.mp hc']
      exact hworkflow
    show DecisionWorkflow.Revising _ (candidatesOf w { db.tables.domain with
      decisionCandidates := db.tables.domain.decisionCandidates ++ [c] })
    rw [hrows]
    refine ⟨h.rounds, ?_, ?_, h.numbered.concat hnumber, h.linked.concat hprior, ?_⟩
    · rintro (hother | hother) <;> cases hother
    · rw [List.length_append, hlength]
      rfl
    · intro c' hc'
      rcases List.mem_append.mp hc' with hold | hadded
      · exact h.round c' hold
      · rw [List.mem_singleton.mp hadded, hround, hnumber, hlength]
  exact hnew _ rfl rfl rfl rfl

theorem SameCandidates.length_candidatesOf {t t' : DecisionTables} (hsame : SameCandidates t t')
    (w : DecisionWorkflow) : (candidatesOf w t').length = (candidatesOf w t).length := by
  have hcores : (candidatesOf w t').map DecisionCandidate.core =
      (candidatesOf w t).map DecisionCandidate.core := by
    rw [map_core_candidatesOf, map_core_candidatesOf, hsame.candidates]
  have hlength := congrArg List.length hcores
  rwa [List.length_map, List.length_map] at hlength

/-- The reviews ask for a revision, while there are rounds left, or they end the workflow. -/
theorem revised_concludeReviews (h : w.Revising (candidatesOf w db.tables.domain))
    (hstatus : w.status = .controllersRunning) (candidate : DecisionCandidate)
    {reviews : List ControllerReview} (outcome : ControllerVerdict) :
    Ensures (concludeReviews R now answer w candidate reviews outcome) (Revised w db) db := by
  have hlength : (candidatesOf w db.tables.domain).length = w.revisionCount + 1 := by
    have hlength := h.length
    rw [drafting, hstatus] at hlength
    exact hlength
  have hd := domainRelation_spends (M := M) now (some w)
  -- the workflow ends with the candidates it has
  have hends : ∀ {db₁ : AgentDatabase M DecisionTables} (w' : DecisionWorkflow),
      Spends (some w) db db₁ → w'.id = w.id → w'.scope = w.scope →
      w'.maxRevisionRounds = w.maxRevisionRounds → w'.revisionCount = w.revisionCount →
      w'.drafting = false → Revised w db w' db₁ := by
    intro db₁ w' h₁ hid hscope hmax hcount hdraft
    refine h₁.revised (revised_turn hid hscope hmax ((h₁.toSameCandidates.revising h).turn ?_ ?_ ?_))
    · rw [hcount, hmax]
      exact h.rounds
    · rintro (hother | hother) <;> · rw [drafting, hother] at hdraft; cases hdraft
    · rw [h₁.toSameCandidates.length_candidatesOf, hlength, hcount, hdraft]
      rfl
  cases outcome with
  | block =>
      refine (spendsWithin_setCandidateStatus w candidate .blocked).ensures_bind fun _ db₁ h₁ => ?_
      rw [ensures_pure]
      exact hends _ h₁ rfl rfl rfl rfl rfl
  | revise | passWithConditions =>
      refine (spendsWithin_setCandidateStatus w candidate .revisionRequired).ensures_bind
        fun _ db₁ h₁ => ?_
      rw [ensures_ite]
      constructor
      · intro _
        rw [ensures_pure]
        exact hends _ h₁ rfl rfl rfl rfl rfl
      · intro hmore
        have hcount := (h₁.toSameCandidates.length_candidatesOf w).trans hlength
        refine (revised_enterChiefRunning R answer (h₁.toSameCandidates.revising h) hcount ?_).mono
          fun w' db₂ h₂ => h₁.revised h₂
        omega
  | pass =>
      refine (spendsWithin_setCandidateStatus w candidate .accepted).ensures_bind fun _ db₁ h₁ => ?_
      rw [ensures_bind, materializeFinalDecision, ensures_bind, ensures_tables]
      split
      · rw [ensures_bind, ensures_check]
        intro _ _
        rw [ensures_pure, ensures_pure]
        exact hends _ h₁ rfl rfl rfl rfl rfl
      · dsimp only
        rw [ensures_bind, ensures_check]
        intro _ _
        refine hd.newId.ensures_bind fun id db₂ h₂ => ?_
        refine Within.ensures_bind (hd.modifyTables _ ?made) fun _ db₃ h₃ => ?_
        case made => exact fun _ => ⟨rfl, rfl⟩
        refine (spendsWithin_setCandidateStatus w candidate .materialized).ensures_bind
          fun _ db₄ h₄ => ?_
        refine (hd.addOutboxEvent _ _).ensures_bind fun _ db₅ h₅ => ?_
        rw [ensures_pure, ensures_pure]
        have hspends := trans_of (Spends (some w)) (trans_of (Spends (some w)) h₁ h₂)
          (trans_of (Spends (some w)) h₃ (trans_of (Spends (some w)) h₄ h₅))
        exact hends _ hspends rfl rfl rfl rfl rfl

/-- One advance. -/
theorem revised_advanceWorkflow (h : w.Revising (candidatesOf w db.tables.domain)) :
    Ensures (advanceWorkflow R now answer w) (Revised w db) db := by
  have hd := domainRelation_spends (M := M) now (some w)
  have hstays : ∀ {db₁ : AgentDatabase M DecisionTables}, Spends (some w) db db₁ →
      Revised w db w db₁ := fun h₁ =>
    h₁.revised (revised_turn rfl rfl rfl (h₁.toSameCandidates.revising h))
  unfold advanceWorkflow
  split
  next hstatus =>
    have hcount : w.revisionCount = 0 := h.first (.inl hstatus)
    have hlength := h.length
    rw [drafting, hstatus] at hlength
    refine (spendsWithin_ensureSpecialistRuns R answer).ensures_bind fun _ db₁ h₁ => ?_
    refine (spendsWithin_enqueueWorkflowAdvance w w _).ensures_bind fun _ db₂ h₂ => ?_
    rw [ensures_pure]
    have hspends := trans_of (Spends (some w)) h₁ h₂
    refine hspends.revised (revised_turn rfl rfl rfl
      ((hspends.toSameCandidates.revising h).turn h.rounds (fun _ => hcount) ?_))
    rw [hspends.toSameCandidates.length_candidatesOf]
    exact hlength
  next hstatus =>
    have hlength := h.length
    rw [drafting, hstatus] at hlength
    rw [advanceSpecialists]
    refine (spendsWithin_ensureSpecialistRuns R answer).ensures_bind fun notReady db₁ h₁ => ?_
    rw [ensures_ite]
    constructor
    · intro _
      rw [ensures_bind, ensures_agentRuns]
      refine (spendsWithin_enqueueWorkflowAdvance w w _).ensures_bind fun _ db₂ h₂ => ?_
      rw [ensures_pure]
      exact hstays (trans_of (Spends (some w)) h₁ h₂)
    · intro _
      refine (within_materializeSpecialistContributions hd (fun _ _ => ⟨rfl, rfl⟩) R answer
        w).ensures_bind fun _ db₂ h₂ => ?_
      have hspends := trans_of (Spends (some w)) h₁ h₂
      refine (revised_enterChiefRunning R answer (hspends.toSameCandidates.revising h) ?_ h.rounds).mono
        fun w' db₃ h₃ => hspends.revised h₃
      rw [hspends.toSameCandidates.length_candidatesOf]
      exact hlength
  next hstatus =>
    have hversion := h.nextCandidateVersion_eq
    have hlength := h.length
    rw [drafting, hstatus] at hlength
    have hrounds := h.rounds
    have hbound : nextCandidateVersion w db.tables.domain ≤ w.maxRevisionRounds + 1 := by
      rw [hversion, hlength]
      exact Nat.succ_le_succ hrounds
    rw [advanceChief, ensures_bind]
    refine (spends_ensureChiefRun R answer hbound).mono fun notReady db₁ h₁ => ?_
    rw [ensures_ite]
    constructor
    · intro _
      rw [ensures_bind, ensures_tables, ensures_bind, ensures_agentRuns]
      refine (spendsWithin_enqueueWorkflowAdvance w w _).ensures_bind fun _ db₂ h₂ => ?_
      rw [ensures_pure]
      exact hstays (trans_of (Spends (some w)) h₁ h₂)
    · intro _
      rw [ensures_bind]
      refine (revised_materializeCandidate R answer (h₁.toSameCandidates.revising h) hstatus).mono ?_
      rintro candidate db₂ ⟨hnumber, h₂⟩
      -- the reviews of the new candidate are within the budget
      have hpos : 1 ≤ candidate.versionNumber := by omega
      have hle : candidate.versionNumber ≤ w.maxRevisionRounds + 1 := by omega
      refine (spendsWithin_ensureControllerRuns R answer hpos hle).ensures_bind
        fun _ db₃ h₃ => ?_
      refine (spendsWithin_setCandidateStatus w candidate .underReview).ensures_bind
        fun _ db₄ h₄ => ?_
      refine (spendsWithin_enqueueWorkflowAdvance w w _).ensures_bind fun _ db₅ h₅ => ?_
      rw [ensures_pure]
      exact (((h₁.revised h₂).spends h₃).spends h₄).spends h₅
  next hstatus =>
    rw [advanceControllers, ensures_bind, ensures_tables, ensures_bind, ensures_check]
    intro candidate hlatest
    have hmem : candidate ∈ candidatesOf w db.tables.domain :=
      List.mem_of_find?_eq_some (versionNumber_latestCandidate hlatest).1
    have hpos : 1 ≤ candidate.versionNumber := by
      have hround := h.round candidate hmem
      omega
    have hle : candidate.versionNumber ≤ w.maxRevisionRounds + 1 :=
      (h.numbered.num_le hmem).trans h.length_le
    refine (spendsWithin_ensureControllerRuns R answer hpos hle).ensures_bind
      fun notReady db₁ h₁ => ?_
    rw [ensures_ite]
    constructor
    · intro _
      rw [ensures_bind, ensures_agentRuns]
      refine (spendsWithin_enqueueWorkflowAdvance w w _).ensures_bind fun _ db₂ h₂ => ?_
      rw [ensures_pure]
      exact hstays (trans_of (Spends (some w)) h₁ h₂)
    · intro _
      refine (spendsWithin_materializeControllerReviews R answer candidate).ensures_bind
        fun reviews db₂ h₂ => ?_
      rw [ensures_bind, ensures_check]
      intro outcome _
      have hspends := trans_of (Spends (some w)) h₁ h₂
      exact (revised_concludeReviews R answer (hspends.toSameCandidates.revising h) hstatus candidate
        outcome).mono fun w' db₃ h₃ => hspends.revised h₃
  next =>
    rw [ensures_pure]
    exact hstays (refl _)

end Advance

/-! ## Handlers and commands -/

/-- Every workflow is in step with its candidates, and its runs are within the budget. -/
structure Revisions (nextId : Id) (t : AgentTables M DecisionTables) : Prop where
  budget : RunsBudgeted t.domain.decisionWorkflows t.agentRuns
  workflow_lt : ∀ w ∈ t.domain.decisionWorkflows, w.id < nextId
  candidate_lt : ∀ c ∈ t.domain.decisionCandidates, c.workflowId < nextId
  revising : ∀ w ∈ t.domain.decisionWorkflows, w.Revising (candidatesOf w t.domain)

/-- The candidates, without what is written into them later. -/
def DecisionTables.candidateCores (t : DecisionTables) : List DecisionCandidate :=
  t.decisionCandidates.map DecisionCandidate.core

/-- The invariant is kept, and no candidate goes away or changes but in what is written later. -/
structure Revises (db db' : AgentDatabase M DecisionTables) : Prop where
  revisions : Revisions db'.nextId db'.tables
  kept : db.tables.domain.candidateCores <+: db'.tables.domain.candidateCores

namespace Revisions

variable {w w' : DecisionWorkflow} {db db' : AgentDatabase M DecisionTables}
variable {nextId nextId' : Id} {t : AgentTables M DecisionTables}

theorem mono (h : Revisions nextId t) (hle : nextId ≤ nextId') : Revisions nextId' t :=
  ⟨h.budget, fun w hw => (h.workflow_lt w hw).trans_le hle,
    fun c hc => (h.candidate_lt c hc).trans_le hle, h.revising⟩

/-- The runtime writes into the runs. -/
theorem updateRun (h : Revisions nextId t) (runId : Id) {f : AgentRun M → AgentRun M}
    (hf : ∀ run : AgentRun M, run.SameIdentity (f run)) : Revisions nextId (t.updateRun runId f) := by
  refine ⟨h.budget.map fun run => ?_, h.workflow_lt, h.candidate_lt, h.revising⟩
  by_cases hid : run.id = runId
  · simp only [hid, if_true]
    exact hf run
  · simp only [hid, if_false]
    constructor <;> rfl

/-- What makes no candidate. -/
theorem spends (h : Revisions db.nextId db.tables) (hspends : Spends none db db') :
    Revises db db' := by
  have hsame := hspends.toSameCandidates
  have hbudget := hspends.budget (fun _ hmine => by cases hmine) h.budget
  refine ⟨⟨?_, ?_, ?_, ?_⟩, by
    rw [DecisionTables.candidateCores, DecisionTables.candidateCores, hsame.candidates]⟩
  · rw [hsame.workflows]
    exact hbudget
  · rw [hsame.workflows]
    exact fun w hw => (h.workflow_lt w hw).trans_le hspends.nextId
  · intro c hc
    have hmem : c.core ∈ db.tables.domain.decisionCandidates.map DecisionCandidate.core :=
      hsame.candidates ▸ List.mem_map_of_mem hc
    obtain ⟨c₀, hc₀, hcore⟩ := List.mem_map.mp hmem
    have hworkflow : c₀.core.workflowId = c.core.workflowId := congrArg _ hcore
    exact (hworkflow ▸ h.candidate_lt c₀ hc₀).trans_le hspends.nextId
  · rw [hsame.workflows]
    exact fun w hw => hsame.revising (h.revising w hw)

/-- The row of a workflow is written after an advance. -/
theorem put (h : Revisions db.nextId db.tables) (hw : w ∈ db.tables.domain.decisionWorkflows)
    (hrevised : Revised w db w' db') : Revises db (w'.written db') := by
  obtain ⟨new, hnew, hcores⟩ := hrevised.candidates
  have hrow : ∀ {w₂ : DecisionWorkflow},
      w₂ ∈ (db'.tables.domain.put w').decisionWorkflows →
        w₂ = w' ∨ w₂ ∈ db.tables.domain.decisionWorkflows ∧ w₂.id ≠ w.id := by
    intro w₂ hw₂
    rw [← hrevised.workflows, ← hrevised.id]
    exact DecisionTables.mem_put hw₂
  refine ⟨⟨?_, ?_, ?_, ?_⟩, ⟨new, hcores.symm⟩⟩
  · refine (hrevised.budget hw h.budget).mono ?_ fun w₀ hw₀ => ?_
    · refine Table.KeysNodup.modify ?_ fun _ _ heq => heq.symm ▸ rfl
      rw [hrevised.workflows]
      exact h.budget.ids
    · rw [← hrevised.workflows] at hw₀
      by_cases hid : w₀.id = w'.id
      · refine ⟨w', DecisionTables.mem_put_self hw₀ hid.symm, ?_⟩
        have hsame : w₀ = w := by
          rw [hrevised.workflows] at hw₀
          exact h.budget.ids.eq_of_key_eq hw₀ hw (hid.trans hrevised.id)
        rw [hsame]
        exact ⟨hrevised.id, hrevised.scope, hrevised.maxRounds⟩
      · exact ⟨w₀, DecisionTables.mem_put_of_ne hw₀ hid, rfl, rfl, rfl⟩
  · intro w₂ hw₂
    rcases hrow hw₂ with rfl | ⟨hold, -⟩
    · rw [hrevised.id]
      exact (h.workflow_lt w hw).trans_le hrevised.nextId
    · exact (h.workflow_lt w₂ hold).trans_le hrevised.nextId
  · intro c hc
    have hmem : c.core ∈ db.tables.domain.decisionCandidates.map DecisionCandidate.core ++ new :=
      hcores ▸ List.mem_map_of_mem hc
    rcases List.mem_append.mp hmem with hold | hadded
    · obtain ⟨c₀, hc₀, hcore⟩ := List.mem_map.mp hold
      have hworkflow : c₀.core.workflowId = c.core.workflowId := congrArg _ hcore
      exact (hworkflow ▸ h.candidate_lt c₀ hc₀).trans_le hrevised.nextId
    · have hworkflow : c.workflowId = w.id := hnew c.core hadded
      rw [hworkflow]
      exact (h.workflow_lt w hw).trans_le hrevised.nextId
  · intro w₂ hw₂
    rcases hrow hw₂ with rfl | ⟨hold, hne⟩
    · have hmine : candidatesOf w₂ db'.tables.domain = candidatesOf w db'.tables.domain := by
        rw [candidatesOf, candidatesOf, hrevised.id]
      show w₂.Revising (candidatesOf w₂ db'.tables.domain)
      rw [hmine]
      exact hrevised.revising
    · -- the new candidates are those of another workflow
      refine (h.revising w₂ hold).congr ?_
      show (candidatesOf w₂ db'.tables.domain).map DecisionCandidate.core = _
      have hnone : new.filter (fun c => c.workflowId = w₂.id) = [] := by
        rw [List.filter_eq_nil_iff]
        intro c hc
        simpa [hnew c hc] using Ne.symm hne
      rw [map_core_candidatesOf, map_core_candidatesOf, hcores, List.filter_append, hnone,
        List.append_nil]

/-- A new workflow has no candidates and no runs. -/
theorem start (h : Revisions db.nextId db.tables) (hid : w.id = db.nextId)
    (hstatus : w.status = .snapshotReady) (hcount : w.revisionCount = 0) :
    Revises db (w.inserted db) := by
  refine ⟨⟨?_, ?_, ?_, ?_⟩, List.prefix_rfl⟩
  · refine h.budget.mono ?_ fun w₀ hw₀ => ⟨w₀, List.mem_append_left _ hw₀, rfl, rfl, rfl⟩
    refine h.budget.ids.append (Table.keysNodup_singleton w) ?_
    simp only [List.mem_singleton, forall_eq, hid]
    exact fun w₀ hw₀ => (h.workflow_lt w₀ hw₀).ne
  · intro w₂ hw₂
    rcases List.mem_append.mp hw₂ with hold | hnew
    · exact Nat.lt_succ_of_lt (h.workflow_lt w₂ hold)
    · rw [List.mem_singleton.mp hnew, hid]
      exact Nat.lt_succ_self _
  · exact fun c hc => Nat.lt_succ_of_lt (h.candidate_lt c hc)
  · intro w₂ hw₂
    rcases List.mem_append.mp hw₂ with hold | hnew
    · exact h.revising w₂ hold
    · rw [List.mem_singleton.mp hnew]
      have hnone : candidatesOf w (w.inserted db).tables.domain = [] := by
        refine List.filter_eq_nil_iff.mpr fun c hc => ?_
        have hlt : c.workflowId < db.nextId := h.candidate_lt c hc
        simp only [hid, decide_eq_true_eq]
        exact hlt.ne
      rw [hnone]
      refine ⟨hcount.le.trans (Nat.zero_le _), fun _ => hcount, ?_, numbered_nil, linked_nil, ?_⟩
      · rw [drafting, hstatus, hcount]
        rfl
      · intro c hc
        cases hc

end Revisions

section Handlers

variable {db db' db'' : AgentDatabase M DecisionTables} {now : Time}

theorem Revises.trans (h : Revises db db') (h' : Revises db' db'') : Revises db db'' :=
  ⟨h'.revisions, h.kept.trans h'.kept⟩

theorem Revises.spends (h : Revises db db') (hspends : Spends none db' db'') : Revises db db'' :=
  h.trans (h.revisions.spends hspends)

variable (h : Revisions db.nextId db.tables)
include h

theorem revises_decisionWorkflowAdvanceHandler (R : RunReader M) (answer : DecisionAnswer)
    (context : RuntimeJobContext) (workflowId : Id) :
    Ensures (decisionWorkflowAdvanceHandler R now answer context workflowId)
      (fun _ => Revises db) db := by
  rw [decisionWorkflowAdvanceHandler, ensures_bind, ensures_tables, ensures_bind, ensures_check]
  intro w hfound
  have hw : w ∈ db.tables.domain.decisionWorkflows :=
    Table.mem_of_find (orRaise_eq_ok_iff.mp hfound)
  rw [ensures_bind, ensures_check]
  intro _ _
  rw [ensures_bind]
  refine (revised_advanceWorkflow R answer (h.revising w hw)).mono fun w' db₁ h₁ => ?_
  rw [ensures_bind, DecisionWorkflow.putWorkflow, ensures_modifyTables]
  have hrevises : Revises db (w'.written db₁) := h.put hw h₁
  rw [ensures_ite]
  constructor
  · intro _
    rw [ensures_check]
    exact fun _ _ => hrevises
  · intro _
    rw [ensures_pure]
    exact hrevises

theorem revises_startDecisionWorkflow (scope : TenantScope) (source : SnapshotSource)
    (launchId : Option Id) (maxRevisionRounds : ℤ) :
    Ensures (startDecisionWorkflow now scope source launchId maxRevisionRounds)
      (fun _ => Revises db) db := by
  have hd := domainRelation_spends (M := M) now none
  refine (within_takeSnapshot hd (fun _ _ => ⟨rfl, rfl⟩) scope source).ensures_bind
    fun snapshot db₁ h₁ => ?_
  have hrevises := h.spends h₁
  rw [ensures_bind, ensures_tables, ensures_bind, ensures_check]
  intro _ _
  split
  next existing _ =>
    refine (spendsWithin_createJob none now _).ensures_bind fun _ db₂ h₂ => ?_
    rw [ensures_pure]
    exact hrevises.spends h₂
  next =>
    rw [ensures_bind, ensures_check]
    intro _ _
    rw [ensures_bind, ensures_newId, ensures_bind, ensures_modifyTables]
    refine (hd.addOutboxEvent _ _).ensures_bind fun _ db₂ h₂ => ?_
    refine (spendsWithin_createJob none now _).ensures_bind fun _ db₃ h₃ => ?_
    rw [ensures_pure]
    refine (hrevises.trans ?_).spends (trans_of (Spends none) h₂ h₃)
    exact hrevises.revisions.start rfl rfl rfl

theorem revises_approveDecisionForProduction (scope : TenantScope) (workflowId : Id)
    (approvedByUserId : String) :
    Ensures (approveDecisionForProduction now scope workflowId approvedByUserId)
      (fun _ => Revises db) db := by
  have hd := domainRelation_spends (M := M) now none
  have hrefl : Revises db db := ⟨h, List.prefix_rfl⟩
  rw [approveDecisionForProduction, ensures_bind, ensures_tables, ensures_bind, ensures_check]
  intro w hfound
  have hw : w ∈ db.tables.domain.decisionWorkflows :=
    Table.mem_of_find (orRaise_eq_ok_iff.mp hfound)
  rw [ensures_bind, ensures_check]
  intro _ _
  rw [ensures_ite]
  constructor
  · intro _
    rw [ensures_check]
    exact fun _ _ => hrefl
  · intro _
    rw [ensures_bind, ensures_check]
    rintro ⟨decision, candidateId⟩ hawaited
    have hstatus : w.status = .awaitingDecisionApproval := by
      obtain ⟨_, hstatus, -⟩ := Except.bind_eq_ok_iff.mp hawaited
      exact require_eq_ok_iff.mp hstatus
    dsimp only
    split
    next =>
      rw [ensures_pure]
      exact hrefl
    next =>
      refine hd.newId.ensures_bind fun id db₁ h₁ => ?_
      refine Within.ensures_bind (hd.modifyTables _ ?made) fun _ db₂ h₂ => ?_
      case made => exact fun _ => ⟨rfl, rfl⟩
      rw [ensures_bind, DecisionWorkflow.putWorkflow, ensures_modifyTables]
      refine (hd.addOutboxEvent _ _).ensures_bind fun _ db₃ h₃ => ?_
      rw [ensures_pure]
      have hspends := trans_of (Spends none) h₁ h₂
      have hrevises := h.spends hspends
      have hw₂ : w ∈ db₂.tables.domain.decisionWorkflows := hspends.workflows ▸ hw
      have hrevising := hrevises.revisions.revising w hw₂
      have hlength := hrevising.length
      rw [drafting, hstatus] at hlength
      -- the candidates are as many as before, and none is to come
      have hturn : Revised w db₂ { w with
          finalApprovalId := some id, status := .approvedForProduction } db₂ := by
        refine revised_turn rfl rfl rfl (hrevising.turn hrevising.rounds ?_ hlength)
        rintro (hother | hother) <;> cases hother
      exact (hrevises.trans (hrevises.revisions.put hw₂ hturn)).spends h₃

theorem revises_command (c : DecisionCommand) :
    Ensures (runCommand now c) (fun _ => Revises db) db := by
  cases c with
  | startDecisionWorkflow scope source launchId maxRevisionRounds =>
      exact revises_startDecisionWorkflow h scope source launchId maxRevisionRounds
  | approveDecisionForProduction scope workflowId approvedByUserId =>
      rw [runCommand, ensures_bind]
      refine (revises_approveDecisionForProduction h scope workflowId approvedByUserId).mono
        fun _ db' h' => ?_
      rw [ensures_pure]
      exact h'
  | writeBusiness businessSnapshots launches =>
      rw [runCommand, ensures_modifyTables]
      exact h.spends (.of_quiet le_rfl ⟨rfl, rfl⟩ rfl)
  | foreign work =>
      exact (spendsWithin_performForeign [work] db).mono fun _ db' hspends => h.spends hspends

theorem revises_handler (R : RunReader M) (answer : DecisionAnswer) (context : RuntimeJobContext)
    (payload : JobPayload) :
    Ensures (handler R now answer context payload) (fun _ => Revises db) db := by
  unfold handler
  split
  next => exact revises_decisionWorkflowAdvanceHandler h R answer context _
  next =>
    rw [ensures_bind, ensures_check]
    intro works _
    exact (spendsWithin_performForeign works db).mono fun _ db' hspends => h.spends hspends

end Handlers

/-! ## Runs -/

/-- Every step keeps the invariant and the candidates that are made. -/
theorem revisions_step (R : RunReader M) {cores : List DecisionCandidate} {s : DecisionState M}
    (h : Revisions s.db.nextId s.db.tables ∧ cores <+: s.db.tables.domain.candidateCores)
    (action : Action (DomainAnswer M DecisionAnswer) DecisionCommand) :
    Revisions ((decisionApp R).app.step action s).db.nextId
        ((decisionApp R).app.step action s).db.tables ∧
      cores <+: ((decisionApp R).app.step action s).db.tables.domain.candidateCores := by
  refine (decisionApp R).tables_step
    (I := fun nextId t => Revisions nextId t ∧ cores <+: t.domain.candidateCores)
    (fun hle h => ⟨h.1.mono hle, h.2⟩) (fun runId f hf h => ⟨h.1.updateRun runId hf, h.2⟩) h ?_ ?_
    action
  · intro c db hok
    have hrevises := (revises_command h.1 c).of_exec hok
    exact ⟨hrevises.revisions, h.2.trans hrevises.kept⟩
  · intro context payload answer db hok
    have hrevises := (revises_handler h.1 R answer context payload).of_exec hok
    exact ⟨hrevises.revisions, h.2.trans hrevises.kept⟩

theorem revisions_run (R : RunReader M) {s : DecisionState M}
    (h : Revisions s.db.nextId s.db.tables)
    (actions : List (Action (DomainAnswer M DecisionAnswer) DecisionCommand)) :
    Revisions (run (decisionApp R).app.step s actions).db.nextId
        (run (decisionApp R).app.step s actions).db.tables ∧
      s.db.tables.domain.candidateCores <+:
        (run (decisionApp R).app.step s actions).db.tables.domain.candidateCores :=
  invariant_run_of_step (decisionApp R).app.step
    (I := fun s' => Revisions s'.db.nextId s'.db.tables ∧
      s.db.tables.domain.candidateCores <+: s'.db.tables.domain.candidateCores)
    (fun _ action h' => revisions_step R h' action) ⟨h, List.prefix_rfl⟩ actions

theorem DecisionState.Empty.revisions {s : DecisionState M} (h : DecisionState.Empty s) :
    Revisions s.db.nextId s.db.tables := by
  refine ⟨⟨?_, ?_, ?_⟩, ?_, ?_, ?_⟩ <;>
    simp [h.initial.decisionWorkflows, h.initial.agentRuns, h.decisionCandidates,
      Table.keysNodup_nil]

/-- In every state that the system reaches: a workflow has revised no more often than it may, its
candidates have the versions from one on, each with its round and the version before, and its runs
are bounded; and whatever follows, the candidates stay as they were made. -/
theorem decision_revisions_bounded (R : RunReader M) {s : DecisionState M}
    (hs : DecisionState.Empty s)
    (actions more : List (Action (DomainAnswer M DecisionAnswer) DecisionCommand)) :
    let before := run (decisionApp R).app.step s actions
    let after := run (decisionApp R).app.step before more
    ∀ w ∈ before.db.tables.domain.decisionWorkflows,
      w.revisionCount ≤ w.maxRevisionRounds ∧
      (candidatesOf w before.db.tables.domain).length ≤ w.maxRevisionRounds + 1 ∧
      Numbered DecisionCandidate.versionNumber (candidatesOf w before.db.tables.domain) ∧
      (∀ c ∈ candidatesOf w before.db.tables.domain, c.revisionRound + 1 = c.versionNumber) ∧
      Linked DecisionCandidate.id DecisionCandidate.previousCandidateId
        (candidatesOf w before.db.tables.domain) ∧
      (candidatesOf w before.db.tables.domain).map DecisionCandidate.core <+:
        (candidatesOf w after.db.tables.domain).map DecisionCandidate.core ∧
      before.db.tables.agentRuns.countP w.isRun ≤ 9 + 24 * (w.maxRevisionRounds + 1) := by
  intro before after w hw
  obtain ⟨hbefore, -⟩ := revisions_run R hs.revisions actions
  obtain ⟨-, hkept⟩ := revisions_run R hbefore more
  have hrevising := hbefore.revising w hw
  refine ⟨hrevising.rounds, hrevising.length_le, hrevising.numbered, hrevising.round,
    hrevising.linked, ?_, hbefore.budget.countP_isRun_le hw⟩
  rw [map_core_candidatesOf, map_core_candidatesOf]
  exact hkept.filter _

theorem polled_decision_revisions_bounded :
    ∃ w ∈ (run (decisionApp noReader).app.step decisionStart
        polledDecision).db.tables.domain.decisionWorkflows,
      (run (decisionApp noReader).app.step decisionStart
        polledDecision).db.tables.agentRuns.countP w.isRun ≤ 9 + 24 * (w.maxRevisionRounds + 1) := by
  have hstarted : ∃ w ∈ (run (decisionApp noReader).app.step decisionStart
      polledDecision).db.tables.domain.decisionWorkflows, w.finalDecisionId = none := by decide
  obtain ⟨w, hw, -⟩ := hstarted
  exact ⟨w, hw, (decision_revisions_bounded noReader decisionStart_empty polledDecision []
    w hw).2.2.2.2.2.2⟩

end LaunchOS
