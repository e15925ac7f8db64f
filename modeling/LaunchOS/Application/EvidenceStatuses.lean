import LaunchOS.Analytics.Steps
import LaunchOS.Application.DecisionApp
import LaunchOS.Application.Footprints
import LaunchOS.Execution.AtMostOnce

/-!
# Statuses of evidence in the decision workflow

What the agents refer to has a status in the context they were shown. The workflow accepts no output
that refers to anything else, or with another status.

The module introduces:

* `recordedStatus`: the status of a reference in a manifest and in the snapshot that it shows;
* `validateEvidenceRefs_eq_ok_iff`: what `_validate_evidence_refs` accepts;
* `RefsRecorded`: the references of all rows have their recorded statuses;
* `DecisionWrites`: a relation that the operations of the decision workflow stay within, and
  `evolves_step`, that every step of the loop does;
* `evidence_refs_recorded`, `facts_recorded_iff`: what the rows of every reachable state refer to, and
  when the facts of a specialist are recorded as facts.
-/

namespace LaunchOS

open Txn Transition DecisionWorkflow

variable {M : Type}

/-! ## Recorded statuses -/

/-- A manifest item is the one of a reference. -/
def ContextItem.Names (ref : String) (item : ContextItem) : Prop :=
  item.provenanceRef = some ref ∨
    item.sourceObjectType = some "evidence" ∧ item.sourceObjectId = some ref

/-- The manifest shows the snapshot. -/
def showsSnapshot (manifest : List ContextItem) (snapshotId : Id) : Bool :=
  ((manifestEvidenceRefStatuses manifest).lookup
    ("business_snapshot:" ++ toString snapshotId)).isSome

/-- The statuses of the manifest, and of the snapshot if it is shown; a missing snapshot has none. -/
def recordedStatuses (manifest : List ContextItem) (snapshotId : Id) (t : DecisionTables) :
    Option EvidenceStatuses :=
  if showsSnapshot manifest snapshotId then
    (Table.find BusinessSnapshot.id snapshotId t.businessSnapshots).map fun snapshot =>
      (snapshot.evidence.map fun item => (item.id, item.status)).reverse ++
        manifestEvidenceRefStatuses manifest
  else some (manifestEvidenceRefStatuses manifest)

/-- The status that is recorded for a reference. -/
def recordedStatus (manifest : List ContextItem) (snapshotId : Id) (t : DecisionTables)
    (ref : String) : Option String :=
  (recordedStatuses manifest snapshotId t).bind fun statuses => statuses.lookup ref

/-- An entry that a lookup finds is one of the entries. -/
theorem mem_of_lookup_eq_some {entries : EvidenceStatuses} {ref status : String}
    (h : entries.lookup ref = some status) : (ref, status) ∈ entries := by
  obtain ⟨before, after, rfl, -⟩ := List.lookup_eq_some_iff.mp h
  simp

theorem mem_itemEvidenceRefStatuses {item : ContextItem} {ref status : String} :
    (ref, status) ∈ itemEvidenceRefStatuses item ↔
      item.Names ref ∧ item.epistemicStatus = some status := by
  unfold itemEvidenceRefStatuses ContextItem.Names
  split
  next h => simp [h]
  next status' h =>
    rw [h]
    by_cases htype : item.sourceObjectType = some "evidence"
    · simp [htype]
      grind
    · simp [htype]

theorem mem_manifestEvidenceRefStatuses {manifest : List ContextItem} {ref status : String} :
    (ref, status) ∈ manifestEvidenceRefStatuses manifest ↔
      ∃ item ∈ manifest, item.Names ref ∧ item.epistemicStatus = some status := by
  -- the accumulator is what the items so far have set
  suffices h : ∀ statuses : EvidenceStatuses, (ref, status) ∈
      manifest.foldl (fun statuses item => itemEvidenceRefStatuses item ++ statuses) statuses ↔
        (∃ item ∈ manifest, item.Names ref ∧ item.epistemicStatus = some status) ∨
          (ref, status) ∈ statuses by
    rw [manifestEvidenceRefStatuses, h]
    simp
  induction manifest with
  | nil => simp
  | cons item manifest ih =>
      intro statuses
      rw [List.foldl_cons, ih, List.mem_append, mem_itemEvidenceRefStatuses]
      simp only [List.mem_cons, exists_eq_or_imp]
      grind

/-- A recorded status is that of an item of the manifest, or of an item of the snapshot that the
manifest shows. -/
theorem recordedStatus_cases {manifest : List ContextItem} {snapshotId : Id} {t : DecisionTables}
    {ref status : String} (h : recordedStatus manifest snapshotId t ref = some status) :
    (∃ item ∈ manifest, item.Names ref ∧ item.epistemicStatus = some status) ∨
      showsSnapshot manifest snapshotId = true ∧ ∃ snapshot ∈ t.businessSnapshots,
        snapshot.id = snapshotId ∧ ∃ item ∈ snapshot.evidence, item.id = ref ∧ item.status = status := by
  unfold recordedStatus recordedStatuses at h
  split at h
  next hshown =>
    rw [Option.bind_eq_some_iff] at h
    obtain ⟨statuses, hstatuses, hlookup⟩ := h
    obtain ⟨snapshot, hsnapshot, rfl⟩ := Option.map_eq_some_iff.mp hstatuses
    rcases List.mem_append.mp (mem_of_lookup_eq_some hlookup) with hmem | hmem
    · rw [List.mem_reverse, List.mem_map] at hmem
      obtain ⟨item, hitem, hpair⟩ := hmem
      cases hpair
      exact .inr ⟨hshown, snapshot, Table.mem_of_find hsnapshot, Table.key_of_find hsnapshot, item,
        hitem, rfl, rfl⟩
    · exact .inl (mem_manifestEvidenceRefStatuses.mp hmem)
  next =>
    exact .inl (mem_manifestEvidenceRefStatuses.mp (mem_of_lookup_eq_some h))

/-! ## The validation -/

theorem EpistemicStatus.value_injective : Function.Injective EpistemicStatus.value := by
  intro a b h
  cases a <;> cases b <;> first | rfl | exact absurd h (by decide)

theorem agentRunEvidenceRefStatuses_eq_ok_iff {R : RunReader M} {w : DecisionWorkflow}
    {t : DecisionTables} {run : AgentRun M} {statuses : EvidenceStatuses} :
    agentRunEvidenceRefStatuses R w t run = .ok statuses ↔ w.scope = run.scope ∧
      recordedStatuses (R.contextManifest run) w.snapshotId t = some statuses ∧
      (showsSnapshot (R.contextManifest run) w.snapshotId = true →
        ∀ snapshot, Table.find BusinessSnapshot.id w.snapshotId t.businessSnapshots =
          some snapshot → w.scope = snapshot.scope) := by
  unfold agentRunEvidenceRefStatuses recordedStatuses showsSnapshot
  simp only [Except.bind_eq_ok_iff, TenantScope.assertMatches_eq_ok_iff]
  split
  next hshown =>
    unfold snapshotEvidenceRefStatuses snapshotOf
    simp only [Except.bind_eq_ok_iff, TenantScope.assertMatches_eq_ok_iff, orRaise_eq_ok_iff,
      Except.pure_eq_ok_iff, Option.map_eq_some_iff]
    constructor
    · rintro ⟨_, hscope, _, ⟨_, ⟨snapshot, hfind, _, hsnapshot, rfl⟩, rfl⟩, rfl⟩
      refine ⟨hscope, ⟨snapshot, hfind, rfl⟩, fun _ other hother => ?_⟩
      cases hfind.symm.trans hother
      exact hsnapshot
    · rintro ⟨hscope, ⟨snapshot, hfind, rfl⟩, hsnapshot⟩
      exact ⟨(), hscope, _, ⟨snapshot, ⟨snapshot, hfind, (), hsnapshot hshown snapshot hfind, rfl⟩,
        rfl⟩, rfl⟩
  next hshown =>
    simp only [Except.pure_eq_ok_iff, Option.some.injEq]
    constructor
    · rintro ⟨_, hscope, rfl⟩
      exact ⟨hscope, rfl, fun h => absurd h hshown⟩
    · rintro ⟨hscope, rfl, -⟩
      exact ⟨(), hscope, rfl⟩

theorem validateEvidenceRef_eq_ok_iff {statuses : EvidenceStatuses} {ref : EvidenceReference}
    {u : Unit} : validateEvidenceRef statuses ref = .ok u ↔
      statuses.lookup ref.evidenceId = some ref.epistemicStatus.value := by
  unfold validateEvidenceRef
  simp only [Except.bind_eq_ok_iff, orRaise_eq_ok_iff, require_eq_ok_iff]
  constructor
  · rintro ⟨expected, hlookup, rfl⟩
    exact hlookup
  · intro hlookup
    exact ⟨_, hlookup, rfl⟩

/-- The references have the statuses that are recorded for them. -/
def RefsBacked (manifest : List ContextItem) (snapshotId : Id) (t : DecisionTables)
    (refs : List EvidenceReference) : Prop :=
  ∀ ref ∈ refs,
    recordedStatus manifest snapshotId t ref.evidenceId = some ref.epistemicStatus.value

theorem refsBacked_of_validateEvidenceRefs {R : RunReader M} {w : DecisionWorkflow}
    {t : DecisionTables} {run : AgentRun M} {refs : List EvidenceReference} {u : Unit}
    (h : DecisionWorkflow.validateEvidenceRefs R w t run refs = .ok u) :
    RefsBacked (R.contextManifest run) w.snapshotId t refs := by
  unfold DecisionWorkflow.validateEvidenceRefs at h
  obtain ⟨statuses, hstatuses, h⟩ := Except.bind_eq_ok_iff.mp h
  intro ref href
  rw [recordedStatus, (agentRunEvidenceRefStatuses_eq_ok_iff.mp hstatuses).2.1]
  exact validateEvidenceRef_eq_ok_iff.mp (Except.forM_eq_ok_iff.mp h ref href)

/-! ## Rows -/

/-- The references of all rows have their recorded statuses. -/
structure RefsRecorded (t : DecisionTables) : Prop where
  contributions : ∀ row ∈ t.specialistContributions,
    RefsBacked row.contextManifest row.snapshotId t row.payload.evidenceRefs
  candidates : ∀ row ∈ t.decisionCandidates,
    RefsBacked row.contextManifest row.snapshotId t row.payload.evidenceRefs
  reviews : ∀ row ∈ t.controllerReviews,
    RefsBacked row.contextManifest row.snapshotId t row.evidenceRefs

/-- Snapshots stay as they are, and references that have their recorded statuses keep them. -/
structure KeepsRefs (t t' : DecisionTables) : Prop where
  snapshots : ∀ id snapshot, Table.find BusinessSnapshot.id id t.businessSnapshots = some snapshot →
    Table.find BusinessSnapshot.id id t'.businessSnapshots = some snapshot
  recorded : RefsRecorded t → RefsRecorded t'

instance : IsPreorder DecisionTables KeepsRefs where
  refl _ := ⟨fun _ _ h => h, fun h => h⟩
  trans _ _ _ h h' :=
    ⟨fun id snapshot hfind => h'.snapshots id snapshot (h.snapshots id snapshot hfind),
      fun hrefs => h'.recorded (h.recorded hrefs)⟩

section Rows

variable {t t' : DecisionTables} {manifest : List ContextItem} {snapshotId : Id}
variable {refs : List EvidenceReference}

/-- With the same snapshots the same statuses are recorded. -/
theorem RefsBacked.congr (h : RefsBacked manifest snapshotId t refs)
    (hsnapshots : t'.businessSnapshots = t.businessSnapshots) :
    RefsBacked manifest snapshotId t' refs := by
  unfold RefsBacked recordedStatus recordedStatuses at h ⊢
  rwa [hsnapshots]

theorem RefsBacked.mono (h : RefsBacked manifest snapshotId t refs)
    (hsnapshots : ∀ id snapshot, Table.find BusinessSnapshot.id id t.businessSnapshots =
      some snapshot → Table.find BusinessSnapshot.id id t'.businessSnapshots = some snapshot) :
    RefsBacked manifest snapshotId t' refs := by
  intro ref href
  have hstatus := h ref href
  unfold recordedStatus recordedStatuses at hstatus ⊢
  split at hstatus
  next hshown =>
    rw [Option.bind_eq_some_iff] at hstatus
    obtain ⟨statuses, hstatuses, hlookup⟩ := hstatus
    obtain ⟨snapshot, hsnapshot, rfl⟩ := Option.map_eq_some_iff.mp hstatuses
    rw [if_pos hshown, hsnapshots snapshotId snapshot hsnapshot]
    exact hlookup
  next hshown =>
    rw [if_neg hshown]
    exact hstatus

/-- The same snapshots, and every row refers to what it did. -/
theorem keepsRefs_of_rows (hsnapshots : t'.businessSnapshots = t.businessSnapshots)
    (hcontributions : ∀ row ∈ t'.specialistContributions, row ∈ t.specialistContributions ∨
      RefsBacked row.contextManifest row.snapshotId t row.payload.evidenceRefs)
    (hcandidates : ∀ row ∈ t'.decisionCandidates,
      (∃ old ∈ t.decisionCandidates, row.contextManifest = old.contextManifest ∧
        row.snapshotId = old.snapshotId ∧ row.payload = old.payload) ∨
      RefsBacked row.contextManifest row.snapshotId t row.payload.evidenceRefs)
    (hreviews : ∀ row ∈ t'.controllerReviews,
      (∃ old ∈ t.controllerReviews, row.contextManifest = old.contextManifest ∧
        row.snapshotId = old.snapshotId ∧ row.evidenceRefs = old.evidenceRefs) ∨
      RefsBacked row.contextManifest row.snapshotId t row.evidenceRefs) : KeepsRefs t t' := by
  refine ⟨fun id snapshot hfind => hsnapshots ▸ hfind, fun h => ⟨fun row hrow => ?_,
    fun row hrow => ?_, fun row hrow => ?_⟩⟩
  · rcases hcontributions row hrow with hold | hnew
    · exact (h.contributions row hold).congr hsnapshots
    · exact hnew.congr hsnapshots
  · rcases hcandidates row hrow with ⟨old, hold, hmanifest, hid, hpayload⟩ | hnew
    · rw [hmanifest, hid, hpayload]
      exact (h.candidates old hold).congr hsnapshots
    · exact hnew.congr hsnapshots
  · rcases hreviews row hrow with ⟨old, hold, hmanifest, hid, hrefs⟩ | hnew
    · rw [hmanifest, hid, hrefs]
      exact (h.reviews old hold).congr hsnapshots
    · exact hnew.congr hsnapshots

end Rows

/-! ## Stages -/

section Stages

variable (R : RunReader M) (now : Time) (answer : DecisionAnswer)

theorem RunRole.readyOutput_eq_ok {α : Type} {role : RunRole M α} {w : DecisionWorkflow}
    {runs : List (AgentRun M)} {run : AgentRun M} {output : α}
    (h : role.readyOutput w runs = .ok (run, output)) :
    ∃ data, role.check run data = .ok output := by
  unfold readyOutput at h
  obtain ⟨found, -, h⟩ := Except.bind_eq_ok_iff.mp h
  split at h
  next data _ _ =>
    obtain ⟨checked, hcheck, h⟩ := Except.bind_eq_ok_iff.mp h
    cases h
    exact ⟨data, hcheck⟩
  next => cases h

variable (w : DecisionWorkflow)

theorem refsFrames : DomainRelation (M := M) now (fun _ => true) KeepsRefs (Frames KeepsRefs) :=
  domainRelation_frames now _

theorem keepsRefs_contribution (contractKey : String) :
    Within (Frames KeepsRefs) (materializeSpecialistContribution R answer w contractKey) := by
  intro db
  rw [materializeSpecialistContribution, ensures_bind, ensures_tables]
  split
  next => exact (ensures_pure _).mpr (refl _)
  next =>
    rw [ensures_bind, ensures_agentRuns, ensures_bind, ensures_check]
    rintro ⟨run, output⟩ hready
    obtain ⟨data, hcheck⟩ := RunRole.readyOutput_eq_ok hready
    obtain ⟨_, -, hcheck⟩ := Except.bind_eq_ok_iff.mp hcheck
    obtain ⟨_, hrefs, hcheck⟩ := Except.bind_eq_ok_iff.mp hcheck
    cases hcheck
    dsimp only
    rw [ensures_bind, ensures_check]
    intro _ _
    rw [ensures_bind, ensures_newId, ensures_modifyTables]
    refine ⟨Nat.le_succ _, keepsRefs_of_rows rfl (fun row hrow => ?_) (fun row hrow => ?_)
      fun row hrow => ?_⟩
    · rcases List.mem_append.mp hrow with hold | hnew
      · exact .inl hold
      · rw [List.mem_singleton.mp hnew]
        exact .inr (refsBacked_of_validateEvidenceRefs hrefs)
    · exact .inl ⟨row, hrow, rfl, rfl, rfl⟩
    · exact .inl ⟨row, hrow, rfl, rfl, rfl⟩

theorem keepsRefs_candidate : Within (Frames KeepsRefs) (materializeCandidate R answer w) := by
  intro db
  rw [materializeCandidate, ensures_bind, ensures_tables]
  dsimp only
  split
  next => exact (ensures_pure _).mpr (refl _)
  next =>
    rw [ensures_bind, ensures_agentRuns, ensures_bind, ensures_check]
    rintro ⟨run, output⟩ hready
    obtain ⟨data, hcheck⟩ := RunRole.readyOutput_eq_ok hready
    obtain ⟨_, -, hcheck⟩ := Except.bind_eq_ok_iff.mp hcheck
    obtain ⟨_, -, hcheck⟩ := Except.bind_eq_ok_iff.mp hcheck
    obtain ⟨_, hrefs, hcheck⟩ := Except.bind_eq_ok_iff.mp hcheck
    cases hcheck
    dsimp only
    rw [ensures_bind, ensures_check]
    intro _ _
    rw [ensures_bind, ensures_newId, ensures_bind, ensures_modifyTables, ensures_pure]
    refine ⟨Nat.le_succ _, keepsRefs_of_rows rfl (fun row hrow => .inl hrow) (fun row hrow => ?_)
      fun row hrow => .inl ⟨row, hrow, rfl, rfl, rfl⟩⟩
    rcases List.mem_append.mp hrow with hold | hnew
    · exact .inl ⟨row, hold, rfl, rfl, rfl⟩
    · rw [List.mem_singleton.mp hnew]
      exact .inr (refsBacked_of_validateEvidenceRefs hrefs)

theorem keepsRefs_review (candidate : DecisionCandidate) (controllerType : String) :
    Within (Frames KeepsRefs)
      (materializeControllerReview R answer w candidate controllerType) := by
  intro db
  rw [materializeControllerReview, ensures_bind, ensures_tables]
  split
  next => exact (ensures_pure _).mpr (refl _)
  next =>
    rw [ensures_bind, ensures_agentRuns, ensures_bind, ensures_check]
    rintro ⟨run, output⟩ hready
    obtain ⟨data, hcheck⟩ := RunRole.readyOutput_eq_ok hready
    obtain ⟨_, -, hcheck⟩ := Except.bind_eq_ok_iff.mp hcheck
    obtain ⟨_, -, hcheck⟩ := Except.bind_eq_ok_iff.mp hcheck
    obtain ⟨_, hrefs, hcheck⟩ := Except.bind_eq_ok_iff.mp hcheck
    obtain ⟨_, -, hcheck⟩ := Except.bind_eq_ok_iff.mp hcheck
    cases hcheck
    dsimp only
    rw [ensures_bind, ensures_check]
    intro _ _
    rw [ensures_bind, ensures_newId, ensures_bind, ensures_modifyTables, ensures_pure]
    refine ⟨Nat.le_succ _, keepsRefs_of_rows rfl (fun row hrow => .inl hrow)
      (fun row hrow => .inl ⟨row, hrow, rfl, rfl, rfl⟩) fun row hrow => ?_⟩
    rcases List.mem_append.mp hrow with hold | hnew
    · exact .inl ⟨row, hold, rfl, rfl, rfl⟩
    · rw [List.mem_singleton.mp hnew]
      exact .inr (refsBacked_of_validateEvidenceRefs hrefs)

theorem keepsRefs_updateCandidate (t : DecisionTables) (id : Id)
    {f : DecisionCandidate → DecisionCandidate}
    (hf : ∀ c, f c =
      { c with status := (f c).status, controllerReviewIds := (f c).controllerReviewIds }) :
    KeepsRefs t (t.updateCandidate id f) := by
  refine keepsRefs_of_rows rfl (fun row hrow => .inl hrow) (fun row hrow => .inl ?_)
    fun row hrow => .inl ⟨row, hrow, rfl, rfl, rfl⟩
  obtain ⟨old, hold, rfl⟩ := Table.mem_modify_iff.mp hrow
  refine ⟨old, hold, ?_⟩
  split
  · rw [hf old]
    exact ⟨rfl, rfl, rfl⟩
  · exact ⟨rfl, rfl, rfl⟩

theorem keepsRefs_stages : StagesWithin (Frames KeepsRefs) R now answer where
  enqueue _ _ := framesWithin_createJob now _
  contribution := keepsRefs_contribution R answer
  candidate := keepsRefs_candidate R answer
  review := keepsRefs_review R answer
  update id _ hf := (refsFrames now).modifyTables _ fun t => keepsRefs_updateCandidate t id hf
  decision w candidate := by
    have hf := refsFrames (M := M) now
    refine hf.bind hf.tables fun t => ?_
    split
    next => exact hf.bind (hf.check _) fun _ => hf.pure _
    next =>
      refine hf.bind (hf.check _) fun _ => hf.bind hf.newId fun id => ?_
      refine hf.bind (hf.modifyTables _ fun t => ?_) fun _ => ?_
      · refine keepsRefs_of_rows rfl (fun row hrow => .inl hrow)
          (fun row hrow => .inl ⟨row, hrow, rfl, rfl, rfl⟩) fun row hrow => .inl ?_
        obtain ⟨old, hold, rfl⟩ := Table.mem_modify_iff.mp hrow
        refine ⟨old, hold, ?_⟩
        split <;> exact ⟨rfl, rfl, rfl⟩
      · refine hf.bind (hf.modifyTables _ fun t =>
          keepsRefs_updateCandidate t candidate.id fun _ => rfl) fun _ => ?_
        exact hf.bind (hf.addOutboxEvent _ _) fun _ => hf.pure _
  put _ := (refsFrames now).modifyTables _ fun t =>
    keepsRefs_of_rows rfl (fun row hrow => .inl hrow)
      (fun row hrow => .inl ⟨row, hrow, rfl, rfl, rfl⟩)
      fun row hrow => .inl ⟨row, hrow, rfl, rfl, rfl⟩

end Stages

/-! ## The governed loop -/

/-- The tables of the decision workflow change as `r` says. -/
def DecisionsEvolve (r : DecisionTables → DecisionTables → Prop)
    (db db' : AgentDatabase M GovernedTables) : Prop :=
  r db.tables.domain.decisionTables db'.tables.domain.decisionTables

/-- What the operations of the decision workflow write stays within `r`. -/
structure DecisionWrites (R : RunReader M) (r : DecisionTables → DecisionTables → Prop) : Prop
    extends IsPreorder _ r where
  stages : ∀ now answer, StagesWithin (Frames r) R now answer
  snapshots : ∀ t row, r t { t with businessSnapshots := t.businessSnapshots ++ [row] }
  workflows : ∀ t rows, r t { t with decisionWorkflows := rows }
  launches : ∀ t rows, r t { t with launches := rows }
  approvals : ∀ t decisionId approval, r t { t with
    decisionApprovals := t.decisionApprovals ++ [approval]
    decisions := Table.modify FinalDecision.id decisionId
      (fun decision => { decision with approvedForProduction := true }) t.decisions }

section Evolve

variable {r : DecisionTables → DecisionTables → Prop} {α : Type} {now : Time}

instance [IsPreorder DecisionTables r] :
    IsPreorder (AgentDatabase M GovernedTables) (DecisionsEvolve r) where
  refl _ := refl_of r _
  trans _ _ _ h h' := trans_of r h h'

theorem domainRelation_decisionsEvolve [IsPreorder DecisionTables r] (now : Time) :
    DomainRelation (M := M) now (fun _ => true)
      (fun t t' : GovernedTables => r t.decisionTables t'.decisionTables) (DecisionsEvolve r) where
  modifyTables f hf := within_modify _ fun db => hf db.tables.domain
  newId := by
    rintro db id db' ⟨⟩
    exact refl_of r _
  addOutboxEvent scope eventType := within_modify _ fun _ => refl_of r _
  createAgentRun args admission _ _ := by
    have : IsPreorder GovernedTables fun t t' => r t.decisionTables t'.decisionTables :=
      { refl := fun _ => refl_of r _, trans := fun _ _ _ => trans_of r }
    have hframes := framesWithin_createAgentRun (M := M)
      (r := fun t t' : GovernedTables => r t.decisionTables t'.decisionTables) now args admission
    exact fun db => (hframes db).mono fun _ _ h => h.domain

theorem evolvesWithin_decisionPart {m : DecisionTxn M α} (h : Within (Frames r) m) :
    Within (DecisionsEvolve r) (m.zoom decisionView) :=
  fun _ => ensures_zoom.mpr ((h _).mono fun _ _ hframes => hframes.domain)

variable [IsPreorder DecisionTables r]

/-- The analytics and the execution service write none of these tables. -/
theorem evolvesWithin_analyticsPart (m : Analytics.AnalyticsTxn M α) :
    Within (DecisionsEvolve r) (m.zoom analyticsView) :=
  fun _ => ensures_zoom.mpr fun _ _ _ => refl_of r _

theorem evolvesWithin_executionPart (m : ExecutionTxn M α) :
    Within (DecisionsEvolve r) (executionPart m) :=
  evolvesWithin_analyticsPart _

/-- Nor does production. -/
theorem evolvesWithin_productionPart (m : ProductionTxn M α) :
    Within (DecisionsEvolve r) (productionPart m) :=
  fun _ => ensures_through.mpr fun _ _ _ => refl_of r _

end Evolve

section Loop

variable {E : GovernedEnv M} {now : Time} {r : DecisionTables → DecisionTables → Prop}
variable (hr : DecisionWrites E.reader r)
include hr

omit hr in
theorem phase6Writes_evolve [IsPreorder DecisionTables r] :
    Phase6Writes fun t t' : GovernedTables => r t.decisionTables t'.decisionTables := by
  constructor <;> intros <;> exact refl_of r _

theorem evolvesWithin_startGovernedWorkflow (scope : TenantScope)
    (payload : Except JobError (List SnapshotEvidence)) (launchId : Option Id)
    (spec : CheckpointSpec) (maxRevisionRounds : ℤ) (priorDecisionId learningId : Option Id) :
    Within (DecisionsEvolve r) (startGovernedWorkflow (M := M) E.checkpointDigest now scope payload
      launchId spec maxRevisionRounds priorDecisionId learningId) := by
  have := hr.toIsPreorder
  have hd := domainRelation_decisionsEvolve (M := M) (r := r) now
  have hf := domainRelation_frames (M := M) (r := r) now fun _ => true
  refine within_startGovernedWorkflow hd phase6Writes_evolve _ scope payload launchId spec _ _ _
    (evolvesWithin_decisionPart ?_) fun source => evolvesWithin_decisionPart ?_
  · exact within_takeSnapshot hf hr.snapshots scope _
  · exact within_startDecisionWorkflow hf (fun _ _ => framesWithin_createJob now _) hr.snapshots
      hr.workflows scope source launchId maxRevisionRounds

theorem evolvesWithin_op (op : GovernedOp M) : Within (DecisionsEvolve r) (op.run E now) := by
  have := hr.toIsPreorder
  have hd := domainRelation_decisionsEvolve (M := M) (r := r) now
  have hf := domainRelation_frames (M := M) (r := r) now fun _ => true
  cases op with
  | startPhase6DecisionWorkflow scope payload launchId spec maxRevisionRounds =>
      exact evolvesWithin_startGovernedWorkflow hr scope payload launchId spec _ _ _
  | startSuccessorDecisionWorkflowFromLearning scope actorUserId priorDecisionId learningId payload
      spec maxRevisionRounds =>
      refine hd.bind hd.tables fun t => hd.bind (hd.check _) fun _ => ?_
      exact evolvesWithin_startGovernedWorkflow hr scope payload none spec _ _ _
  | advanceDecisionWorkflow answer context workflowId =>
      refine within_phase6DecisionWorkflowAdvanceHandler hd phase6Writes_evolve _ _ answer context
        workflowId fun _ => evolvesWithin_decisionPart ?_
      exact within_decisionWorkflowAdvanceHandler hf E.reader _ (hr.stages now _) context workflowId
  | approveDecisionForProduction scope workflowId approvedByUserId =>
      refine hd.bind (evolvesWithin_decisionPart ?_) fun _ => hd.pure _
      exact within_approveDecisionForProduction hf hr.workflows hr.approvals scope workflowId _
  | createCheckpointDefinitionForDecision scope decisionId spec =>
      exact within_createCheckpointDefinitionForDecision hd phase6Writes_evolve _ scope decisionId
        spec
  | startProductionWorkflow scope decisionId maxRevisionRounds =>
      exact evolvesWithin_productionPart _
  | advanceProductionWorkflow answer context workflowId =>
      refine hd.bind (evolvesWithin_productionPart _) fun _ => ?_
      exact hd.modifyTables _ fun t => refl_of r _
  | runAgents work => exact within_modify _ fun db => refl_of r db.tables.domain.decisionTables
  | writeBusiness channels businessMemberships launches =>
      rw [GovernedOp.run]
      exact hd.modifyTables _ fun t => hr.launches t.decisionTables launches
  | probeAndRegisterTelegramConnector | setGlobalExecutionControls | approveAction =>
      exact evolvesWithin_executionPart _
  | createActionProposal | approveActionProposal =>
      exact hd.bind (evolvesWithin_executionPart _) fun _ => hd.pure _
  | executeJob => exact hd.pure _
  | configureTelegramObservation | finishPoll | normalizeConnectorObservation
  | interpretCheckpoint => exact evolvesWithin_analyticsPart (r := r) _
  | createBusinessEvent | createSourceRecord | createEvidence =>
      rw [GovernedOp.run]
      exact evolvesWithin_analyticsPart _
  | ingestTelegramUpdate | calculateMetricVersion | createGovernedLearning =>
      exact hd.bind (evolvesWithin_analyticsPart _) fun _ => hd.pure _

theorem evolves_executeJob (s : GovernedState M) (context : RuntimeJobContext)
    (payload : JobPayload) (outcome : PublishOutcome) (lost : Bool) :
    DecisionsEvolve r s.db (executeJob E.digest now context payload outcome lost s).db := by
  have := hr.toIsPreorder
  unfold executeJob
  split
  next => exact refl_of (DecisionsEvolve r) _
  next db hprepare => exact evolvesWithin_executionPart (r := r) _ s.db none db hprepare
  next request db hprepare =>
    have hprepared := evolvesWithin_executionPart (r := r) _ s.db (some request) db hprepare
    dsimp only
    split
    next db' hsettle =>
      exact trans_of (DecisionsEvolve r) hprepared
        (Ensures.of_exec (evolvesWithin_executionPart _ db) hsettle)
    next => exact refl_of (DecisionsEvolve r) _

/-- One operation. -/
theorem evolves_step (action : GovernedAction M) (s : GovernedState M) :
    DecisionsEvolve r s.db (s.step E action).db := by
  have := hr.toIsPreorder
  have hstep := s.stepped E action
  generalize s.step E action = s' at hstep ⊢
  cases hstep with
  | executed hop => exact evolves_executeJob hr s _ _ _ _
  | committed hok => exact Ensures.of_exec (evolvesWithin_op hr action.op s.db) hok
  | refused => exact refl_of (DecisionsEvolve r) _

theorem evolves_run (s : GovernedState M) (actions : List (GovernedAction M)) :
    DecisionsEvolve r s.db (run (GovernedState.step E) s actions).db := by
  have := hr.toIsPreorder
  exact relation_run_of_step _ (R := fun s s' : GovernedState M => DecisionsEvolve r s.db s'.db)
    (fun _ => refl_of (DecisionsEvolve r) _) (fun _ _ _ => trans_of (DecisionsEvolve r))
    (fun s action => evolves_step hr action s) s actions

end Loop

/-! ## Reachable states -/

theorem decisionWrites_keepsRefs (R : RunReader M) : DecisionWrites R KeepsRefs where
  stages now answer := keepsRefs_stages R now answer
  snapshots t row := by
    have hsnapshots : ∀ id snapshot, Table.find BusinessSnapshot.id id t.businessSnapshots =
        some snapshot → Table.find BusinessSnapshot.id id (t.businessSnapshots ++ [row]) =
          some snapshot := fun _ _ hfind => Table.find_append_of_eq_some hfind
    refine ⟨hsnapshots, fun h => ⟨fun c hc => ?_, fun c hc => ?_, fun c hc => ?_⟩⟩
    · exact (h.contributions c hc).mono hsnapshots
    · exact (h.candidates c hc).mono hsnapshots
    · exact (h.reviews c hc).mono hsnapshots
  workflows _ _ := keepsRefs_of_rows rfl (fun row hrow => .inl hrow)
    (fun row hrow => .inl ⟨row, hrow, rfl, rfl, rfl⟩)
    fun row hrow => .inl ⟨row, hrow, rfl, rfl, rfl⟩
  launches _ _ := keepsRefs_of_rows rfl (fun row hrow => .inl hrow)
    (fun row hrow => .inl ⟨row, hrow, rfl, rfl, rfl⟩)
    fun row hrow => .inl ⟨row, hrow, rfl, rfl, rfl⟩
  approvals _ _ _ := keepsRefs_of_rows rfl (fun row hrow => .inl hrow)
    (fun row hrow => .inl ⟨row, hrow, rfl, rfl, rfl⟩)
    fun row hrow => .inl ⟨row, hrow, rfl, rfl, rfl⟩

/-- The tables of the decision workflow in a state. -/
abbrev GovernedState.decisionTables (s : GovernedState M) : DecisionTables :=
  s.db.tables.domain.decisionTables

theorem refsRecorded_run (E : GovernedEnv M) {s : GovernedState M} (hs : s.Initial)
    (actions : List (GovernedAction M)) :
    RefsRecorded (run (GovernedState.step E) s actions).decisionTables := by
  refine (evolves_run (decisionWrites_keepsRefs E.reader) s actions).recorded ?_
  have hdomain := hs.1
  constructor <;> simp [hdomain]

/-- A reference is to an item of the manifest, or to an item of the evidence in the snapshot that the
manifest shows, and its status is the one that is recorded. -/
structure RefRecorded (manifest : List ContextItem) (snapshotId : Id) (t : DecisionTables)
    (ref : EvidenceReference) : Prop where
  named : (∃ item ∈ manifest, item.Names ref.evidenceId ∧
      item.epistemicStatus = some ref.epistemicStatus.value) ∨
    showsSnapshot manifest snapshotId = true ∧ ∃ snapshot ∈ t.businessSnapshots,
      snapshot.id = snapshotId ∧ ∃ item ∈ snapshot.evidence, item.id = ref.evidenceId ∧
        item.status = ref.epistemicStatus.value
  recorded : recordedStatus manifest snapshotId t ref.evidenceId = some ref.epistemicStatus.value

theorem RefsBacked.recorded {manifest : List ContextItem} {snapshotId : Id} {t : DecisionTables}
    {refs : List EvidenceReference} (h : RefsBacked manifest snapshotId t refs) :
    ∀ ref ∈ refs, RefRecorded manifest snapshotId t ref :=
  fun ref href => ⟨recordedStatus_cases (h ref href), h ref href⟩

/-- In every reachable state the stored references are to what the run was shown, with the status
that is recorded there. -/
theorem evidence_refs_recorded (E : GovernedEnv M) {s : GovernedState M} (hs : s.Initial)
    (actions : List (GovernedAction M)) :
    let t := (run (GovernedState.step E) s actions).decisionTables
    (∀ row ∈ t.specialistContributions, ∀ ref ∈ row.payload.evidenceRefs,
      RefRecorded row.contextManifest row.snapshotId t ref) ∧
    (∀ row ∈ t.decisionCandidates, ∀ ref ∈ row.payload.evidenceRefs,
      RefRecorded row.contextManifest row.snapshotId t ref) ∧
    ∀ row ∈ t.controllerReviews, ∀ ref ∈ row.evidenceRefs,
      RefRecorded row.contextManifest row.snapshotId t ref := by
  have h := refsRecorded_run E hs actions
  exact ⟨fun row hrow => (h.contributions row hrow).recorded,
    fun row hrow => (h.candidates row hrow).recorded, fun row hrow => (h.reviews row hrow).recorded⟩

/-! ### A Decision and its references -/

/-- An output, told apart by its schema. -/
inductive AgentOutput
  | specialistContribution (output : SpecialistContributionOutput)
  | decisionCandidate (output : DecisionCandidateOutput)
  | controllerReview (output : ControllerReviewOutput)
  | contentStrategyProposal (output : ContentStrategyProposal)
  | assetDraftProposal (output : AssetDraftProposal)

/-- All runs have been shown the same context. -/
def plainReader (manifest : List ContextItem) : RunReader AgentOutput where
  specialistContribution
    | .specialistContribution output => some output
    | _ => none
  decisionCandidate
    | .decisionCandidate output => some output
    | _ => none
  controllerReview
    | .controllerReview output => some output
    | _ => none
  contentStrategyProposal
    | .contentStrategyProposal output => some output
    | _ => none
  assetDraftProposal
    | .assetDraftProposal output => some output
    | _ => none
  contextManifest _ := manifest

/-- Hashes that keep what they are made of. -/
def plainEnv (manifest : List ContextItem) : GovernedEnv AgentOutput where
  digest := plainDigest
  checkpointDigest :=
    { contractHash := CheckpointSpec.metricKey
      boundCheckpointHash := fun spec experimentId ruleId =>
        spec.metricKey ++ toString experimentId ++ toString ruleId }
  derivationHash := Analytics.plainHash
  reader := plainReader manifest

/-- Before anything has happened. -/
def governedStart : GovernedState AgentOutput where
  db := { tables := { domain := {} } }

theorem governedStart_initial : governedStart.Initial := ⟨rfl, rfl⟩

/-- The runs that wait succeed with the outputs of their contracts. -/
def answerRuns (output : String → Option AgentOutput) (runs : List (AgentRun AgentOutput)) :
    List (AgentRun AgentOutput) :=
  runs.map fun run =>
    if run.terminal then run
    else { run with status := .succeeded, outputData := output run.contractKey }

/-- The context of a job of the tenant. -/
def demoContext (jobType : JobType) : RuntimeJobContext := ⟨demoScope, 0, jobType, 1⟩

/-- The checkpoint of the Decisions below. -/
def demoSpec : CheckpointSpec where
  windowSeconds := 3600
  graceSeconds := 60
  success := ⟨.gte, 2⟩
  weakSignal := ⟨.gte, 1⟩
  failure := ⟨.eq, 0⟩

/-- Their Experiment. -/
def demoExperiment : ExperimentProposal where
  hypothesis := "Posts bring readers."
  baseline := "No posts."
  segment := "Subscribers"
  treatment := "A post."
  metric := "telegram_reaction_changes"
  window := "An hour"
  attributionMethod := "Direct"
  successThreshold := "2"
  weakSignalThreshold := "1"
  failureThreshold := "0"
  nextActionOnSuccess := "Publish more."
  nextActionOnWeakSignal := "Publish more."
  nextActionOnFailure := "Stop."

/-- Their candidate. -/
def demoCandidate (refs : List EvidenceReference) : DecisionCandidateOutput where
  goal := "More readers."
  problem := "Few readers."
  selectedAction := "Publish a post."
  why := []
  evidenceRefs := refs
  alternatives := []
  expectedEffect := "More readers."
  reversibility := "easy"
  riskClass := .low
  experimentProposal := some demoExperiment
  nextCheckpoint := "In an hour."

/-- Agents that refer to the same evidence, and with which all controllers agree. -/
def contentAgents (contribution : SpecialistContributionOutput) (draft : AssetDraftProposal)
    (refs : List EvidenceReference) (contractKey : String) : Option AgentOutput :=
  if contractKey ∈ specialistContractKeys then some (.specialistContribution contribution)
  else if contractKey = chiefGrowthProducerContractKey then
    some (.decisionCandidate (demoCandidate refs))
  else if contractKey = contentDirectorContractKey then
    some (.contentStrategyProposal { objective := "A post." })
  else if contractKey = telegramWriterContractKey then some (.assetDraftProposal draft)
  else
    match requiredControllerTypes.find? fun type => controllerContractKey type = contractKey with
    | some type => some (.controllerReview
        { controllerType := type, verdict := .pass, evidenceRefs := refs })
    | none => (requiredAssetControllerTypes.find? fun type =>
        assetControllerContractKey type = contractKey).map fun type =>
          .controllerReview { controllerType := type, verdict := .pass }

/-- Jobs that advance a decision workflow, with the runs between them. -/
def advancesDecision (agents : String → Option AgentOutput) (workflowId : Id) (jobs : ℕ) :
    List (GovernedAction AgentOutput) :=
  (List.replicate jobs [
    ⟨0, .advanceDecisionWorkflow {} (demoContext .workflowAdvance) workflowId⟩,
    ⟨0, .runAgents (answerRuns agents)⟩]).flatten

/-- A business with an owner and a channel, and the first jobs of its first decision workflow. -/
def firstDecision (agents : String → Option AgentOutput) (jobs : ℕ) :
    List (GovernedAction AgentOutput) :=
  [⟨0, .writeBusiness [{ id := 1000, scope := demoScope, provider := "telegram" }]
      [{ scope := demoScope, userId := "owner", role := "OWNER" }] []⟩,
    ⟨0, .startPhase6DecisionWorkflow demoScope (.ok []) none demoSpec 1⟩] ++
    advancesDecision agents 1 jobs

/-- A manifest with a fact. -/
def shownFact : List ContextItem :=
  [{ epistemicStatus := some "FACT", provenanceRef := some "fact" }]

/-- The reference to the fact. -/
def factRef : EvidenceReference := ⟨"fact", .fact, "Subscribers read posts."⟩

/-- Agents that refer to the fact. -/
def factAgents : String → Option AgentOutput :=
  contentAgents
    { role := "specialist"
      factsUsed := [⟨"Subscribers read posts.", "fact", .fact, EpistemicStatus.factLike_fact⟩]
      evidenceRefs := [factRef] }
    { body := "A post.", rights := { origin := .generated } } [factRef]

theorem decided_refs_recorded :
    ∃ row ∈ (run (GovernedState.step (plainEnv shownFact)) governedStart
        (firstDecision factAgents 4)).decisionTables.controllerReviews,
      ∃ ref ∈ row.evidenceRefs, RefRecorded row.contextManifest row.snapshotId
        (run (GovernedState.step (plainEnv shownFact)) governedStart
          (firstDecision factAgents 4)).decisionTables ref := by
  have hrow : ∃ row ∈ (run (GovernedState.step (plainEnv shownFact)) governedStart
      (firstDecision factAgents 4)).decisionTables.controllerReviews, factRef ∈ row.evidenceRefs := by
    decide +kernel
  obtain ⟨row, hrow, href⟩ := hrow
  exact ⟨row, hrow, factRef, href, (evidence_refs_recorded (plainEnv shownFact)
    governedStart_initial (firstDecision factAgents 4)).2.2 row hrow factRef href⟩

/-! ## Facts -/

/-- Every fact is declared with its own status. -/
def SpecialistContributionOutput.FactsDeclared (output : SpecialistContributionOutput) : Prop :=
  ∀ fact ∈ output.factsUsed, ∀ ref ∈ output.evidenceRefs, ref.evidenceId = fact.evidenceRef →
    ref.epistemicStatus = fact.epistemicStatus

/-- Every fact has the status that is recorded for its evidence. -/
def SpecialistContribution.FactsRecorded (row : SpecialistContribution) (t : DecisionTables) :
    Prop :=
  ∀ fact ∈ row.payload.factsUsed, recordedStatus row.contextManifest row.snapshotId t
    fact.evidenceRef = some fact.epistemicStatus.value

/-- In every reachable state the facts of a contribution are recorded as they are used if and only if
they are declared so: a reference has its recorded status, and the schema wants a reference for every
fact, but of any status. -/
theorem facts_recorded_iff (E : GovernedEnv M) {s : GovernedState M} (hs : s.Initial)
    (actions : List (GovernedAction M)) :
    ∀ row ∈ (run (GovernedState.step E) s actions).decisionTables.specialistContributions,
      row.FactsRecorded (run (GovernedState.step E) s actions).decisionTables ↔
        row.payload.FactsDeclared := by
  intro row hrow
  have hbacked := (refsRecorded_run E hs actions).contributions row hrow
  constructor
  · intro h fact hfact ref href hid
    have hstatus := hbacked ref href
    rw [hid, h fact hfact] at hstatus
    exact (EpistemicStatus.value_injective (Option.some.inj hstatus)).symm
  · intro h fact hfact
    obtain ⟨ref, href, hid⟩ := List.mem_map.mp (row.payload.facts_covered fact hfact)
    rw [← hid, hbacked ref href, h fact hfact ref href hid]

instance (output : SpecialistContributionOutput) : Decidable output.FactsDeclared := by
  unfold SpecialistContributionOutput.FactsDeclared
  infer_instance

theorem declared_fact_recorded :
    ∃ row ∈ (run (GovernedState.step (plainEnv shownFact)) governedStart
        (firstDecision factAgents 2)).decisionTables.specialistContributions,
      row.payload.factsUsed ≠ [] ∧ row.FactsRecorded (run (GovernedState.step (plainEnv shownFact)) governedStart
        (firstDecision factAgents 2)).decisionTables := by
  have hrow : ∃ row ∈ (run (GovernedState.step (plainEnv shownFact)) governedStart
      (firstDecision factAgents 2)).decisionTables.specialistContributions,
      row.payload.factsUsed ≠ [] ∧ row.payload.FactsDeclared := by
    decide +kernel
  obtain ⟨row, hrow, hused, hdeclared⟩ := hrow
  exact ⟨row, hrow, hused, (facts_recorded_iff (plainEnv shownFact) governedStart_initial
    (firstDecision factAgents 2) row hrow).mpr hdeclared⟩

/-- A manifest with a hypothesis. -/
def shownHypothesis : List ContextItem :=
  [{ epistemicStatus := some "HYPOTHESIS", provenanceRef := some "evidence:7",
     sourceObjectType := some "evidence", sourceObjectId := some "7" }]

/-- The specialists declare it as a hypothesis and use it as a fact. -/
def launderingAgents : String → Option AgentOutput :=
  contentAgents
    { role := "specialist"
      factsUsed := [⟨"Posts bring readers.", "7", .fact, EpistemicStatus.factLike_fact⟩]
      evidenceRefs := [⟨"7", .hypothesis, "Posts may bring readers."⟩] }
    { body := "A post.", rights := { origin := .generated } } []

theorem hypothesis_used_as_fact :
    ∃ row ∈ (run (GovernedState.step (plainEnv shownHypothesis)) governedStart
        (firstDecision launderingAgents 2)).decisionTables.specialistContributions,
      ∃ fact ∈ row.payload.factsUsed, fact.epistemicStatus = .fact ∧
        recordedStatus row.contextManifest row.snapshotId
          (run (GovernedState.step (plainEnv shownHypothesis)) governedStart
            (firstDecision launderingAgents 2)).decisionTables fact.evidenceRef =
              some "HYPOTHESIS" := by
  decide +kernel

end LaunchOS
