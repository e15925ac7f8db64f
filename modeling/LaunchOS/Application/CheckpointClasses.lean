import LaunchOS.Analytics.Learning
import LaunchOS.Application.Phase6

/-!
# The conditions of a checkpoint

A checkpoint has three thresholds, which are tried one after the other. The validator of
`Phase6CheckpointSpec` wants them to be deterministic, but it lets the weak signal begin above one.

The module introduces:

* `CheckpointSpec.Accepted`: the specs that the validator accepts;
* `Analytics.CheckpointSpec.Meets`: what the three conditions say about a value;
* `interpretation_iff`: when the interpretation of a count returns a result.
-/

namespace LaunchOS

open Txn Analytics

variable {M : Type}

/-! ## Specs -/

/-- `Phase6CheckpointSpec._first_slice_thresholds_are_deterministic` -/
def CheckpointSpec.firstSliceThresholdsAreDeterministic (spec : CheckpointSpec) :
    Except String Unit :=
  if spec.success.operator ≠ .gte ∨ spec.weakSignal.operator ≠ .gte then
    .error "reaction-count success and weak-signal thresholds must use GTE"
  else if spec.failure.operator ≠ .eq ∨ spec.failure.value ≠ 0 then
    .error "reaction-count failure threshold must be EQ 0"
  else if ¬(spec.success.value > spec.weakSignal.value ∧ spec.weakSignal.value > 0) then
    .error "success must be greater than weak signal, which must be positive"
  else .ok ()

/-- The constraints of the fields, and the validator. -/
structure CheckpointSpec.Accepted (spec : CheckpointSpec) : Prop where
  metricKey : spec.metricKey = "telegram_reaction_changes"
  windowSeconds : 1 ≤ spec.windowSeconds ∧ spec.windowSeconds ≤ 86400
  graceSeconds : spec.graceSeconds ≤ 3600
  values : 0 ≤ spec.success.value ∧ 0 ≤ spec.weakSignal.value ∧ 0 ≤ spec.failure.value
  deterministic : spec.firstSliceThresholdsAreDeterministic = .ok ()

/-- What the validator accepts. -/
structure CheckpointSpec.Deterministic (spec : CheckpointSpec) : Prop where
  success : spec.success.operator = .gte
  weakSignal : spec.weakSignal.operator = .gte
  failure : spec.failure.operator = .eq ∧ spec.failure.value = 0
  ordered : spec.weakSignal.value < spec.success.value
  positive : 0 < spec.weakSignal.value

theorem CheckpointSpec.firstSliceThresholdsAreDeterministic_eq_ok_iff {spec : CheckpointSpec} :
    spec.firstSliceThresholdsAreDeterministic = .ok () ↔ spec.Deterministic := by
  unfold firstSliceThresholdsAreDeterministic
  constructor
  · intro h
    split at h
    · cases h
    split at h
    · cases h
    split at h
    · cases h
    next hgte heq hordered =>
      simp only [ne_eq, not_or, not_not] at hgte heq hordered
      exact ⟨hgte.1, hgte.2, heq, hordered.1, hordered.2⟩
  · intro h
    simp [h.success, h.weakSignal, h.failure.1, h.failure.2, h.ordered, h.positive]

/-! ## Conditions -/

/-- The class of a value by the three conditions, each where the stronger ones do not hold. -/
def CheckpointSpec.Meets (spec : CheckpointSpec) (value : Rat) : ResultClass → Prop
  | .success => TypedThreshold.matches spec.success value
  | .weakSignal => ¬ TypedThreshold.matches spec.success value ∧
      TypedThreshold.matches spec.weakSignal value
  | .failure => ¬ TypedThreshold.matches spec.success value ∧
      ¬ TypedThreshold.matches spec.weakSignal value ∧ TypedThreshold.matches spec.failure value
  | .insufficientData => False

/-- At most one class is met. -/
theorem CheckpointSpec.Meets.unique {spec : CheckpointSpec} {value : Rat} {c c' : ResultClass}
    (h : spec.Meets value c) (h' : spec.Meets value c') : c = c' := by
  cases c <;> cases c' <;> simp_all [CheckpointSpec.Meets]

/-- A checkpoint with the thresholds of a spec. -/
def CheckpointDefinition.HasThresholds (checkpoint : CheckpointDefinition) (spec : CheckpointSpec) :
    Prop :=
  checkpoint.success = spec.success ∧ checkpoint.weakSignal = spec.weakSignal ∧
    checkpoint.failure = spec.failure

theorem resultClass_eq_ok_iff {spec : CheckpointSpec} {checkpoint : CheckpointDefinition}
    {metric : MetricVersion} {value : ℕ} (hthresholds : checkpoint.HasThresholds spec)
    (havailable : metric.availabilityStatus = .available)
    (hcomplete : metric.coverageStatus = .complete) (hvalue : metric.valueNumeric = some value)
    {c : ResultClass} : resultClass checkpoint metric = .ok c ↔ spec.Meets value c := by
  obtain ⟨hsuccess, hweak, hfailure⟩ := hthresholds
  unfold resultClass
  rw [havailable, hcomplete, hvalue, hsuccess, hweak, hfailure]
  simp only [ne_eq, not_true_eq_false, or_self, if_false]
  by_cases hs : TypedThreshold.matches spec.success value = true
  · cases c <;> simp [CheckpointSpec.Meets, hs]
  · by_cases hw : TypedThreshold.matches spec.weakSignal value = true
    · cases c <;> simp [CheckpointSpec.Meets, hs, hw]
    · by_cases hf : TypedThreshold.matches spec.failure value = true
      · cases c <;> simp [CheckpointSpec.Meets, hs, hw, hf]
      · cases c <;> simp [CheckpointSpec.Meets, hs, hw, hf]

/-- A count meets a class if there are no events, or as many as make a weak signal. -/
theorem CheckpointSpec.Deterministic.exists_meets_iff {spec : CheckpointSpec}
    (h : spec.Deterministic) (count : ℕ) :
    (∃ c, spec.Meets count c) ↔ count = 0 ∨ spec.weakSignal.value ≤ count := by
  have hsuccess : TypedThreshold.matches spec.success count = true ↔ spec.success.value ≤ count := by
    simp [TypedThreshold.matches, h.success]
  have hweak : TypedThreshold.matches spec.weakSignal count = true ↔
      spec.weakSignal.value ≤ count := by
    simp [TypedThreshold.matches, h.weakSignal]
  have hfailure : TypedThreshold.matches spec.failure count = true ↔ count = 0 := by
    simp [TypedThreshold.matches, h.failure.1, h.failure.2]
  constructor
  · rintro ⟨c, hc⟩
    cases c with
    | success => exact .inr (Rat.le_trans (Rat.le_of_lt h.ordered) (hsuccess.mp hc))
    | weakSignal => exact .inr (hweak.mp hc.2)
    | failure => exact .inl (hfailure.mp hc.2.2)
    | insufficientData => exact hc.elim
  · intro hcount
    by_cases hs : TypedThreshold.matches spec.success count = true
    · exact ⟨.success, hs⟩
    · by_cases hw : TypedThreshold.matches spec.weakSignal count = true
      · exact ⟨.weakSignal, hs, hw⟩
      · refine ⟨.failure, hs, hw, hfailure.mpr ?_⟩
        exact hcount.resolve_right fun hle => hw (hweak.mpr hle)

/-! ## The interpretation -/

/-- A metric that has not been interpreted, with a complete count, and its checkpoint and running
Experiment. -/
structure Countable (spec : CheckpointSpec) (scope : TenantScope) (count : ℕ)
    (metricVersionId : Id) (t : AnalyticsTables) : Prop where
  metric : ∃ metric checkpoint experiment,
    Table.find MetricVersion.id metricVersionId t.metricVersions = some metric ∧
    metric.scope = scope ∧ metric.availabilityStatus = .available ∧
    metric.coverageStatus = .complete ∧ metric.valueNumeric = some count ∧
    Table.find CheckpointDefinition.id metric.checkpointDefinitionId t.checkpointDefinitions =
      some checkpoint ∧
    checkpoint.HasThresholds spec ∧
    Table.find Experiment.id checkpoint.experimentId t.experiments = some experiment ∧
    experiment.status = .running
  fresh : Table.find ExperimentResultDetail.metricVersionId metricVersionId
    t.experimentResultDetails = none

/-- The interpretation of a count returns a result, with the class of the one condition that is met,
exactly if there are no events or as many as make a weak signal. -/
theorem interpretation_iff {spec : CheckpointSpec} (hspec : spec.Accepted) {scope : TenantScope}
    {count : ℕ} {metricVersionId : Id} {db : AgentDatabase M AnalyticsTables}
    (hcount : Countable spec scope count metricVersionId db.tables.domain) (now : Time) :
    (∃ resultId db', interpretCheckpoint now scope metricVersionId db = .ok (resultId, db') ∧
      ∃ result ∈ db'.tables.domain.experimentResults, result.id = resultId ∧
        ∀ c, spec.Meets count c ↔ c = result.resultClass) ↔
      count = 0 ∨ spec.weakSignal.value ≤ count := by
  obtain ⟨metric, checkpoint, experiment, hmetric, hscope, havailable, hcomplete, hvalue,
    hcheckpoint, hthresholds, hexperiment, hrunning⟩ := hcount.metric
  obtain rfl : metric.id = metricVersionId := Table.key_of_find hmetric
  have hclass : ∀ c, resultClass checkpoint metric = .ok c ↔ spec.Meets count c :=
    fun c => resultClass_eq_ok_iff hthresholds havailable hcomplete hvalue
  rw [← (CheckpointSpec.firstSliceThresholdsAreDeterministic_eq_ok_iff.mp
    hspec.deterministic).exists_meets_iff count]
  constructor
  · rintro ⟨resultId, db', -, result, -, -, hmeets⟩
    exact ⟨result.resultClass, (hmeets _).mpr rfl⟩
  · rintro ⟨c, hc⟩
    have hinputs : checkpointInputs metric db.tables.domain = .ok (checkpoint, experiment, c) :=
      Except.bind_eq_ok_iff.mpr ⟨checkpoint, orRaise_eq_ok_iff.mpr hcheckpoint,
        Except.bind_eq_ok_iff.mpr ⟨experiment, orRaise_eq_ok_iff.mpr hexperiment,
          Except.bind_eq_ok_iff.mpr ⟨(), require_eq_ok_iff.mpr hrunning,
            Except.bind_eq_ok_iff.mpr ⟨c, (hclass c).mpr hc, rfl⟩⟩⟩⟩
    suffices hachieves : Achieves (interpretCheckpoint (M := M) now scope metric.id)
        (fun resultId db' => ∃ result ∈ db'.tables.domain.experimentResults,
          result.id = resultId ∧ ∀ c, spec.Meets count c ↔ c = result.resultClass) db from
      hachieves
    rw [interpretCheckpoint, achieves_bind, achieves_tables, achieves_bind, achieves_check]
    refine ⟨metric, orRaise_eq_ok_iff.mpr hmetric, ?_⟩
    rw [achieves_bind, achieves_check]
    refine ⟨(), TenantScope.assertMatches_eq_ok_iff.mpr hscope.symm, ?_⟩
    rw [hcount.fresh]
    dsimp only
    rw [achieves_bind, achieves_check]
    refine ⟨_, hinputs, ?_⟩
    dsimp only
    rw [achieves_bind, achieves_newId, achieves_bind, achieves_newId, achieves_bind,
      achieves_modifyTables, achieves_bind, DomainTxn.addOutboxEvent, achieves_modify,
      achieves_pure]
    refine ⟨_, List.mem_append_right _ (List.mem_singleton_self _), rfl, fun c' => ?_⟩
    exact ⟨fun hc' => hc'.unique hc, fun heq => heq ▸ hc⟩

/-- A spec whose weak signal begins at five events. -/
def gappedSpec : CheckpointSpec where
  windowSeconds := 3600
  graceSeconds := 60
  success := ⟨.gte, 10⟩
  weakSignal := ⟨.gte, 5⟩
  failure := ⟨.eq, 0⟩

theorem gappedSpec_accepted : gappedSpec.Accepted := by
  refine ⟨rfl, ?_, ?_, ?_, rfl⟩ <;> decide

/-- A complete count under that spec. -/
def gappedCount (count : ℕ) : AgentDatabase Unit AnalyticsTables where
  tables := { domain :=
    { experiments := [
        { id := 1
          decisionId := 0
          metric := "telegram_reaction_changes"
          status := .running }]
      checkpointDefinitions := [
        { id := 2
          experimentId := 1
          decisionId := 0
          metricKey := "telegram_reaction_changes"
          windowSeconds := 3600
          graceSeconds := 60
          success := gappedSpec.success
          weakSignal := gappedSpec.weakSignal
          failure := gappedSpec.failure }]
      metricVersions := [
        { id := 3
          scope := ⟨"organization", "business"⟩
          checkpointDefinitionId := 2
          metricKey := "telegram_reaction_changes"
          subjectId := 0
          sourceConnectorAccountId := 0
          versionNumber := 1
          valueNumeric := some count
          availabilityStatus := .available
          coverageStatus := .complete
          sourceWindowStart := 0
          sourceWindowEnd := 3600
          includedBusinessEventIds := []
          calculatedAt := 3700
          previousMetricVersionId := none
          derivationHash := ""
          evidenceId := 0 }] } }
  nextId := 4

theorem gappedCount_countable (count : ℕ) : Countable gappedSpec ⟨"organization", "business"⟩ count 3
    (gappedCount count).tables.domain :=
  ⟨⟨_, _, _, rfl, rfl, rfl, rfl, rfl, rfl, ⟨rfl, rfl, rfl⟩, rfl, rfl⟩, rfl⟩

/-- Five events make a weak signal. -/
theorem five_events_interpreted :
    ∃ resultId db', interpretCheckpoint 3700 ⟨"organization", "business"⟩ 3 (gappedCount 5) =
        .ok (resultId, db') ∧
      ∃ result ∈ db'.tables.domain.experimentResults, result.id = resultId ∧
        ∀ c, gappedSpec.Meets 5 c ↔ c = result.resultClass :=
  (interpretation_iff gappedSpec_accepted (gappedCount_countable 5) 3700).mpr (.inr (by decide))

/-- Three events meet no condition, and the interpretation fails. -/
theorem three_events_not_interpreted :
    gappedSpec.Accepted ∧
    Countable gappedSpec ⟨"organization", "business"⟩ 3 3 (gappedCount 3).tables.domain ∧
    (interpretCheckpoint 3700 ⟨"organization", "business"⟩ 3 (gappedCount 3)).map Prod.fst =
      .error (.permanentJobError "typed checkpoint conditions are non-exhaustive") :=
  ⟨gappedSpec_accepted, gappedCount_countable 3, by decide +kernel⟩

end LaunchOS
