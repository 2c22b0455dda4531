import WorkloadPolicy.Proofs.Evaluation

/-!
# Runs of matchers

A matcher asks of every kind of entity that its predicate on that kind, if it
has one, be satisfied by an entity of that kind.  The run reports a match when
every kind agrees, and then with the highlights of all kinds: those on
processes first, then those on the deployment, then those on every image that
satisfied its predicate.
-/

namespace WorkloadPolicy

theorem EntityKind.forall_iff {property : EntityKind → Prop} :
    (∀ kind, property kind) ↔
      property .deployment ∧ property .image ∧ property .process := by
  constructor
  · exact fun each => ⟨each .deployment, each .image, each .process⟩
  · rintro ⟨deployment, image, process⟩ (_ | _ | _) <;> assumption

/-- The flattened entities of a kind that a policy is run on. -/
def Subjects.values (subjects : Subjects) : EntityKind → List FieldValues
  | .deployment => (subjects.deployment.map Deployment.fieldValues).toList
  | .image => subjects.images.map Image.fieldValues
  | .process => (subjects.process.map ProcessIndicator.fieldValues).toList

namespace Matcher

/-- The predicate on entities of a kind, if there is one. -/
def predicate (matcher : Matcher) : EntityKind → Option Query
  | .deployment => matcher.deployment
  | .image => matcher.image
  | .process => matcher.process

/-- The verdict on the entities of one kind. -/
def kindVerdict
    (now : Calendar.Instant)
    (matcher : Matcher)
    (subjects : Subjects)
    (kind : EntityKind) : Verdict :=
  match matcher.predicate kind with
  | none => .matched {}
  | some query => .any ((subjects.values kind).map fun values => query.evaluate now values)

/-- If there is a predicate on a kind, some entity of that kind satisfies it. -/
def Satisfied
    (now : Calendar.Instant)
    (matcher : Matcher)
    (subjects : Subjects)
    (kind : EntityKind) : Prop :=
  ∀ query, matcher.predicate kind = some query →
    ∃ values ∈ subjects.values kind, (query.evaluate now values).isMatch = true

section Verdicts

variable {now : Calendar.Instant} {matcher : Matcher} {subjects : Subjects}

theorem kindVerdict_of_none
    {kind : EntityKind}
    (absent : matcher.predicate kind = none) :
    matcher.kindVerdict now subjects kind = .matched {} := by
  simp [kindVerdict, absent]

theorem kindVerdict_of_some
    {kind : EntityKind}
    {query : Query}
    (present : matcher.predicate kind = some query) :
    matcher.kindVerdict now subjects kind =
      .any ((subjects.values kind).map fun values => query.evaluate now values) := by
  simp [kindVerdict, present]

theorem entityVerdict_eq
    (evaluate : Evaluator)
    (query : Option Query)
    (values : Option FieldValues) :
    entityVerdict evaluate query values =
      match query with
      | none => .matched {}
      | some query => .any (values.toList.map fun values => evaluate values query) := by
  cases query with
  | none => rfl
  | some query => cases values <;> simp [entityVerdict]

theorem imagesVerdict_eq
    (evaluate : Evaluator)
    (query : Option Query)
    (images : List FieldValues) :
    imagesVerdict evaluate query images =
      match query with
      | none => .matched {}
      | some query => .any (images.map fun values => evaluate values query) := by
  cases query with
  | none => rfl
  | some query => simp only [imagesVerdict, Verdict.any, List.foldr_map]

/-- All kinds must agree; they are asked in this order. -/
theorem verdict_eq :
    matcher.verdict (Query.evaluate now) subjects =
      (matcher.kindVerdict now subjects .process).both
        ((matcher.kindVerdict now subjects .deployment).both
          (matcher.kindVerdict now subjects .image)) := by
  rw [verdict, entityVerdict_eq, entityVerdict_eq, imagesVerdict_eq]
  rfl

/-- The highlights of all kinds. -/
def found
    (now : Calendar.Instant)
    (matcher : Matcher)
    (subjects : Subjects) : Highlights :=
  (matcher.kindVerdict now subjects .process).found ++
    ((matcher.kindVerdict now subjects .deployment).found ++
      (matcher.kindVerdict now subjects .image).found)

/-- A matcher matches when every kind agrees, with the highlights of all. -/
theorem verdict_eq_matched_iff {highlights : Highlights} :
    matcher.verdict (Query.evaluate now) subjects = .matched highlights ↔
      (∀ kind, (matcher.kindVerdict now subjects kind).isMatch = true) ∧
        highlights = matcher.found now subjects := by
  rw [verdict_eq, Verdict.both_eq_matched_iff, Verdict.isMatch_both, EntityKind.forall_iff,
    Bool.and_eq_true]
  have highlighted
      (deployment : (matcher.kindVerdict now subjects .deployment).isMatch = true)
      (image : (matcher.kindVerdict now subjects .image).isMatch = true) :
      ((matcher.kindVerdict now subjects .deployment).both
          (matcher.kindVerdict now subjects .image)).found =
        (matcher.kindVerdict now subjects .deployment).found ++
          (matcher.kindVerdict now subjects .image).found := by
    rw [Verdict.both_eq_matched_iff.2 ⟨deployment, image, rfl⟩, Verdict.found_matched]
  constructor
  · rintro ⟨process, ⟨deployment, image⟩, equal⟩
    exact ⟨⟨deployment, image, process⟩, by rw [equal, highlighted deployment image, found]⟩
  · rintro ⟨⟨deployment, image, process⟩, equal⟩
    exact ⟨process, ⟨deployment, image⟩, by rw [equal, highlighted deployment image, found]⟩

theorem satisfied_of_isMatch
    {kind : EntityKind}
    (isMatch : (matcher.kindVerdict now subjects kind).isMatch = true) :
    matcher.Satisfied now subjects kind := by
  intro query present
  rw [kindVerdict_of_some present] at isMatch
  obtain ⟨-, ⟨verdict, member, matched⟩, -⟩ :=
    Verdict.any_eq_matched_iff.1 (Verdict.eq_matched_found isMatch)
  obtain ⟨values, inSubjects, rfl⟩ := List.mem_map.1 member
  exact ⟨values, inSubjects, matched⟩

theorem isMatch_kindVerdict_iff
    {kind : EntityKind}
    (sound : matcher.kindVerdict now subjects kind ≠ .fault) :
    (matcher.kindVerdict now subjects kind).isMatch = true ↔
      matcher.Satisfied now subjects kind := by
  refine ⟨satisfied_of_isMatch, fun satisfied => ?_⟩
  cases present : matcher.predicate kind with
  | none =>
      rw [kindVerdict_of_none present]
      rfl
  | some query =>
      rw [kindVerdict_of_some present] at sound ⊢
      obtain ⟨values, member, isMatch⟩ := satisfied query present
      rw [Verdict.isMatch_any (by simpa using sound), List.any_eq_true]
      exact ⟨_, List.mem_map_of_mem member, isMatch⟩

/-- No kind faults if every age that a predicate asks for fits a duration. -/
theorem kindVerdict_ne_fault
    {kind : EntityKind}
    (fit : ∀ query, matcher.predicate kind = some query →
      ∀ field ∈ query.fields, field.operation.agesFit = true) :
    matcher.kindVerdict now subjects kind ≠ .fault := by
  cases present : matcher.predicate kind with
  | none => simp [kindVerdict_of_none present]
  | some query =>
      rw [kindVerdict_of_some present, Ne, Verdict.any_eq_fault_iff]
      intro member
      obtain ⟨values, -, isFault⟩ := List.mem_map.1 member
      exact Query.evaluate_ne_fault now (fit query present) values isFault

theorem verdict_ne_fault
    (sound : ∀ kind, matcher.kindVerdict now subjects kind ≠ .fault) :
    matcher.verdict (Query.evaluate now) subjects ≠ .fault := by
  rw [verdict_eq]
  intro isFault
  rcases Verdict.eq_fault_of_both_eq_fault isFault with process | others
  · exact sound .process process
  · rcases Verdict.eq_fault_of_both_eq_fault others with deployment | image
    · exact sound .deployment deployment
    · exact sound .image image

/-- Without faults a matcher matches when every kind is satisfied. -/
theorem isMatch_verdict_iff
    (sound : ∀ kind, matcher.kindVerdict now subjects kind ≠ .fault) :
    (matcher.verdict (Query.evaluate now) subjects).isMatch = true ↔
      ∀ kind, matcher.Satisfied now subjects kind := by
  rw [Verdict.isMatch_iff_eq_matched, verdict_eq_matched_iff]
  constructor
  · exact fun both kind => satisfied_of_isMatch (both.1 kind)
  · intro satisfied
    have each (kind : EntityKind) :
        (matcher.kindVerdict now subjects kind).isMatch = true :=
      (isMatch_kindVerdict_iff (sound kind)).2 (satisfied kind)
    refine ⟨each, ?_⟩
    rw [verdict_eq_matched_iff.2 ⟨each, rfl⟩, Verdict.found_matched]

/-- A kind without entities does not satisfy its predicate, whatever that
asks for. -/
theorem not_satisfied_of_values_eq_nil
    {kind : EntityKind}
    {query : Query}
    (present : matcher.predicate kind = some query)
    (missing : subjects.values kind = []) :
    ¬ matcher.Satisfied now subjects kind := by
  intro satisfied
  obtain ⟨values, member, -⟩ := satisfied query present
  simp [missing] at member

/-- What is highlighted under a key that only one kind uses. -/
theorem get_found_of_unused
    {kind : EntityKind}
    {key : String}
    (unused : ∀ other, other ≠ kind → ∀ query, matcher.predicate other = some query →
      key ∉ query.fields.map (·.key)) :
    (matcher.found now subjects).get key =
      (matcher.kindVerdict now subjects kind).found.get key := by
  have empty (other : EntityKind) (different : other ≠ kind) :
      (matcher.kindVerdict now subjects other).found.get key = [] := by
    cases present : matcher.predicate other with
    | none => simp [kindVerdict_of_none present]
    | some query =>
        rw [kindVerdict_of_some present]
        apply Verdict.get_found_any_eq_nil
        intro verdict member
        obtain ⟨values, -, rfl⟩ := List.mem_map.1 member
        exact Query.get_found_of_not_mem now values (unused other different query present)
  rw [found, Highlights.get_append, Highlights.get_append]
  cases kind with
  | deployment => simp [empty .process, empty .image]
  | image => simp [empty .process, empty .deployment]
  | process => simp [empty .deployment, empty .image]

end Verdicts

/-! ## Outcomes of a run -/

section Run

variable {now : Calendar.Instant} {matcher : Matcher} {subjects : Subjects}

/-- A matcher that has a predicate is run by its verdict. -/
theorem run_eq
    {kind : EntityKind}
    {query : Query}
    (present : matcher.predicate kind = some query) :
    matcher.run now subjects =
      match matcher.verdict (Query.evaluate now) subjects with
      | .unmatched => .ok {}
      | .fault => .error (.incomparableAge matcher.policyName)
      | .matched highlights =>
          if (matcher.report subjects highlights).isEmpty then
            .error (.silent matcher.policyName)
          else
            .ok (matcher.report subjects highlights) := by
  have active :
      (matcher.deployment.isNone && matcher.image.isNone && matcher.process.isNone) =
        false := by
    cases kind <;> simp only [predicate] at present <;> simp [present]
  rw [run, runWith, active]
  rfl

theorem run_of_unmatched
    (unmatched : matcher.verdict (Query.evaluate now) subjects = .unmatched) :
    matcher.run now subjects = .ok {} := by
  unfold run runWith
  split
  · rfl
  · rw [unmatched]

/-- A run on a process event reports every match, since it names the process. -/
theorem run_of_process
    {kind : EntityKind}
    {query : Query}
    (present : matcher.predicate kind = some query)
    (supplied : subjects.process.isSome = true)
    (sound : matcher.verdict (Query.evaluate now) subjects ≠ .fault) :
    ∃ violations, matcher.run now subjects = .ok violations ∧
      (violations.isEmpty = false ↔
        (matcher.verdict (Query.evaluate now) subjects).isMatch = true) ∧
      ∀ highlights, matcher.verdict (Query.evaluate now) subjects = .matched highlights →
        violations.alerts = matcher.printer.alerts highlights := by
  rw [run_eq present]
  cases outcome : matcher.verdict (Query.evaluate now) subjects with
  | unmatched => exact ⟨{}, rfl, by simp [Violations.isEmpty], by simp⟩
  | fault => exact absurd outcome sound
  | matched highlights =>
      obtain ⟨process, supplied⟩ := Option.isSome_iff_exists.1 supplied
      have reported : (matcher.report subjects highlights).isEmpty = false := by
        simp [report, Violations.isEmpty, supplied]
      refine ⟨matcher.report subjects highlights, by simp [reported], by simp [reported], ?_⟩
      rintro _ equal
      cases equal
      rfl

/-- A report that is not empty is that of a match. -/
theorem exists_highlights_of_run_eq_ok
    {violations : Violations}
    (ran : matcher.run now subjects = .ok violations)
    (reported : violations.isEmpty = false) :
    ∃ highlights, matcher.verdict (Query.evaluate now) subjects = .matched highlights ∧
      violations = matcher.report subjects highlights := by
  unfold run runWith at ran
  split at ran
  · cases ran
    simp [Violations.isEmpty] at reported
  · split at ran
    · cases ran
      simp [Violations.isEmpty] at reported
    · simp at ran
    · rename_i highlights matched
      simp only at ran
      split at ran
      · simp at ran
      · cases ran
        exact ⟨highlights, matched, rfl⟩

end Run
end Matcher
end WorkloadPolicy
