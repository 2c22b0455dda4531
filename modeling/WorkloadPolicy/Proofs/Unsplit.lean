import WorkloadPolicy.Proofs.Compilation
import WorkloadPolicy.Proofs.Standard

/-!
# Splitting keeps the meaning of a policy

A compiled policy is run on each kind of entity apart.  This agrees with
evaluating its whole predicate, before it was split, on the values of all
entities together: every conjunct reads one kind of entity, so it sees the same
values in both, and every highlight stands under a key of one kind.
-/

namespace WorkloadPolicy

/-- Under a path of one kind, the values of all kinds together are those of that kind. -/
theorem FieldValues.get_append_of_owns
    {parts : EntityKind → FieldValues}
    (belong : ∀ kind, (parts kind).BelongTo kind)
    {kind : EntityKind}
    {path : String}
    (owns : kind.Owns path) :
    (parts .deployment ++ parts .process ++ parts .image).get path = (parts kind).get path := by
  have foreign (other : EntityKind) (different : other ≠ kind) : (parts other).get path = [] :=
    (belong other).get_eq_nil owns different
  rw [get_append, get_append]
  cases kind with
  | deployment =>
      rw [foreign .process (by decide), foreign .image (by decide), List.append_nil,
        List.append_nil]
  | image =>
      rw [foreign .deployment (by decide), foreign .process (by decide), List.append_nil,
        List.nil_append]
  | process =>
      rw [foreign .deployment (by decide), foreign .image (by decide), List.append_nil,
        List.nil_append]

/-- Values together agree with values by kind on all that a predicate reads. -/
def Query.Agree
    (query : Query)
    (union : FieldValues)
    (parts : EntityKind → FieldValues) : Prop :=
  ∀ field ∈ query.fields, union.get field.path = (parts field.kind).get field.path

namespace Query

section Split

variable
  {now : Calendar.Instant}
  {query : Query}
  {queries : KindQueries}
  {union : FieldValues}
  {parts : EntityKind → FieldValues}

theorem Agree.evaluate_conjunct
    (agree : query.Agree union parts)
    {conjunct : Query}
    (member : conjunct ∈ query.conjuncts)
    {kind : EntityKind}
    (single : conjunct.kindSet = [kind]) :
    evaluate now union conjunct = evaluate now (parts kind) conjunct := by
  apply evaluate_congr
  intro field inConjunct
  rw [agree field (mem_fields_of_mem_conjuncts member inConjunct),
    kind_of_kindSet_eq_singleton single inConjunct]

theorem mem_ofKind_iff
    (split : query.split? = some queries)
    {conjunct : Query}
    {kind : EntityKind} :
    conjunct ∈ queries.ofKind kind ↔ conjunct ∈ query.conjuncts ∧ conjunct.kindSet = [kind] := by
  rw [ofKind_of_split?_eq_some split, List.mem_filter, decide_eq_true_iff]

/-- The whole matches when every conjunct matches on its own kind. -/
theorem isMatch_evaluate_iff
    (populated : query.Populated)
    (split : query.split? = some queries)
    (agree : query.Agree union parts) :
    (evaluate now union query).isMatch = true ↔
      ∀ kind, ∀ conjunct ∈ queries.ofKind kind,
        (evaluate now (parts kind) conjunct).isMatch = true := by
  rw [evaluate_eq_all_conjuncts, Verdict.isMatch_all, List.all_map, List.all_eq_true]
  constructor
  · intro each kind conjunct member
    obtain ⟨inQuery, single⟩ := (mem_ofKind_iff split).1 member
    rw [← agree.evaluate_conjunct inQuery single]
    exact each conjunct inQuery
  · intro each conjunct member
    obtain ⟨kind, single⟩ := populated.kindSet_of_split?_eq_some split member
    rw [Function.comp_apply, agree.evaluate_conjunct member single]
    exact each kind conjunct ((mem_ofKind_iff split).2 ⟨member, single⟩)

/-- A leaf of a predicate that splits leaves a conjunct of its kind. -/
theorem ofKind_ne_nil_of_mem_fields
    (split : query.split? = some queries)
    {field : FieldQuery}
    (member : field ∈ query.fields) :
    queries.ofKind field.kind ≠ [] := by
  rw [fields_eq_flatMap_conjuncts] at member
  obtain ⟨conjunct, inConjuncts, inConjunct⟩ := List.mem_flatMap.1 member
  have single := kindSet_of_mem_conjuncts split inConjuncts inConjunct
  exact List.ne_nil_of_mem ((mem_ofKind_iff split).2 ⟨inConjuncts, single⟩)

theorem flatMap_filter_of_eq_nil
    {β : Type}
    {items : List α}
    {keep : α → Bool}
    {collect : α → List β}
    (silent : ∀ item ∈ items, keep item = false → collect item = []) :
    (items.filter keep).flatMap collect = items.flatMap collect := by
  induction items with
  | nil => rfl
  | cons item items hypothesis =>
      obtain ⟨first, others⟩ := List.forall_mem_cons.1 silent
      rw [List.flatMap_cons, ← hypothesis others]
      cases kept : keep item
      · rw [List.filter_cons_of_neg (by simp [kept]), first kept, List.nil_append]
      · rw [List.filter_cons_of_pos kept, List.flatMap_cons]

/-- Under a key of one kind the whole highlights what the conjuncts of that kind
do. -/
theorem get_found_evaluate
    (split : query.split? = some queries)
    (agree : query.Agree union parts)
    (matched : (evaluate now union query).isMatch = true)
    {key : String}
    {kind : EntityKind}
    (owned : ∀ field ∈ query.fields, field.key = key → field.kind = kind) :
    (evaluate now union query).found.get key =
      (queries.ofKind kind).flatMap fun conjunct =>
        (evaluate now (parts kind) conjunct).found.get key := by
  have outcome := Verdict.eq_matched_found matched
  rw [evaluate_eq_all_conjuncts] at outcome ⊢
  obtain ⟨-, found⟩ := Verdict.all_eq_matched_iff.1 outcome
  rw [found, Highlights.get_concat, List.flatMap_map, List.flatMap_map,
    ofKind_of_split?_eq_some split]
  have silent :
      ∀ conjunct ∈ query.conjuncts, decide (conjunct.kindSet = [kind]) = false →
        (evaluate now union conjunct).found.get key = [] := by
    intro conjunct member other
    apply get_found_of_not_mem now union
    intro inKeys
    obtain ⟨field, inConjunct, sameKey⟩ := List.mem_map.1 inKeys
    have single := kindSet_of_mem_conjuncts split member inConjunct
    rw [owned field (mem_fields_of_mem_conjuncts member inConjunct) sameKey] at single
    simp [single] at other
  rw [← flatMap_filter_of_eq_nil silent]
  apply List.flatMap_congr
  intro conjunct member
  obtain ⟨inQuery, single⟩ := List.mem_filter.1 member
  rw [agree.evaluate_conjunct inQuery (by simpa using single)]

/-- Values that belong to their kinds agree with all of them together. -/
theorem agree_append
    (owned : ∀ field ∈ query.fields, field.kind.Owns field.path)
    (belong : ∀ kind, (parts kind).BelongTo kind) :
    query.Agree (parts .deployment ++ parts .process ++ parts .image) parts :=
  fun field member => FieldValues.get_append_of_owns belong (owned field member)

end Split
end Query

/-! ## Kinds of a compiled policy -/

namespace Compiler

section Matcher

variable
  {now : Calendar.Instant}
  {policyName : String}
  {queries : KindQueries}
  {printer : Printer}
  {subjects : Subjects}

theorem kindVerdict_matcher
    {kind : EntityKind}
    {query : Query}
    (combined : Query.all? (queries.ofKind kind) = some query) :
    (matcher policyName queries printer).kindVerdict now subjects kind =
      .any ((subjects.values kind).map fun values => query.evaluate now values) := by
  have present : (matcher policyName queries printer).predicate kind = some query := by
    rw [predicate_matcher, combined]
  exact Matcher.kindVerdict_of_some present

theorem satisfied_matcher_iff {kind : EntityKind} :
    (matcher policyName queries printer).Satisfied now subjects kind ↔
      queries.ofKind kind = [] ∨ ∃ values ∈ subjects.values kind,
        ∀ conjunct ∈ queries.ofKind kind, (conjunct.evaluate now values).isMatch = true := by
  rw [Matcher.Satisfied, predicate_matcher]
  cases combined : Query.all? (queries.ofKind kind) with
  | none => simp [Query.all?_eq_none_iff.1 combined]
  | some query =>
      have inhabited : queries.ofKind kind ≠ [] := by
        intro none
        simp [none, Query.all?] at combined
      simp [Query.evaluate_of_all?_eq_some now _ combined, inhabited]

/-- On a single entity the verdict of a kind is that of all its conjuncts. -/
theorem kindVerdict_matcher_of_single
    {kind : EntityKind}
    {values : FieldValues}
    (single : subjects.values kind = [values]) :
    (matcher policyName queries printer).kindVerdict now subjects kind =
      .all ((queries.ofKind kind).map (Query.evaluate now values)) := by
  cases combined : Query.all? (queries.ofKind kind) with
  | none =>
      rw [Matcher.kindVerdict_of_none (by rw [predicate_matcher, combined]),
        Query.all?_eq_none_iff.1 combined]
      rfl
  | some query =>
      rw [kindVerdict_matcher combined, single, List.map_singleton, Verdict.any_cons,
        Verdict.any_nil, Verdict.either_unmatched,
        Query.evaluate_of_all?_eq_some now values combined]

/-- Without an entity no conjunct is matched. -/
theorem kindVerdict_matcher_of_missing
    {kind : EntityKind}
    (inhabited : queries.ofKind kind ≠ [])
    (missing : subjects.values kind = []) :
    (matcher policyName queries printer).kindVerdict now subjects kind = .unmatched := by
  cases combined : Query.all? (queries.ofKind kind) with
  | none => exact absurd (Query.all?_eq_none_iff.1 combined) inhabited
  | some query =>
      rw [kindVerdict_matcher combined, missing]
      rfl

theorem get_found_kindVerdict_matcher
    {kind : EntityKind}
    {values : FieldValues}
    (only : queries.ofKind kind = [] ∨ subjects.values kind = [values])
    (isMatch : ((matcher policyName queries printer).kindVerdict now subjects kind).isMatch)
    (key : String) :
    ((matcher policyName queries printer).kindVerdict now subjects kind).found.get key =
      (queries.ofKind kind).flatMap fun conjunct =>
        (conjunct.evaluate now values).found.get key := by
  rcases only with unused | single
  · have absent : (matcher policyName queries printer).predicate kind = none := by
      rw [predicate_matcher, unused]
      rfl
    rw [Matcher.kindVerdict_of_none absent, unused]
    rfl
  · rw [kindVerdict_matcher_of_single single] at isMatch ⊢
    obtain ⟨-, found⟩ := Verdict.all_eq_matched_iff.1 (Verdict.eq_matched_found isMatch)
    rw [found, Highlights.get_concat, List.flatMap_map, List.flatMap_map]

/-- A matcher asks of each kind what the whole predicate asks of it. -/
theorem mem_fields_of_predicate
    {query whole : Query}
    (split : whole.split? = some queries)
    {kind : EntityKind}
    (present : (matcher policyName queries printer).predicate kind = some query)
    {field : FieldQuery}
    (member : field ∈ query.fields) :
    field ∈ whole.fields ∧ field.kind = kind := by
  rw [predicate_matcher] at present
  rw [Query.fields_of_all?_eq_some present, List.mem_flatMap] at member
  obtain ⟨conjunct, inKind, inConjunct⟩ := member
  obtain ⟨inWhole, single⟩ := (Query.mem_ofKind_iff split).1 inKind
  exact ⟨Query.mem_fields_of_mem_conjuncts inWhole inConjunct,
    Query.kind_of_kindSet_eq_singleton single inConjunct⟩

/-- A populated predicate leaves no matcher without predicates. -/
theorem exists_predicate
    (policyName : String)
    (printer : Printer)
    {whole : Query}
    (populated : whole.Populated)
    (split : whole.split? = some queries) :
    ∃ kind query, (matcher policyName queries printer).predicate kind = some query := by
  obtain ⟨conjunct, member⟩ := List.exists_mem_of_ne_nil _ populated.conjuncts_ne_nil
  obtain ⟨kind, single⟩ := populated.kindSet_of_split?_eq_some split member
  have inKind : conjunct ∈ queries.ofKind kind :=
    (Query.mem_ofKind_iff split).2 ⟨member, single⟩
  refine ⟨kind, ?_⟩
  rw [predicate_matcher, ← Option.isSome_iff_exists, Option.isSome_iff_ne_none, Ne,
    Query.all?_eq_none_iff]
  exact List.ne_nil_of_mem inKind

theorem kindVerdict_matcher_ne_fault
    {whole : Query}
    (split : whole.split? = some queries)
    (fit : ∀ field ∈ whole.fields, field.operation.agesFit = true)
    (kind : EntityKind) :
    (matcher policyName queries printer).kindVerdict now subjects kind ≠ .fault := by
  apply Matcher.kindVerdict_ne_fault
  intro query present field member
  exact fit field (mem_fields_of_predicate split present member).1

end Matcher

/-! ## Runs and the whole predicate -/

section Unsplit

variable
  {compiler : Compiler}
  {policy : Policy}
  {fields : PolicyFields}
  {added : List Check}
  {contribution : Contribution}
  {scope : Option Query}
  {queries : KindQueries}
  {now : Calendar.Instant}

section Fitting

variable
  (gathers : compiler.Gathers policy fields added contribution scope)
  (fit : compiler.AgesFit policy)
  (split : (gated scope contribution.query).split? = some queries)

include gathers fit split

/-- A policy whose ages fit does not fail on any kind of entity. -/
theorem Gathers.kindVerdict_ne_fault (kind : EntityKind) :
    (matcher policyName queries printer).kindVerdict now subjects kind ≠ .fault :=
  kindVerdict_matcher_ne_fault split (fun _ member => gathers.agesFit fit member) kind

/-- A policy whose ages fit reports nothing where it is not satisfied. -/
theorem Gathers.run_of_not_satisfied
    (unsatisfied :
      ¬ ∀ kind, (matcher policyName queries printer).Satisfied now subjects kind) :
    (matcher policyName queries printer).run now subjects = .ok {} := by
  have sound (kind : EntityKind) :
      (matcher policyName queries printer).kindVerdict now subjects kind ≠ .fault :=
    gathers.kindVerdict_ne_fault fit split kind
  apply Matcher.run_of_unmatched
  rw [Verdict.eq_unmatched_iff (Matcher.verdict_ne_fault sound), Bool.eq_false_iff, Ne,
    Matcher.isMatch_verdict_iff sound]
  exact unsatisfied

/-- Where it is satisfied, a policy whose ages fit matches. -/
theorem Gathers.verdict_of_satisfied
    (satisfied : ∀ kind, (matcher policyName queries printer).Satisfied now subjects kind) :
    (matcher policyName queries printer).verdict (Query.evaluate now) subjects =
      .matched ((matcher policyName queries printer).found now subjects) := by
  have matched := Verdict.eq_matched_found
    ((Matcher.isMatch_verdict_iff fun kind => gathers.kindVerdict_ne_fault fit split kind).2
      satisfied)
  rw [matched, (Matcher.verdict_eq_matched_iff.1 matched).2]

/-- What it then reports is what it highlights.  That this comes to nothing is an error. -/
theorem Gathers.run_of_satisfied
    (satisfied : ∀ kind, (matcher policyName queries printer).Satisfied now subjects kind) :
    let report := (matcher policyName queries printer).report subjects
      ((matcher policyName queries printer).found now subjects)
    (matcher policyName queries printer).run now subjects =
      if report.isEmpty then .error (.silent policyName) else .ok report := by
  obtain ⟨kind, query, present⟩ := exists_predicate policyName printer gathers.populated split
  rw [Matcher.run_eq present, gathers.verdict_of_satisfied fit split satisfied]
  rfl

end Fitting

/-- The values by kind of a deployment, a process and what there is of an
image. -/
def partsOf
    (deployment : Deployment)
    (process : ProcessIndicator)
    (image : FieldValues) : EntityKind → FieldValues
  | .deployment => deployment.fieldValues
  | .image => image
  | .process => process.fieldValues

theorem belongTo_partsOf
    (deployment : Deployment)
    (process : ProcessIndicator)
    {image : FieldValues}
    (belong : image.BelongTo .image) :
    ∀ kind, (partsOf deployment process image kind).BelongTo kind :=
  EntityKind.forall_iff.2
    ⟨deployment.belongTo_fieldValues, belong, process.belongTo_fieldValues⟩

/-- Each kind asked apart highlights what the whole predicate does on all values
together. -/
theorem Gathers.get_found_eq
    (gathers : compiler.Gathers policy fields added contribution scope)
    (isStandard : compiler.registry.IsStandard)
    (split : (gated scope contribution.query).split? = some queries)
    {union : FieldValues}
    {parts : EntityKind → FieldValues}
    (agree : (gated scope contribution.query).Agree union parts)
    {policyName : String}
    {printer : Printer}
    {subjects : Subjects}
    (supplied : ∀ kind, queries.ofKind kind = [] ∨ subjects.values kind = [parts kind])
    (isMatch : ∀ kind,
      ((matcher policyName queries printer).kindVerdict now subjects kind).isMatch = true)
    (matched : ((gated scope contribution.query).evaluate now union).isMatch = true)
    (key : String) :
    ((matcher policyName queries printer).found now subjects).get key =
      ((gated scope contribution.query).evaluate now union).found.get key := by
  have owner :
      ∃ kind, ∀ field ∈ (gated scope contribution.query).fields,
        field.key = key → field.kind = kind := by
    by_cases used : ∃ field ∈ (gated scope contribution.query).fields, field.key = key
    · obtain ⟨field, member, rfl⟩ := used
      exact ⟨field.kind, fun other otherMember same =>
        gathers.kind_eq_of_key_eq isStandard otherMember member same⟩
    · exact ⟨.deployment, fun field member same => absurd ⟨field, member, same⟩ used⟩
  obtain ⟨kind, owned⟩ := owner
  have unused :
      ∀ other, other ≠ kind → ∀ query,
        (matcher policyName queries printer).predicate other = some query →
        key ∉ query.fields.map (·.key) := by
    intro other different query present inKeys
    obtain ⟨field, member, same⟩ := List.mem_map.1 inKeys
    obtain ⟨inWhole, ofKind⟩ := mem_fields_of_predicate split present member
    exact different (ofKind.symm.trans (owned field inWhole same))
  rw [Matcher.get_found_of_unused unused,
    get_found_kindVerdict_matcher (supplied kind) (isMatch kind),
    Query.get_found_evaluate split agree matched owned]

variable {policyName : String} {printer : Printer} {subjects : Subjects}

theorem Gathers.agree_append
    (gathers : compiler.Gathers policy fields added contribution scope)
    (isStandard : compiler.registry.IsStandard)
    (deployment : Deployment)
    (process : ProcessIndicator)
    {image : FieldValues}
    (belong : image.BelongTo .image) :
    (gated scope contribution.query).Agree
      (deployment.fieldValues ++ process.fieldValues ++ image)
      (partsOf deployment process image) :=
  Query.agree_append (fun _ member => (gathers.registered member).owns isStandard)
    (belongTo_partsOf deployment process belong)

/-- The whole predicate matches the values together when the conjuncts of each
kind match the entity of that kind. -/
theorem Gathers.isMatch_append_iff
    (gathers : compiler.Gathers policy fields added contribution scope)
    (isStandard : compiler.registry.IsStandard)
    (split : (gated scope contribution.query).split? = some queries)
    (deployment : Deployment)
    (process : ProcessIndicator)
    {image : FieldValues}
    (belong : image.BelongTo .image) :
    ((gated scope contribution.query).evaluate now
        (deployment.fieldValues ++ process.fieldValues ++ image)).isMatch = true ↔
      (∀ conjunct ∈ queries.deployment,
          (conjunct.evaluate now deployment.fieldValues).isMatch = true) ∧
        (∀ conjunct ∈ queries.image, (conjunct.evaluate now image).isMatch = true) ∧
        ∀ conjunct ∈ queries.process,
          (conjunct.evaluate now process.fieldValues).isMatch = true := by
  rw [Query.isMatch_evaluate_iff gathers.populated split
    (gathers.agree_append isStandard deployment process belong), EntityKind.forall_iff]
  rfl

/-- Every kind is satisfied when its conjuncts match the entity of that kind,
those on images all the same image. -/
theorem satisfied_iff_conjuncts
    (deployment : Deployment)
    (images : List Image)
    (process : ProcessIndicator) :
    (∀ kind, (matcher policyName queries printer).Satisfied now
        ⟨some deployment, images, some process⟩ kind) ↔
      (∀ conjunct ∈ queries.deployment,
          (conjunct.evaluate now deployment.fieldValues).isMatch = true) ∧
        (queries.image = [] ∨ ∃ image ∈ images, ∀ conjunct ∈ queries.image,
          (conjunct.evaluate now image.fieldValues).isMatch = true) ∧
        ∀ conjunct ∈ queries.process,
          (conjunct.evaluate now process.fieldValues).isMatch = true := by
  have absorb {conjuncts : List Query} {values : FieldValues} :
      (conjuncts = [] ∨ ∀ conjunct ∈ conjuncts,
          (conjunct.evaluate now values).isMatch = true) ↔
        ∀ conjunct ∈ conjuncts, (conjunct.evaluate now values).isMatch = true := by
    apply or_iff_right_of_imp
    rintro rfl
    simp
  simp only [EntityKind.forall_iff, satisfied_matcher_iff, KindQueries.ofKind,
    Subjects.values, Option.map_some, Option.toList_some, List.mem_singleton,
    exists_eq_left, absorb, List.mem_map, exists_exists_and_eq_and]

/-- With a predicate on images, a match is a match of the whole predicate on the
values of the deployment, the process and one of the images. -/
theorem Gathers.isMatch_verdict_iff_of_image
    (gathers : compiler.Gathers policy fields added contribution scope)
    (isStandard : compiler.registry.IsStandard)
    (fit : compiler.AgesFit policy)
    (split : (gated scope contribution.query).split? = some queries)
    (present : queries.image ≠ [])
    (deployment : Deployment)
    (images : List Image)
    (process : ProcessIndicator) :
    ((matcher policyName queries printer).verdict (Query.evaluate now)
        ⟨some deployment, images, some process⟩).isMatch = true ↔
      ∃ image ∈ images, ((gated scope contribution.query).evaluate now
        (deployment.fieldValues ++ process.fieldValues ++ image.fieldValues)).isMatch
          = true := by
  have sound (kind : EntityKind) :
      (matcher policyName queries printer).kindVerdict now
        ⟨some deployment, images, some process⟩ kind ≠ .fault :=
    gathers.kindVerdict_ne_fault fit split kind
  rw [Matcher.isMatch_verdict_iff sound, satisfied_iff_conjuncts]
  simp only [gathers.isMatch_append_iff isStandard split deployment process
    (Image.belongTo_fieldValues _), present, false_or]
  constructor
  · rintro ⟨ofDeployment, ⟨image, member, ofImage⟩, ofProcess⟩
    exact ⟨image, member, ofDeployment, ofImage, ofProcess⟩
  · rintro ⟨image, member, ofDeployment, ofImage, ofProcess⟩
    exact ⟨ofDeployment, ⟨image, member, ofImage⟩, ofProcess⟩

/-- Without a predicate on images, a match is a match of the whole predicate on
the values of the deployment and the process. -/
theorem Gathers.isMatch_verdict_iff_of_no_image
    (gathers : compiler.Gathers policy fields added contribution scope)
    (isStandard : compiler.registry.IsStandard)
    (fit : compiler.AgesFit policy)
    (split : (gated scope contribution.query).split? = some queries)
    (absent : queries.image = [])
    (deployment : Deployment)
    (images : List Image)
    (process : ProcessIndicator) :
    ((matcher policyName queries printer).verdict (Query.evaluate now)
        ⟨some deployment, images, some process⟩).isMatch = true ↔
      ((gated scope contribution.query).evaluate now
        (deployment.fieldValues ++ process.fieldValues)).isMatch = true := by
  have sound (kind : EntityKind) :
      (matcher policyName queries printer).kindVerdict now
        ⟨some deployment, images, some process⟩ kind ≠ .fault :=
    gathers.kindVerdict_ne_fault fit split kind
  rw [Matcher.isMatch_verdict_iff sound, satisfied_iff_conjuncts,
    ← FieldValues.append_empty (deployment.fieldValues ++ process.fieldValues),
    gathers.isMatch_append_iff isStandard split deployment process
      (FieldValues.belongTo_empty .image)]
  simp [absent]

/-- What is seen of a single image: its values, or none if no conjunct reads
images. -/
def Sees (queries : KindQueries) (image : Image) (values : FieldValues) : Prop :=
  values = image.fieldValues ∨ queries.image = [] ∧ values = {}

theorem Sees.belongTo
    {image : Image}
    {values : FieldValues}
    (sees : Sees queries image values) :
    values.BelongTo .image := by
  rcases sees with rfl | ⟨-, rfl⟩
  · exact image.belongTo_fieldValues
  · exact FieldValues.belongTo_empty .image

theorem Sees.satisfied_iff
    {image : Image}
    {values : FieldValues}
    (sees : Sees queries image values) :
    (queries.image = [] ∨ ∃ seen ∈ [image], ∀ conjunct ∈ queries.image,
        (conjunct.evaluate now seen.fieldValues).isMatch = true) ↔
      ∀ conjunct ∈ queries.image, (conjunct.evaluate now values).isMatch = true := by
  rcases sees with rfl | ⟨absent, rfl⟩
  · simp only [List.mem_singleton, exists_eq_left]
    apply or_iff_right_of_imp
    intro absent
    simp [absent]
  · simp [absent]

/-- On a single image the printer is given the highlights of the whole
predicate. -/
theorem Gathers.exists_alerts_eq
    (gathers : compiler.Gathers policy fields added contribution scope)
    (isStandard : compiler.registry.IsStandard)
    (fit : compiler.AgesFit policy)
    (split : (gated scope contribution.query).split? = some queries)
    (deployment : Deployment)
    {image : Image}
    (process : ProcessIndicator)
    {values : FieldValues}
    (sees : Sees queries image values)
    {whole : Highlights}
    (unsplit : (gated scope contribution.query).evaluate now
      (deployment.fieldValues ++ process.fieldValues ++ values) = .matched whole) :
    ∃ highlights,
      (matcher policyName queries printer).verdict (Query.evaluate now)
          ⟨some deployment, [image], some process⟩ = .matched highlights ∧
        printer.alerts highlights = printer.alerts whole := by
  have unsplitMatch :
      ((gated scope contribution.query).evaluate now
        (deployment.fieldValues ++ process.fieldValues ++ values)).isMatch = true := by
    rw [unsplit]
    rfl
  have sound (kind : EntityKind) :
      (matcher policyName queries printer).kindVerdict now
        ⟨some deployment, [image], some process⟩ kind ≠ .fault :=
    gathers.kindVerdict_ne_fault fit split kind
  have satisfied :
      ∀ kind, (matcher policyName queries printer).Satisfied now
        ⟨some deployment, [image], some process⟩ kind := by
    rw [satisfied_iff_conjuncts, sees.satisfied_iff]
    exact (gathers.isMatch_append_iff isStandard split deployment process sees.belongTo).1
      unsplitMatch
  have isMatch (kind : EntityKind) :
      ((matcher policyName queries printer).kindVerdict now
        ⟨some deployment, [image], some process⟩ kind).isMatch = true :=
    (Matcher.isMatch_kindVerdict_iff (sound kind)).2 (satisfied kind)
  have supplied (kind : EntityKind) :
      queries.ofKind kind = [] ∨
        Subjects.values ⟨some deployment, [image], some process⟩ kind =
          [partsOf deployment process values kind] := by
    cases kind with
    | deployment => exact .inr rfl
    | process => exact .inr rfl
    | image =>
        rcases sees with rfl | ⟨absent, -⟩
        · exact .inr rfl
        · exact .inl absent
  refine ⟨_, Matcher.verdict_eq_matched_iff.2 ⟨isMatch, rfl⟩, ?_⟩
  apply Printer.alerts_congr
  intro key _
  rw [gathers.get_found_eq isStandard split
    (gathers.agree_append isStandard deployment process sees.belongTo) supplied isMatch
    unsplitMatch key, unsplit, Verdict.found_matched]

/-- A policy is not satisfied while an entity that it looks at is missing. -/
theorem Gathers.run_of_missing
    (gathers : compiler.Gathers policy fields added contribution scope)
    (fit : compiler.AgesFit policy)
    (split : (gated scope contribution.query).split? = some queries)
    {kind : EntityKind}
    {query : Query}
    (present : (matcher policyName queries printer).predicate kind = some query)
    (missing : subjects.values kind = []) :
    (matcher policyName queries printer).run now subjects = .ok {} := by
  apply gathers.run_of_not_satisfied fit split
  intro satisfied
  exact Matcher.not_satisfied_of_values_eq_nil present missing (satisfied kind)

end Unsplit

/-- Compiling, splitting and running agrees with evaluating the whole predicate
on the values of all entities together, in what matches and in what is told of
a single image.  Whatever a predicate asks for, it is not satisfied while its
entity is missing. -/
theorem run_agrees_with_unsplit
    {compiler : Compiler}
    {policy : Policy}
    {matcher : Matcher}
    (isStandard : compiler.registry.IsStandard)
    (fit : compiler.AgesFit policy)
    (compiled : compiler.compile policy = .ok matcher)
    (now : Calendar.Instant) :
    ∃ merged, compiler.gatedContribution policy = .ok merged ∧
      (∀ deployment images process,
        ∃ violations,
          matcher.run now ⟨some deployment, images, some process⟩ = .ok violations ∧
            (matcher.image.isSome = true →
              (violations.isEmpty = false ↔
                ∃ image ∈ images, (merged.query.evaluate now
                  (deployment.fieldValues ++ process.fieldValues ++
                    image.fieldValues)).isMatch = true)) ∧
            (matcher.image = none →
              (violations.isEmpty = false ↔
                (merged.query.evaluate now
                  (deployment.fieldValues ++ process.fieldValues)).isMatch = true))) ∧
      (∀ deployment image process union highlights,
        union = deployment.fieldValues ++ process.fieldValues ++ image.fieldValues ∨
            matcher.image = none ∧ union = deployment.fieldValues ++ process.fieldValues →
          merged.query.evaluate now union = .matched highlights →
          ∃ violations,
            matcher.run now ⟨some deployment, [image], some process⟩ = .ok violations ∧
              violations.alerts = merged.printer.alerts highlights) ∧
      ∀ subjects kind query,
        matcher.predicate kind = some query → subjects.values kind = [] →
          matcher.run now subjects = .ok {} := by
  obtain ⟨fields, added, contribution, scope, queries, gathers, split, rfl⟩ :=
    exists_gathers_of_compile_eq_ok compiled
  obtain ⟨kind, query, present⟩ :=
    exists_predicate policy.name contribution.printer gathers.populated split
  have sound (subjects : Subjects) :
      (Compiler.matcher policy.name queries contribution.printer).verdict
        (Query.evaluate now) subjects ≠ .fault :=
    Matcher.verdict_ne_fault (gathers.kindVerdict_ne_fault fit split)
  have gathered := gatedContribution_eq_ok_iff.2 ⟨fields, added, contribution, scope, gathers, rfl⟩
  refine ⟨_, gathered, ?_, ?_, ?_⟩
  · intro deployment images process
    have supplied :
        (⟨some deployment, images, some process⟩ : Subjects).process.isSome = true := rfl
    obtain ⟨violations, ran, reported, -⟩ :=
      Matcher.run_of_process present supplied (sound _)
    refine ⟨violations, ran, fun hasImage => ?_, fun noImage => ?_⟩
    · rw [reported]
      refine gathers.isMatch_verdict_iff_of_image isStandard fit split ?_ _ _ _
      rintro none
      simp [Compiler.matcher, none, Query.all?] at hasImage
    · rw [reported]
      exact gathers.isMatch_verdict_iff_of_no_image isStandard fit split
        (Query.all?_eq_none_iff.1 noImage) _ _ _
  · intro deployment image process union highlights seen unsplit
    have supplied :
        (⟨some deployment, [image], some process⟩ : Subjects).process.isSome = true := rfl
    obtain ⟨violations, ran, reported, told⟩ :=
      Matcher.run_of_process present supplied (sound _)
    have sees :
        ∃ values, Sees queries image values ∧
          union = deployment.fieldValues ++ process.fieldValues ++ values := by
      rcases seen with rfl | ⟨noImage, rfl⟩
      · exact ⟨_, .inl rfl, rfl⟩
      · exact ⟨{}, .inr ⟨Query.all?_eq_none_iff.1 noImage, rfl⟩,
          (FieldValues.append_empty _).symm⟩
    obtain ⟨values, sees, rfl⟩ := sees
    obtain ⟨found, matched, same⟩ :=
      gathers.exists_alerts_eq isStandard fit split deployment process sees unsplit
    exact ⟨violations, ran, (told found matched).trans same⟩
  · intro subjects kind query present missing
    exact gathers.run_of_missing fit split present missing

/-- Constraints that a deployment is privileged and an image was never scanned. -/
def privilegedUnscanned : Policy where
  name := "unscanned"
  fields := some { noScanExists := some true, privileged := some true }

/-- An image with the time of its scan. -/
def timedImage : Image where
  id := "new"
  scan := some { scanTime := some ⟨⟨2001, 2, 4⟩, 0, 0⟩ }

/-- A policy on privileged deployments whose images were never scanned matches if one of
them was not, and tells what the whole predicate does.  It is not satisfied without images, although its
leaf on images asks for missing values. -/
theorem run_agrees_with_unsplit_of_no_scan :
    ∃ matcher,
      ({ registry := .standard } : Compiler).compile privilegedUnscanned = .ok matcher ∧
      ∀ now process,
        (∃ violations,
          matcher.run now ⟨some .privileged, [timedImage, { id := "old" }], some process⟩ =
              .ok violations ∧
            violations.isEmpty = false) ∧
        (∃ violations,
          matcher.run now ⟨some .privileged, [{ id := "old" }], some process⟩ = .ok violations ∧
            violations.alerts =
              [{ message := "Image has not been scanned" },
                { message := "Privileged container found" }]) ∧
        matcher.run now ⟨some .privileged, [], some process⟩ = .ok {} := by
  refine ⟨_, rfl, fun now process => ?_⟩
  obtain ⟨merged, gathered, reported, told, missing⟩ :=
    @run_agrees_with_unsplit { registry := .standard } privilegedUnscanned
      _ FieldRegistry.isStandard_standard
      (fun fields present => by
        cases present
        exact Check.agesFit_standard (by simp) (by simp))
      rfl now
  cases gathered
  refine ⟨?_, ?_, missing _ .image _ rfl rfl⟩
  · obtain ⟨violations, ran, ofImages, -⟩ :=
      reported .privileged [timedImage, { id := "old" }] process
    exact ⟨violations, ran, (ofImages rfl).2 ⟨{ id := "old" }, by simp, rfl⟩⟩
  · obtain ⟨violations, ran, alerts⟩ :=
      told .privileged { id := "old" } process _ _ (.inl rfl) rfl
    exact ⟨violations, ran, alerts⟩

end Compiler
end WorkloadPolicy
