import WorkloadPolicy.Proofs.Entries

/-!
# Required entries

An entry of a map is required by two leaves of which one must match: one finds an entry
whose key matches and whose value does not, the other that no key matches.  Together they
report that no entry satisfies the policy, but the first also reports an entry with a wrong
value next to one that satisfies the policy.  Where a policy judges alike all entries whose
keys match, that cannot happen.
-/

namespace WorkloadPolicy

namespace KeyValuePolicy

variable {policy : KeyValuePolicy} {entries : List (String × String)}

/-- The values of all entries whose keys match are as the policy asks for, or none is. -/
def JudgesAlike (policy : KeyValuePolicy) (entries : List (String × String)) : Prop :=
  ∀ first ∈ entries, ∀ second ∈ entries, policy.selects first = true →
    policy.selects second = true → policy.accepts first = policy.accepts second

instance (policy : KeyValuePolicy) (entries : List (String × String)) :
    Decidable (policy.JudgesAlike entries) :=
  inferInstanceAs (Decidable (∀ first ∈ entries, ∀ second ∈ entries, _))

/-- Entries that are not judged alike have one that satisfies the policy and one whose
value is wrong. -/
theorem not_judgesAlike_iff :
    ¬ policy.JudgesAlike entries ↔
      (∃ entry ∈ entries, policy.satisfiedBy entry = true) ∧
        ∃ entry ∈ entries, policy.selects entry = true ∧ policy.accepts entry = false := by
  constructor
  · intro unlike
    simp only [JudgesAlike, not_forall] at unlike
    obtain ⟨first, inFirst, second, inSecond, selectsFirst, selectsSecond, different⟩ := unlike
    cases accepted : policy.accepts first with
    | true =>
        have refused : policy.accepts second = false := by simpa [accepted] using different
        exact ⟨⟨first, inFirst, by simp [satisfiedBy, selectsFirst, accepted]⟩,
          second, inSecond, selectsSecond, refused⟩
    | false =>
        have other : policy.accepts second = true := by simpa [accepted] using different
        exact ⟨⟨second, inSecond, by simp [satisfiedBy, selectsSecond, other]⟩,
          first, inFirst, selectsFirst, accepted⟩
  · rintro ⟨⟨entry, member, satisfied⟩, wrong, inEntries, selected, refused⟩ alike
    obtain ⟨selects, accepts⟩ := Bool.and_eq_true_iff.1 satisfied
    have same := alike entry member wrong inEntries selects selected
    rw [accepts, refused] at same
    contradiction

/-- Some entry has a wrong value, or no key matches, if no entry satisfies the policy or
the entries are not judged alike. -/
theorem refused_or_unselected_iff :
    ((∃ entry ∈ entries, policy.selects entry = true ∧ policy.accepts entry = false) ∨
        ∀ entry ∈ entries, policy.selects entry = false) ↔
      (∀ entry ∈ entries, policy.satisfiedBy entry = false) ∨ ¬ policy.JudgesAlike entries := by
  rw [not_judgesAlike_iff]
  constructor
  · rintro (wrong | unselected)
    · by_cases satisfied : ∃ entry ∈ entries, policy.satisfiedBy entry = true
      · exact .inr ⟨satisfied, wrong⟩
      · exact .inl fun entry member => by simpa using fun holds => satisfied ⟨entry, member, holds⟩
    · exact .inl fun entry member => by simp [satisfiedBy, unselected entry member]
  · rintro (unsatisfied | ⟨-, wrong⟩)
    · by_cases selected : ∃ entry ∈ entries, policy.selects entry = true
      · obtain ⟨entry, member, selects⟩ := selected
        have refused := unsatisfied entry member
        rw [satisfiedBy, selects, Bool.true_and] at refused
        exact .inl ⟨entry, member, selects, refused⟩
      · exact .inr fun entry member => by simpa using fun holds => selected ⟨entry, member, holds⟩
    · exact .inl wrong

end KeyValuePolicy

/-! ## The leaves -/

/-- A leaf for the absence of a key matches where the key of no entry matches. -/
theorem FieldQuery.isMatch_evaluate_mapKeyAbsent
    {now : Calendar.Instant}
    {field : FieldQuery}
    {pattern : Pattern}
    (absent : field.operation = .mapKeyAbsent pattern)
    (values : List String) :
    (field.evaluate now values).isMatch = true ↔
      ∀ value ∈ values, pattern.isMatch (splitEntry value).1 = false := by
  have evaluated :
      field.evaluate now values =
        if values.any fun value => pattern.isMatch (splitEntry value).1 then
          .unmatched
        else
          .matched {} := by
    simp only [evaluate, absent]
  rw [evaluated]
  split
  · rename_i present
    simpa using present
  · rename_i unselected
    simpa using unselected

namespace Contribution

/-- A contribution requires an entry: on flattened values it matches if no entry satisfies
a policy, or if the entries are not judged alike.  It has one message to tell. -/
structure Requires
    (now : Calendar.Instant)
    (values : FieldValues)
    (entries : List (String × String))
    (policy : KeyValuePolicy)
    (message : String)
    (contribution : Contribution) : Prop where
  sound : contribution.query.evaluate now values ≠ .fault
  isMatch_iff :
    (contribution.query.evaluate now values).isMatch = true ↔
      (∀ entry ∈ entries, policy.satisfiedBy entry = false) ∨ ¬ policy.JudgesAlike entries
  printer : contribution.printer = .fixed message

/-- Keys make no difference to what is required. -/
theorem Requires.keyed
    {now : Calendar.Instant}
    {values : FieldValues}
    {entries : List (String × String)}
    {policy : KeyValuePolicy}
    {message : String}
    {contribution : Contribution}
    (requires : contribution.Requires now values entries policy message)
    (plain : contribution.query.IsPlain)
    (check : String) :
    (contribution.keyed check).Requires now values entries policy message := by
  refine ⟨?_, ?_, ?_⟩
  · rw [evaluate_keyed plain]
    exact fun isFault => requires.sound (Verdict.keyed_eq_fault_iff.1 isFault)
  · rw [isMatch_keyed plain]
    exact requires.isMatch_iff
  · show contribution.printer.keyed check = _
    rw [requires.printer]
    rfl

end Contribution

section Demands

variable
  {check key : String}
  {label : FieldLabel}
  {policy : KeyValuePolicy}
  {keyPattern : Pattern}
  {values : FieldValues}
  {entries : List (String × String)}
  (named : nonEmpty? policy.key = some key)
  (keyCompiled : compileWhole check key = .ok keyPattern)
  (columnar : values.get label.metadata.path = entries.map mapEntry)
  (plain : ∀ entry ∈ entries, '=' ∉ entry.1.toList)
  (now : Calendar.Instant)

include named keyCompiled columnar plain

namespace KeyValuePolicy

/-- The leaf for a wrong value matches if some entry has one. -/
theorem isMatch_negated_iff
    {valuePattern : Pattern}
    (valueCompiled :
      FieldDemand.compileValue check (nonEmpty? policy.value) = .ok (some valuePattern)) :
    (Query.evaluate now values
        (.leaf (.ofField label label.metadata
          (.mapEntry keyPattern (some valuePattern) true)))).isMatch = true ↔
      ∃ entry ∈ entries, policy.selects entry = true ∧ policy.accepts entry = false := by
  have holds : ∀ entry ∈ entries,
      Operation.holds now (mapEntry entry) (.mapEntry keyPattern (some valuePattern) true) =
        (policy.selects entry && !policy.accepts entry) := by
    intro entry member
    rw [← isMatch_eq_selects named keyCompiled, ← all_isMatch_eq_accepts valueCompiled,
      Operation.holds, splitEntry_mapEntry (plain entry member)]
    simp
  rw [Query.evaluate_leaf, FieldQuery.isMatch_evaluate_iff rfl rfl]
  show (∃ value ∈ values.get label.metadata.path, _) ↔ _
  rw [columnar]
  constructor
  · rintro ⟨_, member, isHeld⟩
    obtain ⟨entry, inEntries, rfl⟩ := List.mem_map.1 member
    have both := (holds entry inEntries).symm.trans isHeld
    exact ⟨entry, inEntries, by simpa using both⟩
  · rintro ⟨entry, member, selected, refused⟩
    refine ⟨mapEntry entry, List.mem_map_of_mem member, (holds entry member).trans ?_⟩
    rw [selected, refused]
    rfl

/-- The leaf for the absence of a key matches if the policy selects no entry. -/
theorem isMatch_absent_iff :
    (Query.evaluate now values
        (.leaf (.ofField label label.metadata (.mapKeyAbsent keyPattern)))).isMatch = true ↔
      ∀ entry ∈ entries, policy.selects entry = false := by
  rw [Query.evaluate_leaf, FieldQuery.isMatch_evaluate_mapKeyAbsent rfl]
  show (∀ value ∈ values.get label.metadata.path, _) ↔ _
  rw [columnar, List.forall_mem_map]
  refine forall₂_congr fun entry member => ?_
  rw [splitEntry_mapEntry (plain entry member), isMatch_eq_selects named keyCompiled]

end KeyValuePolicy

omit keyCompiled in
/-- A demand about a required entry requires one of the entries of its map. -/
theorem FieldDemand.requires_of_requiredEntry
    {subject : String}
    {outcome : Option Contribution}
    (contributed :
      (requiredEntry subject key (nonEmpty? policy.value)).contribution? check label
        label.metadata = .ok outcome) :
    ∃ contribution, outcome = some contribution ∧
      contribution.Requires now values entries policy
        (requiredMessage subject key (nonEmpty? policy.value)) := by
  obtain ⟨keyPattern, keyCompiled, rest⟩ := Outcome.bind_eq_ok_iff.1 contributed
  obtain ⟨valuePattern, valueCompiled, equal⟩ := Outcome.bind_eq_ok_iff.1 rest
  cases equal
  let leaf (operation : Operation) : Query := .leaf (.ofField label label.metadata operation)
  let wrong := valuePattern.toList.map fun pattern => leaf (.mapEntry keyPattern (some pattern) true)
  have fit : ∀ part ∈ wrong ++ [leaf (.mapKeyAbsent keyPattern)], ∀ field ∈ part.fields,
      field.operation.agesFit = true := by
    intro part member field inPart
    rcases List.mem_append.1 member with inWrong | last
    · obtain ⟨pattern, -, rfl⟩ := List.mem_map.1 inWrong
      cases List.mem_singleton.1 inPart
      rfl
    · cases List.mem_singleton.1 last
      cases List.mem_singleton.1 inPart
      rfl
  have wrongly :
      (∃ part ∈ wrong, (part.evaluate now values).isMatch = true) ↔
        ∃ entry ∈ entries, policy.selects entry = true ∧ policy.accepts entry = false := by
    cases valuePattern with
    | none =>
        have accepted := KeyValuePolicy.all_isMatch_eq_accepts valueCompiled
        simp [wrong, ← accepted]
    | some pattern =>
        rw [← KeyValuePolicy.isMatch_negated_iff named keyCompiled columnar plain now valueCompiled]
        simp [wrong, leaf]
  have absent := KeyValuePolicy.isMatch_absent_iff named keyCompiled columnar plain now
  cases combined : Query.any? (wrong ++ [leaf (.mapKeyAbsent keyPattern)]) with
  | none => simp at combined
  | some query =>
      refine ⟨⟨query, _⟩, rfl, ?_, ?_, rfl⟩
      · apply Query.evaluate_ne_fault now
        rw [Query.fields_of_any?_eq_some combined, List.forall_mem_flatMap]
        exact fit
      · show (query.evaluate now values).isMatch = true ↔ _
        rw [Query.isMatch_of_any?_eq_some combined fit, ← KeyValuePolicy.refused_or_unselected_iff,
          ← wrongly, ← absent]
        simp [leaf, or_and_right, exists_or]

end Demands

/-! ## The checks -/

namespace EntryCheck

/-- The check of labels that are required. -/
def requiredLabel : EntryCheck where
  name := "required label"
  map := .labels
  subject := "label"
  source fields := fields.labelRequired

/-- The check of annotations that are required. -/
def requiredAnnotation : EntryCheck where
  name := "required annotation"
  map := .annotations
  subject := "annotation"
  source fields := fields.annotationRequired

/-- The check of image labels that are required. -/
def requiredImageLabel : EntryCheck where
  name := "required image label"
  map := .imageLabels
  subject := "image label"
  source fields := fields.imageLabelRequired

/-- The standard checks of entries that are required. -/
def required : List EntryCheck :=
  [requiredLabel, requiredAnnotation, requiredImageLabel]

theorem standardLeaf?_of_mem_required
    {check : EntryCheck}
    (listed : check ∈ required) :
    Check.standardLeaf? check.name =
      some
        (.field (.entry check.name check.map.label (.requiredEntry check.subject)
          check.source)) := by
  simp only [required, List.mem_cons, List.not_mem_nil, or_false] at listed
  rcases listed with rfl | rfl | rfl <;> rfl

end EntryCheck

namespace LeafCheck

section Required

variable
  {check : EntryCheck}
  (listed : check ∈ EntryCheck.required)
  {leaf : LeafCheck}
  (standard : Check.standardLeaf? check.name = some leaf)
  {registry : FieldRegistry}
  (isStandard : registry.IsStandard)
  {fields : PolicyFields}
  {policy : KeyValuePolicy}
  (set : check.source fields = some policy)
  (keyed : nonEmpty? policy.key ≠ none)
  (now : Calendar.Instant)
  (deployment : Deployment)
  (image : Image)
  (plain : check.map.HasPlainKeys deployment image)

include listed standard isStandard set keyed

include plain in
/-- What a check of required entries contributes requires an entry of its map. -/
theorem exists_requires_of_required
    {outcome : Option Contribution}
    (contributed : leaf.contribution? fields registry = .ok outcome) :
    ∃ contribution, outcome = some contribution ∧
      contribution.Requires now (check.map.values deployment image)
        (check.map.entries deployment image) policy
        (FieldDemand.requiredMessage check.subject (policy.key.getD "")
          (nonEmpty? policy.value)) := by
  obtain ⟨key, named⟩ := Option.ne_none_iff_exists'.1 keyed
  have given : policy.key = some key := (nonEmpty?_eq_some_iff.1 named).1
  cases (EntryCheck.standardLeaf?_of_mem_required listed).symm.trans standard
  obtain ⟨plain?, demanded, run, rfl⟩ := exists_plain_of_entry isStandard set named contributed
  obtain ⟨bare, rfl, requires⟩ :=
    FieldDemand.requires_of_requiredEntry named (check.map.get_values deployment image) plain now
      demanded
  rw [given]
  exact ⟨_, rfl, requires.keyed (isPlain_of_plainContribution? run) _⟩

/-- A check of required entries fails over its field or over the patterns of a policy. -/
theorem lookup_eq_none_or_of_required
    {error : CheckError}
    (failed : leaf.contribution? fields registry = .error error) :
    registry.lookup check.map.label = none ∨ ¬ policy.Compiles := by
  obtain ⟨key, named⟩ := Option.ne_none_iff_exists'.1 keyed
  cases (EntryCheck.standardLeaf?_of_mem_required listed).symm.trans standard
  apply (lookup_eq_none_or_of_entry isStandard set named failed).imp_right
  exact KeyValuePolicy.not_compiles_of_error named

include plain

/-- A standard check of required entries, given a policy with a key, matches if no entry of
its map satisfies the policy, or if the policy does not judge alike the entries whose keys
match.  In that case only, a check that disallows entries of the same map by the same policy
matches as well. -/
theorem requires_entry :
    match leaf.contribution? fields registry with
    | .ok outcome =>
        ∃ contribution, outcome = some contribution ∧
          contribution.Requires now (check.map.values deployment image)
            (check.map.entries deployment image) policy
            (FieldDemand.requiredMessage check.subject (policy.key.getD "")
              (nonEmpty? policy.value)) ∧
          ∀ other ∈ DisallowedCheck.standard, other.map = check.map →
            other.source fields = some policy →
            ∀ otherLeaf ∈ Check.standardLeaf? other.name, ∀ disallowing,
              otherLeaf.contribution? fields registry = .ok (some disallowing) →
              ((contribution.query.evaluate now
                    (check.map.values deployment image)).isMatch = true ∧
                  (disallowing.query.evaluate now
                    (check.map.values deployment image)).isMatch = true ↔
                ¬ policy.JudgesAlike (check.map.entries deployment image))
    | .error _ => registry.lookup check.map.label = none ∨ ¬ policy.Compiles := by
  cases contributed : leaf.contribution? fields registry with
  | ok outcome =>
      obtain ⟨contribution, rfl, requires⟩ :=
        exists_requires_of_required listed standard isStandard set keyed now deployment image
          plain contributed
      refine ⟨contribution, rfl, requires, ?_⟩
      intro other otherListed sameMap otherSet otherLeaf otherStandard disallowing otherRun
      rw [← sameMap] at plain requires ⊢
      obtain ⟨_, ⟨⟩, goesBy⟩ :=
        exists_goesBy_of_disallowed otherListed otherStandard isStandard otherSet keyed now
          deployment image plain otherRun
      rw [requires.isMatch_iff, goesBy.isMatch_iff]
      constructor
      · rintro ⟨unsatisfied | unlike, entry, member, satisfied⟩
        · exact absurd satisfied (Bool.eq_false_iff.1 (unsatisfied entry member))
        · exact unlike
      · intro unlike
        exact ⟨.inr unlike, (KeyValuePolicy.not_judgesAlike_iff.1 unlike).1⟩
  | error error =>
      exact lookup_eq_none_or_of_required listed standard isStandard set keyed contributed

end Required

/-! ### Two annotations -/

end LeafCheck

/-- A policy about the annotations `1` and `2`. -/
def KeyValuePolicy.oneOrTwo : KeyValuePolicy where
  key := some "1|2"
  value := some "1"

/-- A deployment with some annotations. -/
def Deployment.annotated (annotations : List (String × String)) : Deployment where
  id := ""
  name := ""
  namespaceName := ""
  clusterId := ""
  annotations := annotations

namespace LeafCheck

open KeyValuePolicy (oneOrTwo)

/-- Where both annotations have the value that a policy asks for, the check does not
match. -/
theorem requires_entry_of_two :
    ∃ leaf, Check.standardLeaf? "required annotation" = some leaf ∧
      ∀ now, ∃ contribution,
        leaf.contribution? { annotationRequired := some oneOrTwo } .standard =
          .ok (some contribution) ∧
        (contribution.query.evaluate now
          (Deployment.annotated [("1", "1"), ("2", "1")]).fieldValues).isMatch = false := by
  obtain ⟨leaf, standard⟩ : ∃ leaf, Check.standardLeaf? "required annotation" = some leaf :=
    ⟨_, rfl⟩
  refine ⟨leaf, standard, fun now => ?_⟩
  have requires :=
    requires_entry
      (List.mem_cons_of_mem _ List.mem_cons_self : EntryCheck.requiredAnnotation ∈ _) standard
      FieldRegistry.isStandard_standard
      (rfl : EntryCheck.requiredAnnotation.source { annotationRequired := some oneOrTwo } = _)
      (by decide) now (.annotated [("1", "1"), ("2", "1")]) { id := "" } (by decide)
  split at requires
  · obtain ⟨contribution, rfl, requires, -⟩ := requires
    refine ⟨contribution, ‹_›, ?_⟩
    rw [Bool.eq_false_iff]
    intro isMatch
    have either := requires.isMatch_iff.1 isMatch
    revert either
    decide +kernel
  · rcases requires with absent | broken
    · contradiction
    · exact absurd (by decide +kernel) broken

/-- A deployment whose annotation `1` satisfies a policy is reported as lacking it, because
its annotation `2` has another value.  It is reported for having it as well. -/
theorem not_requires_entry :
    ∃ leaf otherLeaf,
      Check.standardLeaf? "required annotation" = some leaf ∧
      Check.standardLeaf? "disallowed annotation" = some otherLeaf ∧
      oneOrTwo.satisfiedBy ("1", "1") = true ∧
      ∀ now, ∃ contribution disallowing,
        leaf.contribution?
            { annotationRequired := some oneOrTwo, annotationDisallowed := some oneOrTwo }
            .standard = .ok (some contribution) ∧
        otherLeaf.contribution?
            { annotationRequired := some oneOrTwo, annotationDisallowed := some oneOrTwo }
            .standard = .ok (some disallowing) ∧
        (contribution.query.evaluate now
          (Deployment.annotated [("1", "1"), ("2", "2")]).fieldValues).isMatch = true ∧
        (disallowing.query.evaluate now
          (Deployment.annotated [("1", "1"), ("2", "2")]).fieldValues).isMatch = true := by
  obtain ⟨leaf, standard⟩ : ∃ leaf, Check.standardLeaf? "required annotation" = some leaf :=
    ⟨_, rfl⟩
  obtain ⟨otherLeaf, otherStandard⟩ :
      ∃ leaf, Check.standardLeaf? "disallowed annotation" = some leaf :=
    ⟨_, rfl⟩
  refine ⟨leaf, otherLeaf, standard, otherStandard, by decide +kernel, fun now => ?_⟩
  let fields : PolicyFields :=
    { annotationRequired := some oneOrTwo, annotationDisallowed := some oneOrTwo }
  have listed : EntryCheck.requiredAnnotation ∈ EntryCheck.required :=
    List.mem_cons_of_mem _ List.mem_cons_self
  have otherListed : DisallowedCheck.annotation ∈ DisallowedCheck.standard :=
    List.mem_cons_of_mem _ List.mem_cons_self
  have set : EntryCheck.requiredAnnotation.source fields = some oneOrTwo := rfl
  have otherSet : DisallowedCheck.annotation.source fields = some oneOrTwo := rfl
  have isStandard := FieldRegistry.isStandard_standard
  have compiles : oneOrTwo.Compiles := by decide +kernel
  have unlike : ¬ oneOrTwo.JudgesAlike [("1", "1"), ("2", "2")] := by decide +kernel
  cases run : leaf.contribution? fields .standard with
  | error error =>
      rcases lookup_eq_none_or_of_required listed standard isStandard set (by decide) run with
        absent | broken
      · contradiction
      · exact absurd compiles broken
  | ok outcome =>
      cases otherRun : otherLeaf.contribution? fields .standard with
      | error error =>
          rcases lookup_eq_none_or_of_disallowed otherListed otherStandard isStandard otherSet
            (by decide) otherRun with absent | broken
          · contradiction
          · exact absurd compiles broken
      | ok otherOutcome =>
          obtain ⟨contribution, rfl, requires⟩ :=
            exists_requires_of_required listed standard isStandard set (by decide) now
              (.annotated [("1", "1"), ("2", "2")]) { id := "" } (by decide) run
          obtain ⟨disallowing, rfl, goesBy⟩ :=
            exists_goesBy_of_disallowed otherListed otherStandard isStandard otherSet (by decide)
              now (.annotated [("1", "1"), ("2", "2")]) { id := "" } (by decide) otherRun
          exact ⟨contribution, disallowing, rfl, rfl, requires.isMatch_iff.2 (.inr unlike),
            goesBy.isMatch_iff.2 (KeyValuePolicy.not_judgesAlike_iff.1 unlike).1⟩

end LeafCheck
end WorkloadPolicy
