import WorkloadPolicy.Proofs.Records
import WorkloadPolicy.Proofs.Values

/-!
# Entries of maps

A policy about the entries of a map has a pattern for keys and may have one for values.
Entries are flattened to texts, and taken apart again both to be tested and to be told
of.  As long as no key contains the mark between keys and values, the checks of entries
that are disallowed see the entries as they are, and tell of each that satisfies the
policy with its own key and value.
-/

namespace WorkloadPolicy

/-! ## Policies about entries -/

/-- Whether a value matches a pattern as a whole. -/
def Pattern.covers (pattern value : String) : Bool :=
  (Pattern.compile? true (Pattern.anchored pattern)).any (·.isMatch value)

namespace KeyValuePolicy

/-- Whether the key of an entry is one that a policy is about. -/
def selects (policy : KeyValuePolicy) (entry : String × String) : Bool :=
  (nonEmpty? policy.key).any fun pattern => Pattern.covers pattern entry.1

/-- Whether the value of an entry is as a policy asks for, if it asks for one. -/
def accepts (policy : KeyValuePolicy) (entry : String × String) : Bool :=
  (nonEmpty? policy.value).all fun pattern => Pattern.covers pattern entry.2

/-- Whether an entry has both a key and a value that match. -/
def satisfiedBy (policy : KeyValuePolicy) (entry : String × String) : Bool :=
  policy.selects entry && policy.accepts entry

/-- The patterns of a policy can be compiled. -/
def Compiles (policy : KeyValuePolicy) : Prop :=
  ∀ text ∈ (nonEmpty? policy.key).toList ++ (nonEmpty? policy.value).toList,
    Pattern.compile? true (Pattern.anchored text) ≠ none

instance : DecidablePred Compiles := fun policy =>
  inferInstanceAs
    (Decidable
      (∀ text ∈ (nonEmpty? policy.key).toList ++ (nonEmpty? policy.value).toList, _))

section Patterns

variable
  {policy : KeyValuePolicy}
  {check key : String}
  {keyPattern : Pattern}
  {valuePattern : Option Pattern}

theorem Compiles.exists_patterns
    (compiles : policy.Compiles)
    (named : nonEmpty? policy.key = some key)
    (check : String) :
    ∃ keyPattern valuePattern, compileWhole check key = .ok keyPattern ∧
      FieldDemand.compileValue check (nonEmpty? policy.value) = .ok valuePattern := by
  obtain ⟨ofKey, ofValue⟩ := List.forall_mem_append.1 compiles
  obtain ⟨keyPattern, keyFound⟩ :=
    Option.ne_none_iff_exists'.1 (ofKey key (by rw [named]; simp))
  have keyCompiled : compileWhole check key = .ok keyPattern := compileWhole_eq_ok_iff.2 keyFound
  cases valued : nonEmpty? policy.value with
  | none => exact ⟨keyPattern, none, keyCompiled, rfl⟩
  | some value =>
      obtain ⟨pattern, found⟩ :=
        Option.ne_none_iff_exists'.1 (ofValue value (by rw [valued]; simp))
      refine ⟨keyPattern, some pattern, keyCompiled, ?_⟩
      rw [FieldDemand.compileValue, compileWhole_eq_ok_iff.2 found]
      rfl

/-- A run that compiles the patterns of a policy fails only over them. -/
theorem not_compiles_of_error
    {α : Type}
    {result : Pattern → Option Pattern → α}
    {error : CheckError}
    (named : nonEmpty? policy.key = some key)
    (failed :
      (do
        let keyPattern ← compileWhole check key
        let valuePattern ← FieldDemand.compileValue check (nonEmpty? policy.value)
        .ok (result keyPattern valuePattern)) = .error error) :
    ¬ policy.Compiles := by
  intro compiles
  obtain ⟨keyPattern, valuePattern, keyCompiled, valueCompiled⟩ :=
    compiles.exists_patterns named check
  rw [keyCompiled, valueCompiled] at failed
  contradiction

theorem isMatch_eq_covers
    {text : String}
    {pattern : Pattern}
    (compiled : compileWhole check text = .ok pattern)
    (value : String) :
    pattern.isMatch value = Pattern.covers text value := by
  rw [Pattern.covers, compileWhole_eq_ok_iff.1 compiled, Option.any_some]

theorem isMatch_eq_selects
    (named : nonEmpty? policy.key = some key)
    (keyCompiled : compileWhole check key = .ok keyPattern)
    (entry : String × String) :
    keyPattern.isMatch entry.1 = policy.selects entry := by
  rw [selects, named, Option.any_some, isMatch_eq_covers keyCompiled]

theorem all_isMatch_eq_accepts
    (valueCompiled :
      FieldDemand.compileValue check (nonEmpty? policy.value) = .ok valuePattern)
    (entry : String × String) :
    valuePattern.all (·.isMatch entry.2) = policy.accepts entry := by
  unfold accepts
  cases valued : nonEmpty? policy.value with
  | none =>
      rw [valued] at valueCompiled
      cases valueCompiled
      rfl
  | some value =>
      rw [valued] at valueCompiled
      obtain ⟨pattern, compiled, rfl⟩ := Outcome.map_eq_ok_iff.1 valueCompiled
      rw [Option.all_some, Option.all_some, isMatch_eq_covers compiled]

end Patterns
end KeyValuePolicy

/-! ## Flattened entries -/

/-- The environment variables of all containers of a deployment, in order. -/
def Deployment.environment (deployment : Deployment) : List (String × String) :=
  deployment.containers.flatMap fun container =>
    container.config.env.map fun entry => (entry.key, entry.value)

/-- The labels of an image in the order of their keys. -/
def Image.labels (image : Image) : List (String × String) :=
  (image.metadata.map (·.labels)).getD []

theorem Deployment.get_environment (deployment : Deployment) :
    deployment.fieldValues.get FieldLabel.environmentVariable.metadata.path =
      deployment.environment.map mapEntry := by
  rw [deployment.get_lists (by decide), environment, List.map_flatMap]
  apply List.flatMap_congr
  intro container _
  rw [List.map_map]
  rfl

open FieldValues in
theorem Image.get_labels (image : Image) :
    image.fieldValues.get FieldLabel.imageLabels.metadata.path = image.labels.map mapEntry := by
  have scan :
      (image.scan.elim [] fun scan => get ⟨scan.values⟩ FieldLabel.imageLabels.metadata.path) =
        [] := by
    cases image.scan with
    | none => rfl
    | some scan =>
        show get ⟨scan.values⟩ FieldLabel.imageLabels.metadata.path = []
        rw [ImageScan.get_values_of_not_mem (by decide), get_mk_instantValues_of_ne (by decide)]
  rw [get_fieldValues_of_not_mem (by decide), scan, List.append_nil, labels]
  cases image.metadata with
  | none => rfl
  | some metadata =>
      have layers :
          get ⟨metadata.layers.flatMap ImageLayer.values⟩
            FieldLabel.imageLabels.metadata.path = [] := by
        apply get_mk_eq_nil
        simp only [ImageLayer.values, List.forall_mem_flatMap, List.forall_mem_cons]
        simp [FieldLabel.metadata, FieldLabel.standard]
      show get ⟨metadata.values⟩ FieldLabel.imageLabels.metadata.path = _
      rw [ImageMetadata.values, get_mk_append, get_mk_append,
        get_mk_instantValues_of_ne (by decide), layers, List.nil_append]
      exact get_mk_map metadata.labels mapEntry

/-- The maps whose entries policies are about. -/
inductive EntryMap where
  | environment
  | labels
  | annotations
  | imageLabels
  deriving DecidableEq, Repr

namespace EntryMap

/-- The field that the entries of a map are values of. -/
def label : EntryMap → FieldLabel
  | environment => .environmentVariable
  | labels => .deploymentLabels
  | annotations => .deploymentAnnotations
  | imageLabels => .imageLabels

variable (deployment : Deployment) (image : Image)

/-- The entries of a map, in order. -/
def entries : EntryMap → List (String × String)
  | environment => deployment.environment
  | labels => deployment.labels
  | annotations => deployment.annotations
  | imageLabels => image.labels

/-- The flattened entity that has a map. -/
def values : EntryMap → FieldValues
  | imageLabels => image.fieldValues
  | _ => deployment.fieldValues

/-- A flattened entity has the entries of its map, each as one text. -/
theorem get_values (map : EntryMap) :
    (map.values deployment image).get map.label.metadata.path =
      (map.entries deployment image).map mapEntry := by
  cases map with
  | environment => exact deployment.get_environment
  | labels => exact deployment.get_labels
  | annotations => exact deployment.get_annotations
  | imageLabels => exact image.get_labels

/-- No key of a map contains the mark between keys and values. -/
def HasPlainKeys (map : EntryMap) : Prop :=
  ∀ entry ∈ map.entries deployment image, '=' ∉ entry.1.toList

instance (map : EntryMap) : Decidable (map.HasPlainKeys deployment image) :=
  inferInstanceAs (Decidable (∀ entry ∈ map.entries deployment image, _))

end EntryMap

/-! ## Checks of entries -/

/-- A check of what a policy says about the entries of a map. -/
structure EntryCheck where
  name : String
  map : EntryMap
  subject : String
  /-- The policy about entries, if it is set. -/
  source : PolicyFields → Option KeyValuePolicy

/-- A check of entries that are disallowed. -/
structure DisallowedCheck extends EntryCheck where
  /-- What its policy is called in messages. -/
  policyName : String

namespace DisallowedCheck

/-- The check of environment variables. -/
def environment : DisallowedCheck where
  name := "environment variable"
  map := .environment
  subject := "Container Environment"
  policyName := "environment policy"
  source fields := fields.env

/-- The check of annotations that are disallowed. -/
def annotation : DisallowedCheck where
  name := "disallowed annotation"
  map := .annotations
  subject := "Disallowed annotation"
  policyName := "disallowed annotation policy"
  source fields := fields.annotationDisallowed

/-- The check of image labels that are disallowed. -/
def imageLabel : DisallowedCheck where
  name := "disallowed image label"
  map := .imageLabels
  subject := "Disallowed image label"
  policyName := "disallowed image label policy"
  source fields := fields.imageLabelDisallowed

/-- The standard checks of entries that are disallowed. -/
def standard : List DisallowedCheck :=
  [environment, annotation, imageLabel]

theorem standardLeaf?_eq_some
    {check : DisallowedCheck}
    (listed : check ∈ standard) :
    Check.standardLeaf? check.name =
      some
        (.field (.entry check.name check.map.label
          (.disallowedEntry check.subject check.policyName) check.source)) := by
  simp only [standard, List.mem_cons, List.not_mem_nil, or_false] at listed
  rcases listed with rfl | rfl | rfl <;> rfl

end DisallowedCheck

namespace LeafCheck

section Entry

variable
  {name key : String}
  {label : FieldLabel}
  {demand : String → Option String → FieldDemand}
  {source : PolicyFields → Option KeyValuePolicy}
  {registry : FieldRegistry}
  (isStandard : registry.IsStandard)
  {fields : PolicyFields}
  {policy : KeyValuePolicy}
  (set : source fields = some policy)
  (named : nonEmpty? policy.key = some key)

include set named

/-- A check of entries whose policy has a key demands something of its field. -/
theorem demand?_of_entry :
    (FieldCheck.entry name label demand source).demand? fields =
      .ok (some (demand key (nonEmpty? policy.value))) := by
  simp only [FieldCheck.entry, set, named]

include isStandard

/-- What a check of entries contributes is what it demands. -/
theorem exists_plain_of_entry
    {outcome : Option Contribution}
    (contributed :
      (field (.entry name label demand source)).contribution? fields registry = .ok outcome) :
    ∃ plain,
      (demand key (nonEmpty? policy.value)).contribution? name label label.metadata = .ok plain ∧
        (field (.entry name label demand source)).plainContribution? fields registry = .ok plain ∧
        outcome = plain.map (·.keyed name) := by
  obtain ⟨metadata, plain, registered, served, run, rfl⟩ :=
    exists_plain_of_demand (demand?_of_entry set named) contributed
  cases isStandard _ _ registered
  exact ⟨plain, served, run, rfl⟩

/-- A check of entries fails over its field or over what it demands. -/
theorem lookup_eq_none_or_of_entry
    {error : CheckError}
    (failed :
      (field (.entry name label demand source)).contribution? fields registry = .error error) :
    registry.lookup label = none ∨
      (demand key (nonEmpty? policy.value)).contribution? name label label.metadata =
        .error error :=
  lookup_eq_none_or_of_demand isStandard (demand?_of_entry set named) failed

end Entry
end LeafCheck

/-! ## Disallowed entries -/

/-- An entry has a key and a value that a policy disallows. -/
def RecordRule.disallowed
    (subject policyName : String)
    (policy : KeyValuePolicy) : RecordRule (String × String) where
  holds := policy.satisfiedBy
  alerts entry :=
    [{ message :=
        subject ++ " (key='" ++ entry.1 ++ "', value='" ++ entry.2 ++ "') matched " ++
          policyName ++ " (key = '" ++ policy.key.getD "" ++ "', value = '" ++
            FieldDemand.shownValue (nonEmpty? policy.value) ++ "')" }]

section Demands

variable
  {check key : String}
  {label : FieldLabel}
  {policy : KeyValuePolicy}
  {values : FieldValues}
  {entries : List (String × String)}

/-- The leaf for a policy holds of the entries that satisfy it. -/
theorem KeyValuePolicy.holds_mapEntry
    {keyPattern : Pattern}
    {valuePattern : Option Pattern}
    (named : nonEmpty? policy.key = some key)
    (keyCompiled : compileWhole check key = .ok keyPattern)
    (valueCompiled :
      FieldDemand.compileValue check (nonEmpty? policy.value) = .ok valuePattern)
    (now : Calendar.Instant)
    {entry : String × String}
    (plain : '=' ∉ entry.1.toList) :
    Operation.holds now (mapEntry entry) (.mapEntry keyPattern valuePattern false) =
      policy.satisfiedBy entry := by
  rw [satisfiedBy, ← isMatch_eq_selects named keyCompiled,
    ← all_isMatch_eq_accepts valueCompiled, Operation.holds, splitEntry_mapEntry plain]
  cases valuePattern <;> simp

/-- A demand about disallowed entries goes by the entries of its map. -/
theorem FieldDemand.goesBy_of_disallowedEntry
    {subject policyName : String}
    {outcome : Option Contribution}
    (named : nonEmpty? policy.key = some key)
    (columnar : values.get label.metadata.path = entries.map mapEntry)
    (plain : ∀ entry ∈ entries, '=' ∉ entry.1.toList)
    (contributed :
      (disallowedEntry subject policyName key (nonEmpty? policy.value)).contribution? check label
        label.metadata = .ok outcome)
    (now : Calendar.Instant) :
    ∃ contribution, outcome = some contribution ∧
      contribution.GoesBy now values entries (.disallowed subject policyName policy) := by
  obtain ⟨keyPattern, keyCompiled, rest⟩ := Outcome.bind_eq_ok_iff.1 contributed
  obtain ⟨valuePattern, valueCompiled, equal⟩ := Outcome.bind_eq_ok_iff.1 rest
  cases equal
  refine ⟨_, rfl, ?_⟩
  apply Contribution.goesBy_of_leaf rfl rfl rfl columnar
  · intro entry member
    exact KeyValuePolicy.holds_mapEntry named keyCompiled valueCompiled now (plain entry member)
  · intro entry member
    have given : policy.key = some key := (nonEmpty?_eq_some_iff.1 named).1
    simp only [RecordRule.disallowed, FieldTemplate.message,
      splitEntry_mapEntry (plain entry member), given, Option.getD_some]

end Demands

namespace LeafCheck

section Disallowed

variable
  {check : DisallowedCheck}
  (listed : check ∈ DisallowedCheck.standard)
  {leaf : LeafCheck}
  (standard : Check.standardLeaf? check.name = some leaf)
  {registry : FieldRegistry}
  (isStandard : registry.IsStandard)
  {fields : PolicyFields}
  {policy : KeyValuePolicy}
  (set : check.source fields = some policy)
  (keyed : nonEmpty? policy.key ≠ none)
  (now : Calendar.Instant)
  (deployment : Deployment)
  (image : Image)
  (plain : check.map.HasPlainKeys deployment image)

include listed standard isStandard set keyed

include plain in
/-- What a check of disallowed entries contributes goes by the entries of its map. -/
theorem exists_goesBy_of_disallowed
    {outcome : Option Contribution}
    (contributed : leaf.contribution? fields registry = .ok outcome) :
    ∃ contribution, outcome = some contribution ∧
      contribution.GoesBy now (check.map.values deployment image)
        (check.map.entries deployment image)
        (.disallowed check.subject check.policyName policy) := by
  obtain ⟨key, named⟩ := Option.ne_none_iff_exists'.1 keyed
  cases (DisallowedCheck.standardLeaf?_eq_some listed).symm.trans standard
  obtain ⟨plain?, demanded, run, rfl⟩ := exists_plain_of_entry isStandard set named contributed
  obtain ⟨bare, rfl, goesBy⟩ :=
    FieldDemand.goesBy_of_disallowedEntry named (check.map.get_values deployment image) plain
      demanded now
  exact ⟨_, rfl, goesBy.keyed (isPlain_of_plainContribution? run) _⟩

/-- A check of disallowed entries fails over its field or over the patterns of a policy. -/
theorem lookup_eq_none_or_of_disallowed
    {error : CheckError}
    (failed : leaf.contribution? fields registry = .error error) :
    registry.lookup check.map.label = none ∨ ¬ policy.Compiles := by
  obtain ⟨key, named⟩ := Option.ne_none_iff_exists'.1 keyed
  cases (DisallowedCheck.standardLeaf?_eq_some listed).symm.trans standard
  apply (lookup_eq_none_or_of_entry isStandard set named failed).imp_right
  exact KeyValuePolicy.not_compiles_of_error named

include plain

/-- A standard check of disallowed entries, given a policy with a key, goes by the entries
of its map: it tells of each entry that satisfies the policy, in order and with its own key
and value.  It fails only over a field that is not registered or over the patterns of the
policy. -/
theorem goesBy_disallowed :
    match leaf.contribution? fields registry with
    | .ok outcome =>
        ∃ contribution, outcome = some contribution ∧
          contribution.GoesBy now (check.map.values deployment image)
            (check.map.entries deployment image)
            (.disallowed check.subject check.policyName policy)
    | .error _ => registry.lookup check.map.label = none ∨ ¬ policy.Compiles := by
  cases contributed : leaf.contribution? fields registry with
  | ok outcome =>
      exact exists_goesBy_of_disallowed listed standard isStandard set keyed now deployment image
        plain contributed
  | error error =>
      exact lookup_eq_none_or_of_disallowed listed standard isStandard set keyed contributed

end Disallowed

/-- Two containers with one environment variable. -/
def repeatingDeployment : Deployment where
  id := ""
  name := ""
  namespaceName := ""
  clusterId := ""
  containers :=
    [{ name := "web", config := { env := [{ key := "1", value := "a=b" }, { key := "3" }] } },
      { name := "log", config := { env := [{ key := "1", value := "a=b" }] } }]

/-- An environment variable that is set in two containers is told of twice, with all of its
value. -/
theorem goesBy_disallowed_of_repeated :
    ∃ leaf, Check.standardLeaf? "environment variable" = some leaf ∧
      ∀ now, ∃ contribution,
        leaf.contribution? { env := some { key := some "1|2" } } .standard =
          .ok (some contribution) ∧
        contribution.printer.alerts
            (contribution.query.evaluate now repeatingDeployment.fieldValues).found =
          [{ message :=
              "Container Environment (key='1', value='a=b') matched environment policy " ++
                "(key = '1|2', value = '.*')" },
            { message :=
                "Container Environment (key='1', value='a=b') matched environment policy " ++
                  "(key = '1|2', value = '.*')" }] := by
  have compiles : KeyValuePolicy.Compiles { key := some "1|2" } := by decide +kernel
  obtain ⟨leaf, standard⟩ : ∃ leaf, Check.standardLeaf? "environment variable" = some leaf :=
    ⟨_, rfl⟩
  refine ⟨leaf, standard, fun now => ?_⟩
  have goesBy :=
    goesBy_disallowed (List.mem_cons_self : DisallowedCheck.environment ∈ _) standard
      FieldRegistry.isStandard_standard
      (rfl : DisallowedCheck.environment.source { env := some { key := some "1|2" } } = _)
      (by decide) now repeatingDeployment { id := "" } (by decide)
  split at goesBy
  · obtain ⟨contribution, rfl, goesBy⟩ := goesBy
    refine ⟨contribution, ‹_›, goesBy.alerts.trans ?_⟩
    decide +kernel
  · rcases goesBy with absent | broken
    · contradiction
    · exact absurd compiles broken

end LeafCheck
end WorkloadPolicy
