import WorkloadPolicy.Proofs.Capabilities
import WorkloadPolicy.Proofs.Records
import WorkloadPolicy.Proofs.Spelling

/-!
# Dropped capabilities

A container is flattened to one text for all the capabilities that it drops, and the
check takes that text apart again.  It tells of every capability of a policy that some
container does not drop, once and in the order of the policy, although the leaves for the
capabilities record what they match under one key.
-/

namespace WorkloadPolicy

/-! ## Joined texts -/

namespace Text

/-- A text is split on both sides of a mark. -/
theorem splitChars_append (mark : Char) (before after : List Char) :
    splitChars mark (before ++ mark :: after) =
      splitChars mark before ++ splitChars mark after := by
  induction before with
  | nil => simp [splitChars]
  | cons character before hypothesis =>
      rw [List.cons_append, splitChars, splitChars, hypothesis]
      split
      · rfl
      · obtain ⟨piece, pieces, split⟩ := List.exists_cons_of_ne_nil (splitChars_ne_nil mark before)
        rw [split]
        rfl

/-- Joined texts are split where they were joined, and where each of them is split. -/
theorem split_intercalate {texts : List String} (inhabited : texts ≠ []) :
    split ',' (String.intercalate "," texts) = texts.flatMap (split ',') := by
  induction texts with
  | nil => contradiction
  | cons text texts hypothesis =>
      cases texts with
      | nil => simp
      | cons next texts =>
          rw [String.intercalate_cons_cons, split, String.toList_append, String.toList_append,
            List.append_assoc, List.flatMap_cons, ← hypothesis (by simp)]
          exact (congrArg _ (splitChars_append ',' _ _)).trans List.map_append

end Text

/-! ## What containers drop -/

namespace Container

/-- The capabilities that a container drops: the pieces between commas of what it lists,
without blanks around them. -/
def dropped (container : Container) : List String :=
  container.securityContext.dropCapabilities.flatMap fun text =>
    (Text.split ',' text).map Text.trim

/-- A container does not drop a capability if nothing that it drops spells its name. -/
def Keeps (container : Container) (name : String) : Prop :=
  ∀ item ∈ container.dropped, ¬ Capability.Spells item name

instance (container : Container) (name : String) : Decidable (container.Keeps name) :=
  inferInstanceAs (Decidable (∀ item ∈ container.dropped, _))

end Container

/-- The pattern for a capability matches none of the items of a flattened list if the
container does not drop the capability. -/
theorem lacksItem_iff_keeps
    {check name : String}
    {pattern : Pattern}
    (inhabited : name ≠ "")
    (compiled : compileWhole check (Capability.patternText [name]) = .ok pattern)
    (container : Container) :
    lacksItem pattern (String.intercalate "," container.securityContext.dropCapabilities) = true ↔
      container.Keeps name := by
  have spells (item : String) : pattern.isMatch item = true ↔ Capability.Spells item name := by
    rw [Capability.isMatch_of_compileWhole_patternText (by simp) compiled]
    simp
  have items (row : String) :
      lacksItem pattern row = true ↔
        ∀ piece ∈ Text.split ',' row, ¬ Capability.Spells (Text.trim piece) name := by
    simp [lacksItem, ← spells]
  rw [items, Container.Keeps, Container.dropped]
  cases listed : container.securityContext.dropCapabilities with
  | nil =>
      have nothing := Capability.not_spells_empty inhabited
      simpa [Text.split, Text.splitChars, Text.trim] using nothing
  | cons first others =>
      rw [Text.split_intercalate (by simp)]
      simp only [List.forall_mem_flatMap, List.forall_mem_map]

/-- A flattened deployment has one text per container for what they drop. -/
theorem Deployment.get_dropped (deployment : Deployment) :
    deployment.fieldValues.get FieldLabel.dropCapabilities.metadata.path =
      deployment.containers.map fun container =>
        String.intercalate "," container.securityContext.dropCapabilities :=
  (deployment.get_lists (by decide)).trans (List.map_eq_flatMap ..).symm

/-! ## Leaves that record under one key -/

namespace Verdict

/-- The verdict that one value is found under a key, if it is. -/
def ofValue (key value : String) (isFound : Bool) : Verdict :=
  if isFound then matched (.ofKey key [value]) else unmatched

theorem ofValue_ne_fault (key value : String) (isFound : Bool) :
    ofValue key value isFound ≠ fault := by
  cases isFound <;> simp [ofValue]

@[simp] theorem isMatch_ofValue (key value : String) (isFound : Bool) :
    (ofValue key value isFound).isMatch = isFound := by
  cases isFound <;> rfl

@[simp] theorem get_found_ofValue (key value : String) (isFound : Bool) :
    (ofValue key value isFound).found.get key = if isFound then [value] else [] := by
  cases isFound <;> simp [ofValue]

section Values

variable (key : String) (values : List String) (isFound : String → Bool)

theorem any_ofValue_ne_fault :
    any (values.map fun value => ofValue key value (isFound value)) ≠ fault := by
  simp [ofValue_ne_fault]

/-- One of several values is found if one of them is. -/
theorem isMatch_any_ofValue :
    (any (values.map fun value => ofValue key value (isFound value))).isMatch =
      values.any isFound := by
  rw [isMatch_any (by simp [ofValue_ne_fault]), List.any_map]
  simp [Function.comp_def]

/-- Of several values under one key those stand there that are found, in order. -/
theorem get_found_any_ofValue :
    (any (values.map fun value => ofValue key value (isFound value))).found.get key =
      values.filter isFound := by
  rw [found_any (by simp [ofValue_ne_fault]), Highlights.get_concat, List.flatMap_map,
    List.flatMap_map]
  simp only [get_found_ofValue]
  induction values with
  | nil => rfl
  | cons value values hypothesis =>
      rw [List.flatMap_cons, hypothesis, List.filter_cons]
      cases isFound value <;> rfl

end Values
end Verdict

/-! ## The check -/

namespace RecordRule

/-- A capability is not dropped by some container of a deployment. -/
def undropped (deployment : Deployment) : RecordRule String where
  holds name := decide (∃ container ∈ deployment.containers, container.Keeps name)
  alerts name := [{ message := name ++ " was not in the DROP CAPABILITIES list" }]

end RecordRule

namespace FieldDemand

/-- Every leaf for a capability records its name if it is lacking. -/
theorem map_evaluate_keptLeaves
    {check : String}
    {label : FieldLabel}
    {metadata : FieldMetadata}
    {now : Calendar.Instant}
    {values : FieldValues}
    {lacking : String → Bool}
    {names : List String}
    {leaves : List Query}
    (lacks : ∀ name ∈ names, ∀ pattern,
      compileWhole check (Capability.patternText [name]) = .ok pattern →
        (values.get metadata.path).any (lacksItem pattern) = lacking name)
    (compiled :
      keptLeaves check (fun operation => .leaf (.ofField label metadata operation)) names =
        .ok leaves) :
    leaves.map (Query.evaluate now values) =
      names.map fun name => Verdict.ofValue metadata.path name (lacking name) := by
  induction names generalizing leaves with
  | nil =>
      cases compiled
      rfl
  | cons name names hypothesis =>
      obtain ⟨pattern, found, rest⟩ := Outcome.bind_eq_ok_iff.1 compiled
      obtain ⟨others, othersCompiled, equal⟩ := Outcome.bind_eq_ok_iff.1 rest
      cases equal
      obtain ⟨head, tail⟩ := List.forall_mem_cons.1 lacks
      rw [List.map_cons, List.map_cons, hypothesis tail othersCompiled, ← head pattern found]
      rfl

/-- A demand that capabilities be dropped goes by the capabilities. -/
theorem goesBy_of_keptCapabilities
    {check : String}
    {names : List String}
    {contribution : Contribution}
    (inhabited : ∀ name ∈ names, name ≠ "")
    (contributed :
      (keptCapabilities names).contribution? check .dropCapabilities
        FieldLabel.dropCapabilities.metadata = .ok (some contribution))
    (now : Calendar.Instant)
    (deployment : Deployment) :
    contribution.GoesBy now deployment.fieldValues names (.undropped deployment) := by
  obtain ⟨leaves, compiled, equal⟩ := Outcome.bind_eq_ok_iff.1 contributed
  obtain ⟨query, chosen, rfl⟩ := Option.map_eq_some_iff.1 (Except.ok.inj equal)
  have lacks :
      ∀ name ∈ names, ∀ pattern,
        compileWhole check (Capability.patternText [name]) = .ok pattern →
          (deployment.fieldValues.get FieldLabel.dropCapabilities.metadata.path).any
              (lacksItem pattern) =
            (RecordRule.undropped deployment).holds name := by
    intro name member pattern found
    rw [deployment.get_dropped, List.any_map, Bool.eq_iff_iff, List.any_eq_true]
    simp [RecordRule.undropped, lacksItem_iff_keeps (inhabited name member) found]
  have evaluated := Query.evaluate_of_any?_eq_some now deployment.fieldValues chosen
  rw [map_evaluate_keptLeaves lacks compiled] at evaluated
  refine ⟨?_, ?_, ?_⟩
  · rw [evaluated]
    exact Verdict.any_ofValue_ne_fault _ _ _
  · rw [evaluated, Verdict.isMatch_any_ofValue, List.any_eq_true]
  · have message (name : String) :
        FieldTemplate.message name (.capability "DROP CAPABILITIES" false) =
          name ++ " was not in the DROP CAPABILITIES list" := by
      simp [FieldTemplate.message, String.append_assoc]
    rw [evaluated, Printer.alerts, Verdict.get_found_any_ofValue, FieldTemplate.alerts,
      RecordRule.tell, List.map_eq_flatMap]
    simp only [message]
    rfl

end FieldDemand

namespace LeafCheck

/-- The standard check of dropped capabilities goes by the capabilities of a policy: it
matches if some container keeps one of them, and tells of those that are kept, once each
and in the order of the policy.  Without containers it does not match. -/
theorem goesBy_undropped
    {leaf : LeafCheck}
    (standard : Check.standardLeaf? "drop capabilities" = some leaf)
    {registry : FieldRegistry}
    (isStandard : registry.IsStandard)
    {fields : PolicyFields}
    {contribution : Contribution}
    (contributed : leaf.contribution? fields registry = .ok (some contribution))
    (now : Calendar.Instant)
    (deployment : Deployment) :
    contribution.GoesBy now deployment.fieldValues (Capability.entries fields.dropCapabilities)
        (.undropped deployment) ∧
      (deployment.containers = [] →
        contribution.query.evaluate now deployment.fieldValues = .unmatched) := by
  cases standard
  have goesBy :
      contribution.GoesBy now deployment.fieldValues (Capability.entries fields.dropCapabilities)
        (.undropped deployment) := by
    obtain ⟨plain, run, rfl⟩ := contribution?_eq_ok_some_iff.1 contributed
    obtain ⟨metadata, registered, -, demanded⟩ := FieldCheck.contribution?_of_capabilities run
    cases isStandard _ _ registered
    have bare :=
      FieldDemand.goesBy_of_keptCapabilities (fun _ => Capability.ne_empty_of_mem_entries)
        demanded now deployment
    exact bare.keyed (isPlain_of_plainContribution? run) _
  refine ⟨goesBy, fun none => ?_⟩
  rw [Verdict.eq_unmatched_iff goesBy.sound, Bool.eq_false_iff, Ne, goesBy.isMatch_iff]
  simp [RecordRule.undropped, none]

/-- A deployment whose second container lists nothing does not drop a capability that its
first container drops under another spelling. -/
theorem goesBy_undropped_of_bpf :
    ∃ leaf contribution, Check.standardLeaf? "drop capabilities" = some leaf ∧
      leaf.contribution? { dropCapabilities := [" cap_bpf", "CAP_"] } .standard =
        .ok (some contribution) ∧
      ∀ now,
        contribution.printer.alerts
            (contribution.query.evaluate now
              (Deployment.fieldValues
                { id := "", name := "", namespaceName := "", clusterId := ""
                  containers :=
                    [{ name := "web"
                       securityContext := { dropCapabilities := ["KILL, CAP_Bpf"] } },
                      { name := "log" }] })).found =
          [{ message := "bpf was not in the DROP CAPABILITIES list" }] := by
  obtain ⟨pattern, compiled⟩ := Capability.exists_compileWhole_bpf "drop capabilities"
  have kept :
      FieldDemand.keptLeaves "drop capabilities"
          (fun operation =>
            .leaf (.ofField .dropCapabilities FieldLabel.dropCapabilities.metadata operation))
          ["bpf"] =
        .ok
          [.leaf (.ofField .dropCapabilities FieldLabel.dropCapabilities.metadata
            (.lacks pattern "bpf"))] := by
    rw [FieldDemand.keptLeaves, compiled]
    rfl
  have demanded :
      (FieldDemand.keptCapabilities ["bpf"]).contribution? "drop capabilities" .dropCapabilities
          FieldLabel.dropCapabilities.metadata =
        .ok
          (some
            ⟨.leaf (.ofField .dropCapabilities FieldLabel.dropCapabilities.metadata
                (.lacks pattern "bpf")),
              .field FieldLabel.dropCapabilities.metadata.path
                (.capability "DROP CAPABILITIES" false)⟩) :=
    congrArg (fun leaves => leaves >>= _) kept
  have contributed :
      (LeafCheck.field
          (.capabilities "drop capabilities" .dropCapabilities .keptCapabilities
            fun fields => fields.dropCapabilities)).contribution?
          { dropCapabilities := [" cap_bpf", "CAP_"] } .standard =
        .ok (some (.keyed "drop capabilities" _)) :=
    congrArg (Except.map (Option.map (Contribution.keyed "drop capabilities"))) demanded
  refine ⟨_, _, rfl, contributed, fun now => ?_⟩
  have goesBy := goesBy_undropped rfl FieldRegistry.isStandard_standard contributed now
  refine (goesBy _).1.alerts.trans ?_
  decide +kernel

end LeafCheck
end WorkloadPolicy
