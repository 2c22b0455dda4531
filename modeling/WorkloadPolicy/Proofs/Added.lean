import WorkloadPolicy.Proofs.Capabilities
import WorkloadPolicy.Proofs.Records
import WorkloadPolicy.Proofs.Spelling
import WorkloadPolicy.Proofs.Values

/-!
# Added capabilities

All the capabilities of a policy go into one pattern, and the check looks for it in every
name that a container adds.  That is the same as to look the name up among those of the
policy, with or without `CAP_` in front and in any case, whatever characters they have.
-/

namespace WorkloadPolicy

namespace Deployment

/-- The capabilities that the containers of a deployment add, in order. -/
def added (deployment : Deployment) : List String :=
  deployment.containers.flatMap (·.securityContext.addCapabilities)

/-- A flattened deployment has the capabilities that its containers add. -/
theorem get_added (deployment : Deployment) :
    deployment.fieldValues.get FieldLabel.addCapabilities.metadata.path = deployment.added :=
  deployment.get_lists (by decide)

end Deployment

namespace RecordRule

/-- A capability is spelled like one of some names. -/
def added (names : List String) : RecordRule String where
  holds capability := decide (∃ name ∈ names, Capability.Spells capability name)
  alerts capability := [{ message := capability ++ " was in the ADD CAPABILITIES list" }]

end RecordRule

/-- The leaf for the pattern of some capabilities holds of the names that spell one of
them. -/
theorem Capability.holds_regex_of_patternText
    {check : String}
    {names : List String}
    {pattern : Pattern}
    (inhabited : names ≠ [])
    (nonempty : ∀ name ∈ names, name ≠ "")
    (compiled : compileWhole check (patternText names) = .ok pattern)
    (now : Calendar.Instant)
    (capability : String) :
    Operation.holds now capability (.regex pattern) =
      (RecordRule.added names).holds capability := by
  rw [Operation.holds, RecordRule.added, Bool.eq_iff_iff, Bool.and_eq_true,
    isMatch_of_compileWhole_patternText inhabited compiled, decide_eq_true_iff]
  apply and_iff_right_of_imp
  rintro ⟨name, member, spells⟩
  rw [Bool.not_eq_true', Bool.eq_false_iff, Ne, String.isEmpty_iff]
  rintro rfl
  exact not_spells_empty (nonempty name member) spells

namespace FieldDemand

/-- A demand that a capability be added goes by the capabilities that are added. -/
theorem goesBy_of_addedCapabilities
    {check : String}
    {names : List String}
    {contribution : Contribution}
    (inhabited : names ≠ [])
    (nonempty : ∀ name ∈ names, name ≠ "")
    (contributed :
      (addedCapabilities names).contribution? check .addCapabilities
        FieldLabel.addCapabilities.metadata = .ok (some contribution))
    (now : Calendar.Instant)
    (deployment : Deployment) :
    contribution.GoesBy now deployment.fieldValues deployment.added (.added names) := by
  obtain ⟨pattern, compiled, equal⟩ := Outcome.bind_eq_ok_iff.1 contributed
  cases equal
  apply Contribution.goesBy_of_leaf rfl rfl rfl
  · rw [deployment.get_added]
    exact (List.map_id _).symm
  · intro capability _
    exact Capability.holds_regex_of_patternText inhabited nonempty compiled now capability
  · intro capability _
    simp [RecordRule.added, FieldTemplate.message, String.append_assoc]

end FieldDemand

namespace LeafCheck

/-- The standard check of added capabilities goes by the capabilities that containers
add: it matches if one of them is spelled like one of the policy, and tells of those that
are, in order and as they are spelled there. -/
theorem goesBy_added
    {leaf : LeafCheck}
    (standard : Check.standardLeaf? "add capabilities" = some leaf)
    {registry : FieldRegistry}
    (isStandard : registry.IsStandard)
    {fields : PolicyFields}
    {contribution : Contribution}
    (contributed : leaf.contribution? fields registry = .ok (some contribution))
    (now : Calendar.Instant)
    (deployment : Deployment) :
    contribution.GoesBy now deployment.fieldValues deployment.added
      (.added (Capability.entries fields.addCapabilities)) := by
  cases standard
  obtain ⟨plain, run, rfl⟩ := contribution?_eq_ok_some_iff.1 contributed
  obtain ⟨metadata, registered, inhabited, demanded⟩ :=
    FieldCheck.contribution?_of_capabilities run
  cases isStandard _ _ registered
  have bare :=
    FieldDemand.goesBy_of_addedCapabilities inhabited
      (fun _ => Capability.ne_empty_of_mem_entries) demanded now deployment
  exact bare.keyed (isPlain_of_plainContribution? run) _

/-- Of four names in two containers, those that spell the capability of a policy are told
of, as often as they are added. -/
theorem goesBy_added_of_bpf :
    ∃ leaf contribution, Check.standardLeaf? "add capabilities" = some leaf ∧
      leaf.contribution? { addCapabilities := [" cap_bpf", "CAP_"] } .standard =
        .ok (some contribution) ∧
      ∀ now,
        contribution.printer.alerts
            (contribution.query.evaluate now
              (Deployment.fieldValues
                { id := "", name := "", namespaceName := "", clusterId := ""
                  containers :=
                    [{ name := "web"
                       securityContext := { addCapabilities := ["Cap_Bpf", "KILL"] } },
                      { name := "log"
                        securityContext :=
                          { addCapabilities := ["CAP_CAP_BPF", "BPF"] } }] })).found =
          [{ message := "Cap_Bpf was in the ADD CAPABILITIES list" },
            { message := "BPF was in the ADD CAPABILITIES list" }] := by
  obtain ⟨pattern, compiled⟩ := Capability.exists_compileWhole_bpf "add capabilities"
  have demanded :
      (FieldDemand.addedCapabilities ["bpf"]).contribution? "add capabilities" .addCapabilities
          FieldLabel.addCapabilities.metadata =
        .ok
          (some
            ⟨.leaf (.ofField .addCapabilities FieldLabel.addCapabilities.metadata
                (.regex pattern)),
              .field FieldLabel.addCapabilities.metadata.path
                (.capability "ADD CAPABILITIES" true)⟩) :=
    congrArg (fun compiled => compiled >>= _) compiled
  have contributed :
      (LeafCheck.field
          (.capabilities "add capabilities" .addCapabilities .addedCapabilities
            fun fields => fields.addCapabilities)).contribution?
          { addCapabilities := [" cap_bpf", "CAP_"] } .standard =
        .ok (some (.keyed "add capabilities" _)) :=
    congrArg (Except.map (Option.map (Contribution.keyed "add capabilities"))) demanded
  refine ⟨_, _, rfl, contributed, fun now => ?_⟩
  have goesBy := goesBy_added rfl FieldRegistry.isStandard_standard contributed now
  refine (goesBy _).alerts.trans ?_
  decide +kernel

end LeafCheck
end WorkloadPolicy
