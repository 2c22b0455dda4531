import WorkloadPolicy.Proofs.Columns
import WorkloadPolicy.Proofs.Firing

/-!
# Policies with more families

A policy that sets more families of constraints than another one, and the same
where the other sets something, fires only where the other does.  Almost every
check looks at one family alone, so that what it contributed it still
contributes.  The scores and the fixed versions of vulnerabilities are looked at
together: a column that was a demand of its own may become part of a larger one.
-/

namespace WorkloadPolicy

/-- A family of constraints is kept: if it is set, it stays the same. -/
def Kept (unset before after : α) : Prop :=
  before = unset ∨ after = before

/-- Constraints extend others: every family that the others set stays the same. -/
structure PolicyFields.Extends (extended fields : PolicyFields) : Prop where
  imageName : Kept none fields.imageName extended.imageName
  imageAgeDays : Kept none fields.imageAgeDays extended.imageAgeDays
  lineRule : Kept none fields.lineRule extended.lineRule
  cve : Kept none fields.cve extended.cve
  cvss : Kept none fields.cvss extended.cvss
  fixedBy : Kept none fields.fixedBy extended.fixedBy
  component : Kept none fields.component extended.component
  scanAgeDays : Kept none fields.scanAgeDays extended.scanAgeDays
  noScanExists : Kept none fields.noScanExists extended.noScanExists
  env : Kept none fields.env extended.env
  volume : Kept none fields.volume extended.volume
  port : Kept none fields.port extended.port
  portExposure : Kept [] fields.portExposure extended.portExposure
  labelRequired : Kept none fields.labelRequired extended.labelRequired
  annotationRequired : Kept none fields.annotationRequired extended.annotationRequired
  annotationDisallowed : Kept none fields.annotationDisallowed extended.annotationDisallowed
  imageLabelRequired : Kept none fields.imageLabelRequired extended.imageLabelRequired
  imageLabelDisallowed : Kept none fields.imageLabelDisallowed extended.imageLabelDisallowed
  privileged : Kept none fields.privileged extended.privileged
  process : Kept none fields.process extended.process
  hostMount : Kept none fields.hostMount extended.hostMount
  readOnlyRootFs : Kept none fields.readOnlyRootFs extended.readOnlyRootFs
  addCapabilities : Kept [] fields.addCapabilities extended.addCapabilities
  dropCapabilities : Kept [] fields.dropCapabilities extended.dropCapabilities
  resources : Kept none fields.resources extended.resources
  permission : Kept none fields.permission extended.permission

namespace Kept

theorem refl (unset value : α) : Kept unset value value := .inr rfl

/-- What is set is kept. -/
theorem eq_some {before after : Option α} {value : α} (kept : Kept none before after)
    (set : before = some value) : after = some value := by
  rcases kept with unset | same
  · simp [unset] at set
  · rw [same, set]

end Kept

theorem PolicyFields.Extends.refl (fields : PolicyFields) : fields.Extends fields := by
  constructor <;> exact .refl _ _

/-! ## Checks of one family -/

namespace Check

variable {registry : FieldRegistry} {fields extended : PolicyFields}

/-- What a check contributes it still contributes to other constraints. -/
def Persists
    (registry : FieldRegistry)
    (fields extended : PolicyFields)
    (check : Check) : Prop :=
  ∀ part, check.contribution? fields registry = .ok (some part) →
    check.contribution? extended registry = .ok (some part)

/-- A check that looks at one family alone still contributes what it contributed
if that family is kept. -/
theorem Persists.of_family
    {check : Check}
    {family : PolicyFields → α}
    {unset : α}
    (kept : Kept unset (family fields) (family extended))
    (only : α → PolicyFields)
    (idle : check.contribution? (only unset) registry = .ok none)
    (concerns : ∀ fields, check.contribution? fields registry =
      check.contribution? (only (family fields)) registry) :
    check.Persists registry fields extended := by
  intro part run
  rw [concerns] at run ⊢
  rcases kept with isUnset | same
  · rw [isUnset, idle] at run
    simp at run
  · rw [same]
    exact run

/-- The standard checks look at one family each, but for those of scores and of
fixed versions. -/
theorem persists_standard (extension : extended.Extends fields) :
    ∀ check ∈ standard,
      check.Persists registry fields extended ∨ check = ofLinked .cvss ∨
        check = ofLinked .fixedBy := by
  simp only [standard, List.forall_mem_cons, or_true, true_or, true_and]
  exact
    ⟨.inl (.of_family extension.imageName (fun value => { imageName := value }) rfl fun _ => rfl),
      .inl (.of_family extension.imageAgeDays (fun value => { imageAgeDays := value }) rfl
        fun _ => rfl),
      .inl (.of_family extension.lineRule (fun value => { lineRule := value }) rfl fun _ => rfl),
      .inl (.of_family extension.cve (fun value => { cve := value }) rfl fun _ => rfl),
      .inl (.of_family extension.component (fun value => { component := value }) rfl fun _ => rfl),
      .inl (.of_family extension.scanAgeDays (fun value => { scanAgeDays := value }) rfl
        fun _ => rfl),
      .inl (.of_family extension.noScanExists (fun value => { noScanExists := value }) rfl
        fun _ => rfl),
      .inl (.of_family extension.env (fun value => { env := value }) rfl fun _ => rfl),
      .inl (.of_family extension.volume (fun value => { volume := value }) rfl fun _ => rfl),
      .inl (.of_family extension.port (fun value => { port := value }) rfl fun _ => rfl),
      .inl (.of_family extension.portExposure (fun value => { portExposure := value }) rfl
        fun _ => rfl),
      .inl (.of_family extension.labelRequired (fun value => { labelRequired := value }) rfl
        fun _ => rfl),
      .inl (.of_family extension.annotationRequired (fun value => { annotationRequired := value })
        rfl fun _ => rfl),
      .inl (.of_family extension.annotationDisallowed
        (fun value => { annotationDisallowed := value }) rfl fun _ => rfl),
      .inl (.of_family extension.imageLabelRequired (fun value => { imageLabelRequired := value })
        rfl fun _ => rfl),
      .inl (.of_family extension.imageLabelDisallowed
        (fun value => { imageLabelDisallowed := value }) rfl fun _ => rfl),
      .inl (.of_family extension.privileged (fun value => { privileged := value }) rfl
        fun _ => rfl),
      .inl (.of_family extension.process (fun value => { process := value }) rfl fun _ => rfl),
      .inl (.of_family extension.hostMount (fun value => { hostMount := value }) rfl fun _ => rfl),
      .inl (.of_family extension.readOnlyRootFs (fun value => { readOnlyRootFs := value }) rfl
        fun _ => rfl),
      .inl (.of_family extension.dropCapabilities (fun value => { dropCapabilities := value }) rfl
        fun _ => rfl),
      .inl (.of_family extension.addCapabilities (fun value => { addCapabilities := value }) rfl
        fun _ => rfl),
      .inl (.of_family extension.resources (fun value => { resources := value }) rfl fun _ => rfl),
      List.forall_mem_nil _⟩

theorem persists_permission (extension : extended.Extends fields) (store : Access.Store) :
    (leaf (.permission store)).Persists registry fields extended :=
  .of_family extension.permission (fun value => { permission := value }) rfl fun _ => rfl

end Check

/-! ## Scores and fixed versions -/

namespace LinkedCheck

/-- A check that looks at the scores of vulnerabilities or at the versions that
fix them. -/
inductive OfVulnerability : LinkedCheck → Prop
  | cvss : OfVulnerability .cvss
  | fixedBy : OfVulnerability .fixedBy

/-- A column about the version that fixes a vulnerability, if the policy asks for
one. -/
def fixedColumn (fields : PolicyFields) : List (FieldLabel × ColumnDemand) :=
  (nonEmpty? fields.fixedBy).toList.map fun text => (.fixedBy, .pattern text false)

theorem exists_cvssDemand
    {fields : PolicyFields}
    {policy : NumericalPolicy}
    (scored : fields.cvss = some policy) :
    ∃ demand, cvss.demand? fields = some demand ∧
      demand.columns = [(.cvss, .numeric policy), (.cve, .any)] ++ fixedColumn fields :=
  ⟨_, Option.bind_eq_some_iff.2 ⟨policy, scored, rfl⟩, rfl⟩

theorem exists_fixedByDemand
    {fields : PolicyFields}
    {text : String}
    (unscored : fields.cvss = none)
    (asked : nonEmpty? fields.fixedBy = some text) :
    ∃ demand, fixedBy.demand? fields = some demand ∧
      demand.columns = [(.fixedBy, .pattern text false), (.cve, .any)] := by
  simp only [fixedBy, fixedByDemand?, unscored]
  exact ⟨_, Option.bind_eq_some_iff.2 ⟨text, asked, rfl⟩, rfl⟩

/-- A version that fixes a vulnerability is demanded on its own if no score is. -/
theorem asked_of_fixedByDemand
    {fields : PolicyFields}
    {demand : LinkedDemand}
    (demanded : fixedBy.demand? fields = some demand) :
    fields.cvss = none ∧ ∃ text, nonEmpty? fields.fixedBy = some text := by
  simp only [fixedBy, fixedByDemand?] at demanded
  split at demanded
  · simp at demanded
  · rename_i unscored
    obtain ⟨text, asked, -⟩ := Option.bind_eq_some_iff.1 demanded
    exact ⟨unscored, text, asked⟩

section Extended

variable
  {fields extended : PolicyFields}
  (extension : extended.Extends fields)

include extension

theorem fixedBy_of_extends {text : String} (asked : nonEmpty? fields.fixedBy = some text) :
    nonEmpty? extended.fixedBy = some text := by
  obtain ⟨given, nonempty⟩ := nonEmpty?_eq_some_iff.1 asked
  exact nonEmpty?_eq_some_iff.2 ⟨extension.fixedBy.eq_some given, nonempty⟩

theorem fixedColumn_subset : fixedColumn fields ⊆ fixedColumn extended := by
  intro column member
  obtain ⟨text, asked, rfl⟩ := List.mem_map.1 member
  have stillAsked := Option.mem_toList.2 (fixedBy_of_extends extension (Option.mem_toList.1 asked))
  exact List.mem_map.2 ⟨text, stillAsked, rfl⟩

/-- What is demanded of scores and fixed versions is still demanded together with
more, if need be by the other one of the two checks. -/
theorem OfVulnerability.exists_demand
    {check : LinkedCheck}
    (ofVulnerability : check.OfVulnerability)
    {demand : LinkedDemand}
    (demanded : check.demand? fields = some demand) :
    (∃ column ∈ demand.columns, column.2.IsExacting) ∧
      ∃ other : LinkedCheck, other.OfVulnerability ∧ ∃ wider, other.demand? extended = some wider ∧
        demand.columns ⊆ wider.columns := by
  cases ofVulnerability with
  | cvss =>
      obtain ⟨policy, scored, -⟩ := Option.bind_eq_some_iff.1 demanded
      obtain ⟨found, foundDemanded, columns⟩ := exists_cvssDemand scored
      obtain ⟨wider, widerDemanded, widerColumns⟩ :=
        exists_cvssDemand (extension.cvss.eq_some scored)
      cases Option.some.inj (foundDemanded.symm.trans demanded)
      rw [columns]
      refine ⟨⟨_, List.mem_append_left _ List.mem_cons_self, trivial⟩,
        .cvss, .cvss, wider, widerDemanded, ?_⟩
      rw [widerColumns]
      exact List.append_subset.2 ⟨List.subset_append_left _ _,
        List.Subset.trans (fixedColumn_subset extension) (List.subset_append_right _ _)⟩
  | fixedBy =>
      obtain ⟨unscored, text, asked⟩ := asked_of_fixedByDemand demanded
      obtain ⟨found, foundDemanded, columns⟩ := exists_fixedByDemand unscored asked
      cases Option.some.inj (foundDemanded.symm.trans demanded)
      have stillAsked := fixedBy_of_extends extension asked
      rw [columns]
      refine ⟨⟨_, List.mem_cons_self, trivial⟩, ?_⟩
      cases scored : extended.cvss with
      | none =>
          obtain ⟨wider, widerDemanded, widerColumns⟩ := exists_fixedByDemand scored stillAsked
          exact ⟨.fixedBy, .fixedBy, wider, widerDemanded,
            widerColumns ▸ List.Subset.refl _⟩
      | some policy =>
          obtain ⟨wider, widerDemanded, widerColumns⟩ := exists_cvssDemand scored
          refine ⟨.cvss, .cvss, wider, widerDemanded, ?_⟩
          rw [widerColumns, fixedColumn, stillAsked]
          simp

end Extended

theorem OfVulnerability.reads
    {check : LinkedCheck}
    (ofVulnerability : check.OfVulnerability) :
    (LeafCheck.linked check).Reads .image := by
  cases ofVulnerability with
  | cvss => exact LeafCheck.reads_cvss
  | fixedBy => exact LeafCheck.reads_fixedBy

/-- What is contributed for scores and fixed versions is entailed by what is
contributed for them to an extended policy. -/
theorem OfVulnerability.exists_entails
    {registry : FieldRegistry}
    {fields extended : PolicyFields}
    (isStandard : registry.IsStandard)
    (extension : extended.Extends fields)
    {check : LinkedCheck}
    (ofVulnerability : check.OfVulnerability)
    {part : Contribution}
    (run : (Check.ofLinked check).contribution? fields registry = .ok (some part)) :
    ∃ other : LinkedCheck, other.OfVulnerability ∧
      ∀ outcome, (Check.ofLinked other).contribution? extended registry = .ok outcome →
        ∃ strong ∈ outcome, strong.query.Entails part.query := by
  obtain ⟨plain, plainRun, rfl⟩ := LeafCheck.contribution?_eq_ok_some_iff.1 run
  obtain ⟨demand, demanded, weakContributed⟩ := LeafCheck.linked_contributed_iff.1 plainRun
  obtain ⟨exacting, other, otherOfVulnerability, wider, otherDemanded, subset⟩ :=
    ofVulnerability.exists_demand extension demanded
  refine ⟨other, otherOfVulnerability, fun outcome otherRun => ?_⟩
  obtain ⟨strong, strongRun, rfl⟩ := Outcome.map_eq_ok_iff.1 otherRun
  obtain ⟨strongPlain, strongContributed, rfl⟩ :=
    Outcome.map_eq_ok_iff.1
      ((LeafCheck.linkedContribution?_of_demand otherDemanded).symm.trans strongRun)
  refine ⟨_, rfl, LeafCheck.entails_of_plainContribution? isStandard otherOfVulnerability.reads
    ofVulnerability.reads strongRun plainRun fun now values matched => ?_⟩
  exact LinkedDemand.isMatch_of_columns_subset strongContributed weakContributed subset exacting
    matched

theorem OfVulnerability.mem_standard
    {check : LinkedCheck}
    (ofVulnerability : check.OfVulnerability) :
    Check.ofLinked check ∈ Check.standard := by
  cases ofVulnerability <;> simp [Check.standard]

end LinkedCheck

/-! ## Policies -/

namespace Compiler

variable
  {compiler : Compiler}
  {policy extendedPolicy : Policy}
  {fields extended : PolicyFields}
  {added extendedAdded : List Check}
  {contribution extendedContribution : Contribution}
  {scope extendedScope : Option Query}

/-- A threshold that is kept adds the same check. -/
theorem permissionChecks_subset
    {policyName otherName : String}
    (extension : extended.Extends fields)
    (permitted : compiler.permissionChecks policyName fields = .ok added)
    (extendedPermitted : compiler.permissionChecks otherName extended = .ok extendedAdded) :
    added ⊆ extendedAdded := by
  unfold permissionChecks at permitted extendedPermitted
  rcases extension.permission with unset | same
  · have idle : added = [] := by simpa [unset] using permitted.symm
    simp [idle]
  · rw [same] at extendedPermitted
    split at permitted
    · cases permitted
      exact List.nil_subset _
    · rename_i asked
      rw [if_neg asked] at extendedPermitted
      cases attached : compiler.store with
      | none => simp [attached] at permitted
      | some store =>
          simp only [attached, Except.ok.injEq] at permitted extendedPermitted
          rw [← permitted, ← extendedPermitted]
          exact List.Subset.refl _

/-- What an extended policy demands entails what the policy demands. -/
theorem Gathers.entails_of_extends
    (gathers : compiler.Gathers policy fields added contribution scope)
    (extendedGathers : compiler.Gathers extendedPolicy extended extendedAdded
      extendedContribution extendedScope)
    (isStandard : compiler.registry.IsStandard)
    (standardChecks : compiler.checks = Check.standard)
    (extension : extended.Extends fields) :
    extendedContribution.query.Entails contribution.query := by
  obtain ⟨parts, partsRun, combined⟩ := gathers.exists_contributions
  obtain ⟨extendedParts, extendedRun, extendedCombined⟩ := extendedGathers.exists_contributions
  apply Contribution.entails_of_combined?_all extendedCombined combined
  intro part member
  obtain ⟨check, inChecks, run⟩ := Check.exists_of_mem_contributions partsRun member
  have persistent
      (stays : check ∈ compiler.checks ++ extendedAdded)
      (persists : check.Persists compiler.registry fields extended) :
      ∃ other ∈ extendedParts, other.query.Entails part.query := by
    obtain ⟨outcome, outcomeRun, subset⟩ := Check.exists_outcome_of_mem extendedRun stays
    cases Except.ok.inj (outcomeRun.symm.trans (persists part run))
    exact ⟨part, subset part rfl, .refl _⟩
  rcases List.mem_append.1 inChecks with inStandard | inAdded
  · rcases Check.persists_standard extension check (standardChecks ▸ inStandard) with
      persists | joint
    · exact persistent (List.mem_append_left _ inStandard) persists
    · obtain ⟨linked, rfl, ofVulnerability⟩ :
          ∃ linked, check = .ofLinked linked ∧ linked.OfVulnerability := by
        rcases joint with rfl | rfl
        · exact ⟨_, rfl, .cvss⟩
        · exact ⟨_, rfl, .fixedBy⟩
      obtain ⟨other, otherOfVulnerability, entails⟩ :=
        ofVulnerability.exists_entails isStandard extension run
      have otherMember : Check.ofLinked other ∈ compiler.checks ++ extendedAdded := by
        rw [standardChecks]
        exact List.mem_append_left _ otherOfVulnerability.mem_standard
      obtain ⟨outcome, outcomeRun, subset⟩ := Check.exists_outcome_of_mem extendedRun otherMember
      obtain ⟨strong, present, strongEntails⟩ := entails outcome outcomeRun
      exact ⟨strong, subset strong present, strongEntails⟩
  · obtain rfl | ⟨store, rfl⟩ := permissionChecks_eq_ok gathers.permitted
    · simp at inAdded
    · have stays := permissionChecks_subset extension gathers.permitted extendedGathers.permitted
      cases List.mem_singleton.1 inAdded
      exact persistent (List.mem_append_right _ (stays inAdded))
        (Check.persists_permission extension store)

/-- A policy that extends another one, with the same scope, fires only where the
other one does. -/
theorem fires_of_extends
    {matcher extendedMatcher : Matcher}
    (isStandard : compiler.registry.IsStandard)
    (standardChecks : compiler.checks = Check.standard)
    (set : policy.fields = some fields)
    (extendedSet : extendedPolicy.fields = some extended)
    (extension : extended.Extends fields)
    (sameScope : extendedPolicy.scope = policy.scope)
    (compiled : compiler.compile policy = .ok matcher)
    (extendedCompiled : compiler.compile extendedPolicy = .ok extendedMatcher)
    {now : Calendar.Instant}
    {subjects : Subjects}
    (fires : extendedMatcher.Fires now subjects) :
    matcher.Fires now subjects := by
  obtain ⟨_, added, contribution, scope, queries, gathers, split, rfl⟩ :=
    exists_gathers_of_compile_eq_ok compiled
  obtain ⟨_, extendedAdded, extendedContribution, extendedScope, extendedQueries,
    extendedGathers, extendedSplit, rfl⟩ := exists_gathers_of_compile_eq_ok extendedCompiled
  cases Option.some.inj (set.symm.trans (fields_of_constraints gathers.constrained))
  cases Option.some.inj (extendedSet.symm.trans (fields_of_constraints extendedGathers.constrained))
  have same : extendedScope = scope := by
    have limited := extendedGathers.limited
    rw [sameScope, gathers.limited] at limited
    exact (Except.ok.inj limited).symm
  subst same
  have entails :=
    gathers.entails_of_extends extendedGathers isStandard standardChecks extension
  exact extendedGathers.fires_of_entails_of_standard gathers isStandard isStandard extendedSplit
    split (entails.gated extendedScope) fires standardChecks standardChecks
    (fun _ asked => extension.imageAgeDays.eq_some asked)
    (fun _ asked => extension.scanAgeDays.eq_some asked)

/-- A policy on privileged containers fires on a deployment where it fires on an
unscanned image as well, which it does not look at. -/
theorem fires_of_extends_of_no_scan :
    ∃ matcher extendedMatcher,
      ({ registry := .standard } : Compiler).compile
          { name := "privileged", fields := some { privileged := some true } } =
        .ok matcher ∧
      ({ registry := .standard } : Compiler).compile privilegedUnscanned = .ok extendedMatcher ∧
      ∀ now,
        extendedMatcher.Fires now { deployment := some .privileged, images := [{ id := "" }] } ∧
          matcher.Fires now { deployment := some .privileged, images := [{ id := "" }] } := by
  refine ⟨_, _, rfl, rfl, fun now => ?_⟩
  constructor
  · exact ⟨_, rfl, rfl⟩
  · refine
      @fires_of_extends { registry := .standard }
        { name := "privileged", fields := some { privileged := some true } }
        privilegedUnscanned
        _ _ _ _ FieldRegistry.isStandard_standard rfl rfl rfl
        { PolicyFields.Extends.refl { privileged := some true } with noScanExists := .inl rfl }
        rfl rfl rfl now _ ?_
    exact ⟨_, rfl, rfl⟩

end Compiler
end WorkloadPolicy
