import WorkloadPolicy.Proofs.Blocks
import WorkloadPolicy.Proofs.Firing

/-!
# More images

A predicate on images is satisfied by any one of them.  A policy that matches some images
therefore matches more of them and the same ones in another order.  Every image adds its
own block of highlights.  As long as no other leaf highlights anything under the keys of a
linked leaf, the blocks are level for each printer and no alert is lost: the report on more
images has all alerts of the report on fewer, at least as often.
-/

namespace WorkloadPolicy

open List (Subperm)

namespace Violations

/-- What a report says apart from its alerts: whether it is empty, and its violation by
processes. -/
def outline (violations : Violations) : Bool × Option ProcessViolation :=
  (violations.isEmpty, violations.process)

/-- A report extends another one if it reports something where the other does, and has
its violation by processes and all of its alerts, each at least as often. -/
structure Extends (larger smaller : Violations) : Prop where
  isEmpty : smaller.isEmpty = false → larger.isEmpty = false
  process : ∀ violation, smaller.process = some violation → larger.process = some violation
  alerts : Subperm smaller.alerts larger.alerts

namespace Extends

variable {first second : Violations}

/-- Every report extends the empty one. -/
theorem empty (violations : Violations) : violations.Extends {} where
  isEmpty reported := by simp [Violations.isEmpty] at reported
  process := by simp
  alerts := List.nil_subperm

theorem isEmpty_eq (forth : first.Extends second) (back : second.Extends first) :
    first.isEmpty = second.isEmpty := by
  have forthReported := forth.isEmpty
  have backReported := back.isEmpty
  cases empty : first.isEmpty <;> cases otherEmpty : second.isEmpty <;> simp_all

theorem process_eq (forth : first.Extends second) (back : second.Extends first) :
    first.process = second.process := by
  cases violation : second.process with
  | some violation => exact forth.process _ (by assumption)
  | none =>
      rw [Option.eq_none_iff_forall_not_mem]
      intro other present
      simp [back.process other present] at violation

/-- Reports that extend each other differ in the order of their alerts only. -/
theorem outline_eq (forth : first.Extends second) (back : second.Extends first) :
    first.outline = second.outline := by
  rw [outline, outline, forth.isEmpty_eq back, forth.process_eq back]

end Extends
end Violations

namespace Matcher

variable {now : Calendar.Instant} {matcher : Matcher} {subjects : Subjects}

/-- The highlights of each entity of a kind, in order. -/
def blocks
    (now : Calendar.Instant)
    (matcher : Matcher)
    (subjects : Subjects)
    (kind : EntityKind) : List Highlights :=
  match matcher.predicate kind with
  | none => []
  | some query => (subjects.values kind).map fun values => (query.evaluate now values).found

theorem found_kindVerdict
    {kind : EntityKind}
    (sound : matcher.kindVerdict now subjects kind ≠ .fault) :
    (matcher.kindVerdict now subjects kind).found =
      .concat (matcher.blocks now subjects kind) := by
  unfold blocks
  cases present : matcher.predicate kind with
  | none =>
      rw [kindVerdict_of_none present]
      rfl
  | some query =>
      rw [kindVerdict_of_some present] at sound ⊢
      rw [Verdict.found_any (by simpa using sound), List.map_map]
      rfl

/-- Without faults a run highlights the blocks of all entities, one after the other. -/
theorem found_eq_concat
    (sound : ∀ kind, matcher.kindVerdict now subjects kind ≠ .fault) :
    matcher.found now subjects =
      .concat
        (matcher.blocks now subjects .process ++
          (matcher.blocks now subjects .deployment ++ matcher.blocks now subjects .image)) := by
  rw [found, found_kindVerdict (sound _), found_kindVerdict (sound _),
    found_kindVerdict (sound _), Highlights.concat_append, Highlights.concat_append]

section More

variable
  {fewer more : Subjects}
  (less : ∀ kind, Subperm (fewer.values kind) (more.values kind))

include less

/-- More entities have more blocks. -/
theorem subperm_blocks (kind : EntityKind) :
    Subperm (matcher.blocks now fewer kind) (matcher.blocks now more kind) := by
  unfold blocks
  cases matcher.predicate kind with
  | none => exact .refl _
  | some query => exact subperm_map (less kind) _

/-- More entities highlight more under every key. -/
theorem subperm_get_found
    (sound : ∀ kind, matcher.kindVerdict now fewer kind ≠ .fault)
    (moreSound : ∀ kind, matcher.kindVerdict now more kind ≠ .fault)
    (key : String) :
    Subperm ((matcher.found now fewer).get key) ((matcher.found now more).get key) := by
  rw [found_eq_concat sound, found_eq_concat moreSound, Highlights.get_concat,
    Highlights.get_concat]
  exact subperm_flatMap
    ((subperm_blocks less _).append ((subperm_blocks less _).append (subperm_blocks less _))) _

/-- On the same entities in another order a report changes in its alerts only: every key has
as many values as before, so that no printer falls silent. -/
theorem outline_report_eq
    (greater : ∀ kind, Subperm (more.values kind) (fewer.values kind))
    (sound : ∀ kind, matcher.kindVerdict now fewer kind ≠ .fault)
    (moreSound : ∀ kind, matcher.kindVerdict now more kind ≠ .fault)
    (process : more.process = fewer.process) :
    (matcher.report more (matcher.found now more)).outline =
      (matcher.report fewer (matcher.found now fewer)).outline := by
  have lengths (key : String) :
      ((matcher.found now more).get key).length = ((matcher.found now fewer).get key).length :=
    ((subperm_get_found greater moreSound sound key).antisymm
      (subperm_get_found less sound moreSound key)).length_eq
  have silent :
      (matcher.printer.alerts (matcher.found now more)).isEmpty =
        (matcher.printer.alerts (matcher.found now fewer)).isEmpty := by
    rw [Bool.eq_iff_iff, List.isEmpty_iff, List.isEmpty_iff]
    exact Printer.alerts_eq_nil_iff_of_length_eq lengths
  simp only [Violations.outline, Violations.isEmpty, report, process, silent]

/-- What some entities satisfy, more of them satisfy. -/
theorem satisfied_of_subperm
    {kind : EntityKind}
    (satisfied : matcher.Satisfied now fewer kind) :
    matcher.Satisfied now more kind := by
  intro query present
  obtain ⟨values, supplied, isMatch⟩ := satisfied query present
  exact ⟨values, (less kind).subset supplied, isMatch⟩

end More

/-- A matcher without a predicate on images does not look at them. -/
theorem run_eq_of_no_image_predicate
    (absent : matcher.image = none)
    {deployment : Option Deployment}
    {process : Option ProcessIndicator}
    (images other : List Image) :
    matcher.run now { deployment, images, process } =
      matcher.run now { deployment, images := other, process } := by
  have verdict :
      matcher.verdict (Query.evaluate now) { deployment, images, process } =
        matcher.verdict (Query.evaluate now) { deployment, images := other, process } := by
    simp only [Matcher.verdict, absent, imagesVerdict]
  rw [run, runWith, verdict]
  rfl

end Matcher

namespace Compiler

section Gathered

variable
  {compiler : Compiler}
  {policy : Policy}
  {fields : PolicyFields}
  {added : List Check}
  {contribution : Contribution}
  {scope : Option Query}
  {queries : KindQueries}
  {policyName : String}
  {now : Calendar.Instant}
  {subjects : Subjects}
  (gathers : compiler.Gathers policy fields added contribution scope)
  (fit : compiler.AgesFit policy)
  (split : (gated scope contribution.query).split? = some queries)

section Fitting

include gathers fit split

/-- A policy whose ages fit matches exactly when it is satisfied, told of or not. -/
theorem Gathers.run_eq_empty_iff :
    (matcher policyName queries contribution.printer).run now subjects = .ok {} ↔
      ¬ ∀ kind, (matcher policyName queries contribution.printer).Satisfied now subjects kind := by
  refine ⟨fun empty satisfied => ?_, gathers.run_of_not_satisfied fit split⟩
  rw [gathers.run_of_satisfied fit split satisfied] at empty
  split at empty
  · simp at empty
  · rename_i reported
    rw [Except.ok.inj empty] at reported
    exact reported rfl

section More

variable
  {fewer more : Subjects}
  (less : ∀ kind, Subperm (fewer.values kind) (more.values kind))

include less

/-- What matches some entities matches more of them. -/
theorem Gathers.run_ne_empty_of_subperm
    (matched : (matcher policyName queries contribution.printer).run now fewer ≠ .ok {}) :
    (matcher policyName queries contribution.printer).run now more ≠ .ok {} := by
  rw [Ne, gathers.run_eq_empty_iff fit split, not_not] at matched ⊢
  exact fun kind => Matcher.satisfied_of_subperm less (matched kind)

/-- The same entities in another order change nothing but the alerts. -/
theorem Gathers.outline_run_eq
    (greater : ∀ kind, Subperm (more.values kind) (fewer.values kind))
    (process : more.process = fewer.process) :
    ((matcher policyName queries contribution.printer).run now more).map Violations.outline =
      ((matcher policyName queries contribution.printer).run now fewer).map
        Violations.outline := by
  by_cases satisfied :
      ∀ kind, (matcher policyName queries contribution.printer).Satisfied now fewer kind
  · have sound (subjects : Subjects) (kind : EntityKind) :
        (matcher policyName queries contribution.printer).kindVerdict now subjects kind ≠ .fault :=
      gathers.kindVerdict_ne_fault fit split kind
    have outline :=
      Matcher.outline_report_eq less greater (sound fewer) (sound more) process
    rw [gathers.run_of_satisfied fit split satisfied,
      gathers.run_of_satisfied fit split fun kind =>
        Matcher.satisfied_of_subperm less (satisfied kind),
      show Violations.isEmpty _ = Violations.isEmpty _ from congrArg Prod.fst outline]
    split
    · rfl
    · exact congrArg Except.ok outline
  · have moreUnsatisfied :
        ¬ ∀ kind, (matcher policyName queries contribution.printer).Satisfied now more kind :=
      fun moreSatisfied =>
        satisfied fun kind => Matcher.satisfied_of_subperm greater (moreSatisfied kind)
    rw [gathers.run_of_not_satisfied fit split satisfied,
      gathers.run_of_not_satisfied fit split moreUnsatisfied]

end More
end Fitting

section Apart

variable
  (apart : compiler.LinksApart)
  (isStandard : compiler.registry.IsStandard)

include gathers apart isStandard split

/-- The highlights of every entity are level for the checks of a policy. -/
theorem Gathers.level_blocks
    {kind : EntityKind}
    {block : Highlights}
    (member : block ∈ (matcher policyName queries contribution.printer).blocks now subjects kind)
    {group : List FieldQuery}
    (ofChecks : group ∈ contribution.query.groups) :
    block.Level (group.map (·.key)) := by
  unfold Matcher.blocks at member
  cases present : (matcher policyName queries contribution.printer).predicate kind with
  | none => simp [present] at member
  | some query =>
      simp only [present, List.mem_map] at member
      obtain ⟨values, supplied, rfl⟩ := member
      exact gathers.level_evaluate apart isStandard.hasDistinctPaths split ofChecks present
        (Subjects.belongTo_of_mem_values supplied)

include fit

/-- A policy whose ages fit gives a report on all entities. -/
theorem Gathers.exists_run_eq_ok :
    ∃ violations,
      (matcher policyName queries contribution.printer).run now subjects = .ok violations := by
  by_cases fires : (matcher policyName queries contribution.printer).Fires now subjects
  · obtain ⟨violations, ran, -⟩ := fires
    exact ⟨violations, ran⟩
  · rw [gathers.fires_iff apart isStandard fit split] at fires
    exact ⟨{}, gathers.run_of_not_satisfied fit split fires⟩

/-- A policy reports no less on more entities. -/
theorem Gathers.run_extends
    {fewer more : Subjects}
    (less : ∀ kind, Subperm (fewer.values kind) (more.values kind))
    (process : fewer.process = more.process) :
    ∃ violations extended,
      (matcher policyName queries contribution.printer).run now fewer = .ok violations ∧
        (matcher policyName queries contribution.printer).run now more = .ok extended ∧
        extended.Extends violations := by
  obtain ⟨violations, ran⟩ :=
    @Gathers.exists_run_eq_ok _ _ _ _ _ _ _ policyName now fewer gathers fit split apart
      isStandard
  obtain ⟨extended, moreRan⟩ :=
    @Gathers.exists_run_eq_ok _ _ _ _ _ _ _ policyName now more gathers fit split apart
      isStandard
  refine ⟨violations, extended, ran, moreRan, ?_⟩
  cases reported : violations.isEmpty with
  | true =>
      rw [(Violations.isEmpty_iff violations).1 reported]
      exact .empty extended
  | false =>
      have satisfied := satisfied_of_fires ⟨violations, ran, reported⟩
      obtain ⟨other, otherRan, moreReported⟩ :=
        (gathers.fires_iff apart isStandard fit split).2 fun kind =>
          Matcher.satisfied_of_subperm less (satisfied kind)
      cases moreRan.symm.trans otherRan
      obtain ⟨highlights, matched, rfl⟩ := Matcher.exists_highlights_of_run_eq_ok ran reported
      obtain ⟨moreHighlights, moreMatched, rfl⟩ :=
        Matcher.exists_highlights_of_run_eq_ok moreRan moreReported
      have sound (subjects : Subjects) (kind : EntityKind) :
          (matcher policyName queries contribution.printer).kindVerdict now subjects kind ≠
            .fault :=
        gathers.kindVerdict_ne_fault fit split kind
      cases (Matcher.verdict_eq_matched_iff.1 matched).2
      cases (Matcher.verdict_eq_matched_iff.1 moreMatched).2
      refine ⟨fun _ => moreReported, fun violation present => ?_, ?_⟩
      · rw [← present]
        simp only [Matcher.report, process]
      · simp only [Matcher.report, Matcher.found_eq_concat (sound _)]
        refine Check.subperm_alerts gathers.contributed ?_
          ((Matcher.subperm_blocks less .process).append
            ((Matcher.subperm_blocks less .deployment).append
              (Matcher.subperm_blocks less .image)))
        simp only [List.forall_mem_append]
        exact ⟨fun _ member _ => gathers.level_blocks split apart isStandard member,
          fun _ member _ => gathers.level_blocks split apart isStandard member,
          fun _ member _ => gathers.level_blocks split apart isStandard member⟩

end Apart
end Gathered

/-- More images hide nothing that a policy matches.  Their order is of no account for
whether it does, and the violation by processes stays the same.  As long as no other leaf
has the name of a linked one, their order is of no account for the alerts either, and with
a further image every alert is still there as often as before.  A policy that asks nothing
of images ignores them. -/
theorem run_extends_with_images
    {compiler : Compiler}
    {policy : Policy}
    {matcher : Matcher}
    (isStandard : compiler.registry.IsStandard)
    (fit : compiler.AgesFit policy)
    (compiled : compiler.compile policy = .ok matcher)
    (now : Calendar.Instant)
    (deployment : Option Deployment)
    (process : Option ProcessIndicator) :
    (∀ images other : List Image, images.Perm other →
      (matcher.run now { deployment, images := other, process }).map Violations.outline =
        (matcher.run now { deployment, images, process }).map Violations.outline) ∧
      (∀ (before : List Image) (image : Image) (after : List Image),
        matcher.run now { deployment, images := before ++ after, process } ≠ .ok {} →
          matcher.run now { deployment, images := before ++ image :: after, process } ≠ .ok {}) ∧
      (compiler.HasUniqueLinkedNames →
        (∀ images other : List Image, images.Perm other →
          ∃ violations otherViolations,
            matcher.run now { deployment, images, process } = .ok violations ∧
              matcher.run now { deployment, images := other, process } = .ok otherViolations ∧
              otherViolations.outline = violations.outline ∧
              otherViolations.alerts.Perm violations.alerts) ∧
          ∀ (before : List Image) (image : Image) (after : List Image),
            ∃ violations extended,
              matcher.run now { deployment, images := before ++ after, process } =
                  .ok violations ∧
                matcher.run now { deployment, images := before ++ image :: after, process } =
                  .ok extended ∧
                extended.Extends violations) ∧
      (matcher.image = none → ∀ images other : List Image,
        matcher.run now { deployment, images, process } =
          matcher.run now { deployment, images := other, process }) := by
  obtain ⟨fields, added, contribution, scope, queries, gathers, split, rfl⟩ :=
    exists_gathers_of_compile_eq_ok compiled
  have ofImages {images other : List Image} (less : Subperm images other) (kind : EntityKind) :
      Subperm (Subjects.values { deployment, images, process } kind)
        (Subjects.values { deployment, images := other, process } kind) := by
    cases kind with
    | deployment => exact .refl _
    | image => exact subperm_map less _
    | process => exact .refl _
  have ofInsertion (before : List Image) (image : Image) (after : List Image) :
      Subperm (before ++ after) (before ++ image :: after) :=
    ((List.sublist_cons_self image after).append_left before).subperm
  refine ⟨fun images other same => ?order, fun before image after => ?more, fun unique => ?alerts,
    fun absent => Matcher.run_eq_of_no_image_predicate absent⟩
  case order =>
    exact gathers.outline_run_eq fit split (ofImages same.subperm) (ofImages same.symm.subperm)
      rfl
  case more =>
    exact gathers.run_ne_empty_of_subperm fit split (ofImages (ofInsertion before image after))
  case alerts =>
    have grows {images other : List Image} (less : Subperm images other) :=
      @Gathers.run_extends compiler policy fields added contribution scope queries policy.name now
        gathers fit split (unique.linksApart isStandard) isStandard _ _ (ofImages less) rfl
    refine ⟨fun images other same => ?_, fun before image after =>
      grows (ofInsertion before image after)⟩
    obtain ⟨violations, otherViolations, ran, otherRan, forth⟩ := grows same.subperm
    obtain ⟨_, _, otherAgain, again, back⟩ := grows same.symm.subperm
    cases ran.symm.trans again
    cases otherRan.symm.trans otherAgain
    exact ⟨violations, otherViolations, ran, otherRan, forth.outline_eq back,
      back.alerts.antisymm forth.alerts⟩

end Compiler

/-- An image with one vulnerability and a reference on it. -/
def Image.vulnerableTo (cve : String) : Image :=
  .vulnerable [{ cve, link := "db/" ++ cve }]

namespace Compiler

/-- A vulnerable image in front takes nothing from what is told of another one. -/
theorem run_extends_with_images_of_vulnerable :
    ∃ matcher,
      ({ registry := .standard } : Compiler).compile
          { name := "vulnerable", fields := some { cve := some "1|2" } } = .ok matcher ∧
      ∃ violations extended,
        matcher.run Check.newYear { images := [.vulnerableTo "1"] } = .ok violations ∧
          violations.alerts =
            [{ message := "CVE 1 matched regex '1|2'", link := some "db/1" }] ∧
          matcher.run Check.newYear
              { images := [.vulnerableTo "2", .vulnerableTo "1"] } = .ok extended ∧
          extended.Extends violations := by
  obtain ⟨matcher, compiled, told⟩ :=
    @exists_run_of_outcome?_eq_some { registry := .standard }
      { name := "vulnerable", fields := some { cve := some "1|2" } } Check.newYear
      { images := [.vulnerableTo "1"] }
      (.ok { alerts := [{ message := "CVE 1 matched regex '1|2'", link := some "db/1" }] })
      (by decide +kernel)
  have known : IsKnown { registry := .standard } := fun leaf member => .inl member
  obtain ⟨-, -, alerts, -⟩ :=
    run_extends_with_images FieldRegistry.isStandard_standard
      (fun fields present => by
        cases present
        exact Check.agesFit_standard (by simp) (by simp))
      compiled Check.newYear none none
  obtain ⟨violations, extended, ran, extendedRan, more⟩ :=
    (alerts known.hasUniqueLinkedNames).2 [] (.vulnerableTo "2") [.vulnerableTo "1"]
  refine ⟨matcher, compiled, violations, extended, ran, ?_, extendedRan, more⟩
  cases told.symm.trans ran
  rfl

/-! ### A check with the name of a linked one -/

/-- A compiler whose only check asks for either of two leaves: the linked one on
identifiers of vulnerabilities, and one of the same name on the same field with a pattern
of its own. -/
def namesakes : Compiler where
  registry := .standard
  checks :=
    [.any
      [.ofLinked .cve, .ofField (.pattern "cve" .cve "CVE" false fun fields => fields.fixedBy)]]

/-- A pattern for each of the two leaves. -/
def namesakePolicy : Policy where
  name := "namesakes"
  fields := some { cve := some "1", fixedBy := some "2" }

theorem agesFit_namesakes : namesakes.AgesFit namesakePolicy := by
  intro fields present leaf member
  cases present
  simp only [namesakes, Check.ofLinked, Check.ofField, Check.leavesOfAll, Check.leaves,
    List.append_nil, List.cons_append, List.nil_append, List.mem_cons, List.not_mem_nil,
    or_false] at member
  rcases member with rfl | rfl
  · trivial
  · intro demand demanded
    cases demanded
    rfl

/-- With two leaves of one name a further image takes an alert away: it adds to one of the
two keys that the linked printer reads row by row, which then tells nothing. -/
theorem not_run_extends_with_images :
    namesakes.registry.IsStandard ∧ namesakes.AgesFit namesakePolicy ∧
    ∃ matcher, namesakes.compile namesakePolicy = .ok matcher ∧
      ∃ violations extended,
        matcher.run Check.newYear { images := [.vulnerableTo "1"] } = .ok violations ∧
          matcher.run Check.newYear
              { images := [.vulnerableTo "1", .vulnerableTo "2"] } = .ok extended ∧
          { message := "CVE 1 matched regex '1'", link := some "db/1" } ∈ violations.alerts ∧
          { message := "CVE 1 matched regex '1'", link := some "db/1" } ∉ extended.alerts := by
  refine ⟨FieldRegistry.isStandard_standard, agesFit_namesakes, ?_⟩
  obtain ⟨matcher, compiled, ran⟩ :=
    @exists_run_of_outcome?_eq_some namesakes namesakePolicy Check.newYear
      { images := [.vulnerableTo "1"] }
      (.ok
        { alerts :=
            [{ message := "CVE 1 matched regex '1'", link := some "db/1" },
              { message := "CVE '1' matched 2" }] })
      (by decide +kernel)
  obtain ⟨other, otherCompiled, otherRan⟩ :=
    @exists_run_of_outcome?_eq_some namesakes namesakePolicy Check.newYear
      { images := [.vulnerableTo "1", .vulnerableTo "2"] }
      (.ok { alerts := [{ message := "CVE '1' matched 2" }, { message := "CVE '2' matched 2" }] })
      (by decide +kernel)
  cases compiled.symm.trans otherCompiled
  exact ⟨matcher, compiled, _, _, ran, otherRan, by decide, by decide⟩

end Compiler
end WorkloadPolicy
