import WorkloadPolicy.Proofs.Flat
import WorkloadPolicy.Proofs.Repetition

/-!
# Which checks justify a message

A message is justified by a check that matches the entity by itself and tells the message
of its own highlights.  A disjunction keeps the highlights of the alternatives that match,
so that printers of highlights are silent about the others.  A fixed message is given
whatever was highlighted, also for an alternative that does not match: an image that has
been scanned is reported as not scanned when it is old.  Nothing else goes unjustified.
-/

namespace WorkloadPolicy
namespace Check

/-- A leaf of a tree matches an entity by itself and tells an alert of its own
highlights. -/
def Justifies
    (now : Calendar.Instant)
    (values : FieldValues)
    (fields : PolicyFields)
    (registry : FieldRegistry)
    (check : Check)
    (alert : Alert) : Prop :=
  ∃ leaf ∈ check.leaves, ∃ part highlights,
    leaf.contribution? fields registry = .ok (some part) ∧
      part.query.evaluate now values = .matched highlights ∧
        alert ∈ part.printer.alerts highlights

mutual

/-- The leaves of a tree that stand below some disjunction. -/
def alternatives : Check → List LeafCheck
  | leaf _ => []
  | all checks => alternativesOfAll checks
  | any checks => leavesOfAll checks

/-- The leaves of several trees that stand below some disjunction. -/
def alternativesOfAll : List Check → List LeafCheck
  | [] => []
  | check :: checks => alternatives check ++ alternativesOfAll checks

end

theorem mem_alternativesOfAll_iff {checks : List Check} {check : LeafCheck} :
    check ∈ alternativesOfAll checks ↔ ∃ tree ∈ checks, check ∈ tree.alternatives := by
  induction checks with
  | nil => simp [alternativesOfAll]
  | cons tree checks hypothesis => simp [alternativesOfAll, hypothesis]

end Check

/-! ## Printers of single checks -/

/-- A printer that gives no fixed message by itself tells nothing without highlights. -/
theorem Printer.alerts_linked_empty (keys : List String) (template : LinkedTemplate) :
    (linked keys template).alerts {} = [] := by
  rw [alerts, rowsOfColumns_empty]
  rfl

/-- What is told of a verdict's highlights is told of a match, if nothing is told without
highlights. -/
theorem Verdict.exists_of_mem_alerts_found
    {verdict : Verdict}
    {printer : Printer}
    (quiet : printer.alerts {} = [])
    {alert : Alert}
    (told : alert ∈ printer.alerts verdict.found) :
    ∃ highlights, verdict = .matched highlights ∧ alert ∈ printer.alerts highlights := by
  cases verdict with
  | matched highlights => exact ⟨highlights, rfl, told⟩
  | unmatched => simp [quiet] at told
  | fault =>
      have none : alert ∈ printer.alerts {} := told
      simp [quiet] at none

namespace LeafCheck

variable
  {check : LeafCheck}
  {fields : PolicyFields}
  {registry : FieldRegistry}
  {part : Contribution}
  {now : Calendar.Instant}
  {values : FieldValues}

/-- A check gives a fixed message, or it tells nothing of repetitions of its highlights
that it would not tell of them once. -/
theorem fixed_or_mem_alerts
    (contributed : check.contribution? fields registry = .ok (some part))
    (distinct : registry.HasDistinctPaths)
    {shown : Highlights}
    (repeats : Highlights.Repeats part.printer.keys (part.query.evaluate now values).found shown)
    {alert : Alert}
    (told : alert ∈ part.printer.alerts shown) :
    (∃ message, part.printer = .fixed message ∧ alert = { message := message }) ∨
      ∃ highlights, part.query.evaluate now values = .matched highlights ∧
        alert ∈ part.printer.alerts highlights := by
  obtain ⟨plain, run, equal⟩ := contribution?_eq_ok_some_iff.1 contributed
  have ofFixed {message : String} (printer : part.printer = .fixed message) :
      ∃ message, part.printer = .fixed message ∧ alert = { message := message } := by
    rw [printer, Printer.alerts, List.mem_singleton] at told
    exact ⟨message, printer, told⟩
  cases check with
  | field check =>
      obtain ⟨demand, metadata, operations, -, -, served⟩ := served_of_field_contributed run
      rcases served.printer with ⟨message, plainPrinter⟩ | ⟨⟨template, plainPrinter⟩, -⟩
      · exact .inl (ofFixed (by rw [← equal, Contribution.keyed, plainPrinter, Printer.keyed]))
      · have printer :
            part.printer = .field (highlightKey check.name metadata.path) template := by
          rw [← equal, Contribution.keyed, plainPrinter, Printer.keyed]
          rfl
        have quiet : part.printer.alerts {} = [] := by
          rw [printer, Printer.alerts, Highlights.get_empty, FieldTemplate.alerts_eq_nil_iff]
        refine .inr (Verdict.exists_of_mem_alerts_found quiet ?_)
        rw [printer] at told repeats ⊢
        exact Printer.mem_alerts_field_of_repeats repeats told
  | linked check =>
      obtain ⟨demand, leaves, -, served⟩ := served_of_linked_contributed run
      have query : part.query = .linked (leaves.map (·.keyed check.name)) := by
        rw [← equal]
        exact served.query_keyed check.name
      have printer :
          part.printer =
            .linked ((leaves.map (·.keyed check.name)).map (·.key)) demand.template := by
        rw [← equal]
        exact served.printer_keyed check.name
      have quiet : part.printer.alerts {} = [] := by
        rw [printer, Printer.alerts_linked_empty]
      have level :
          (part.query.evaluate now values).found.Level
            ((leaves.map (·.keyed check.name)).map (·.key)) := by
        apply Query.level_found (served.keys_nodup check.name distinct)
        rw [query, Query.groups_linked]
        exact List.forall_mem_singleton.2 (.own rfl)
      refine .inr (Verdict.exists_of_mem_alerts_found quiet ?_)
      rw [printer] at told repeats ⊢
      exact Printer.mem_alerts_linked_of_repeats level repeats told
  | permission store =>
      obtain ⟨accountFields, -, -, message, plainPrinter⟩ :=
        served_of_permission_contributed run
      exact .inl (ofFixed (by rw [← equal, Contribution.keyed, plainPrinter, Printer.keyed]))

/-- The printer of a permission check reads no highlights. -/
theorem keys_of_permission
    {store : Access.Store}
    (contributed :
      (permission store).contribution? fields registry = .ok (some part)) :
    part.printer.keys = [] := by
  obtain ⟨plain, run, rfl⟩ := contribution?_eq_ok_some_iff.1 contributed
  obtain ⟨accountFields, -, -, message, printer⟩ := served_of_permission_contributed run
  rw [Contribution.keyed, printer]
  rfl

/-- What checks of different names read and highlight stands under different keys. -/
theorem not_mem_keys_of_name_ne
    {other : LeafCheck}
    (known : check.IsKnown)
    (otherKnown : other.IsKnown)
    (different : check.name ≠ other.name)
    (contributed : check.contribution? fields registry = .ok (some part))
    {otherPart : Contribution}
    (otherContributed : other.contribution? fields registry = .ok (some otherPart))
    {key : String}
    (read : key ∈ part.printer.keys) :
    key ∉ otherPart.query.fields.map (·.key) := by
  intro highlighted
  obtain ⟨field, inPart, rfl⟩ := exists_field_of_mem_keyed_keys contributed read
  obtain ⟨otherField, inOther, same⟩ := List.mem_map.1 highlighted
  rw [key_of_contribution? contributed inPart, key_of_contribution? otherContributed inOther]
    at same
  exact different
    (highlightKey_inj otherKnown.slash_not_mem_name known.slash_not_mem_name same).1.symm

end LeafCheck

/-! ## Trees -/

namespace Check

variable
  {check : Check}
  {fields : PolicyFields}
  {registry : FieldRegistry}
  {contribution : Contribution}
  {leaf : LeafCheck}
  {part : Contribution}
  {now : Calendar.Instant}
  {values : FieldValues}

/-- Under the keys of a leaf a tree highlights what the leaf does, once for each time that
it matches. -/
theorem repeats_found
    (known : ∀ leaf ∈ check.leaves, leaf.IsKnown)
    (contributed : check.contribution? fields registry = .ok (some contribution))
    (leafKnown : leaf.IsKnown)
    (leafRun : leaf.contribution? fields registry = .ok (some part)) :
    Highlights.Repeats part.printer.keys (part.query.evaluate now values).found
      (contribution.query.evaluate now values).found := by
  refine contribution_induction
    (motive := fun whole => Highlights.Repeats part.printer.keys
      (part.query.evaluate now values).found (whole.query.evaluate now values).found)
    ?leaf ?all ?any contributed
  case leaf =>
    intro other inLeaves otherPart otherRun
    have otherKnown := known other inLeaves
    by_cases same : leaf.name = other.name
    · rcases leafKnown.eq_of_name_eq otherKnown same with rfl | ⟨⟨store, rfl⟩, -⟩
      · cases Option.some.inj (Except.ok.inj (otherRun.symm.trans leafRun))
        exact .refl _ _
      · refine .of_silent fun key member => ?_
        rw [LeafCheck.keys_of_permission leafRun] at member
        exact absurd member List.not_mem_nil
    · refine .of_silent fun key read => Query.get_found_of_not_mem now values ?_
      exact LeafCheck.not_mem_keys_of_name_ne leafKnown otherKnown same leafRun otherRun read
  case all =>
    intro parts whole combined each
    rw [Contribution.evaluate_of_combined?_all combined]
    exact Verdict.repeats_found_all (List.forall_mem_map.2 each)
  case any =>
    intro parts whole combined each
    rw [Contribution.evaluate_of_combined?_any combined]
    exact Verdict.repeats_found_any (List.forall_mem_map.2 each)

/-- When a tree matches, each of its leaves matches or stands below a disjunction. -/
theorem isMatch_or_mem_alternatives
    (contributed : check.contribution? fields registry = .ok (some contribution))
    (isMatch : (contribution.query.evaluate now values).isMatch = true)
    (inLeaves : leaf ∈ check.leaves)
    (leafRun : leaf.contribution? fields registry = .ok (some part)) :
    (part.query.evaluate now values).isMatch = true ∨ leaf ∈ check.alternatives := by
  induction check generalizing contribution with
  | leaf check =>
      cases List.mem_singleton.1 inLeaves
      have run : leaf.contribution? fields registry = .ok (some contribution) := contributed
      cases Option.some.inj (Except.ok.inj (run.symm.trans leafRun))
      exact .inl isMatch
  | all checks hypothesis =>
      obtain ⟨parts, partsRun, combined⟩ := contribution?_all_eq_ok_iff.1 contributed
      obtain ⟨check, inChecks, inCheck⟩ := mem_leavesOfAll_iff.1 inLeaves
      obtain ⟨outcome, outcomeRun, inParts⟩ := exists_outcome_of_mem partsRun inChecks
      have contributes : part ∈ check.contributed fields registry :=
        mem_contributed_iff.2 ⟨leaf, inCheck, leafRun⟩
      cases outcome with
      | none => simp [contributed_eq_nil outcomeRun] at contributes
      | some child =>
          rw [Contribution.evaluate_of_combined?_all combined, Verdict.isMatch_all,
            List.all_map, List.all_eq_true] at isMatch
          have childMatch := isMatch child (inParts child rfl)
          rcases hypothesis check inChecks outcomeRun childMatch inCheck with
            leafMatch | alternative
          · exact .inl leafMatch
          · exact .inr (mem_alternativesOfAll_iff.2 ⟨check, inChecks, alternative⟩)
  | any checks _ => exact .inr inLeaves

/-! ## An image that is reported as not scanned -/

/-- The check that images have been scanned. -/
def noScan : LeafCheck :=
  .field (.missing "no scan exists" .imageScanTime "Image has not been scanned"
    fun fields => fields.noScanExists)

/-- The check of the age of images. -/
def imageAge : LeafCheck :=
  .field (.age "image age" .imageCreatedTime "Time of image creation"
    fun fields => fields.imageAgeDays)

/-- Constraints that an image has not been scanned or is more than a day old. -/
def unscannedOrOld : PolicyFields :=
  { noScanExists := some true, imageAgeDays := some 1 }

/-- An image of the year 2001, scanned a day after it was built. -/
def scannedImage : Image :=
  { id := "sha256:1"
    metadata := some { created := some ⟨⟨2001, 2, 3⟩, 14706, 0⟩ }
    scan := some { scanTime := some ⟨⟨2001, 2, 4⟩, 14706, 0⟩ } }

/-- That an image has not been scanned or is old. -/
def noScanOrAge : Check :=
  any [.leaf noScan, .leaf imageAge]

theorem isKnown_of_mem_noScanOrAge : ∀ leaf ∈ noScanOrAge.leaves, leaf.IsKnown := by
  have standardLeaves : ∀ leaf ∈ [noScan, imageAge], leaf ∈ leavesOfAll standard := by
    simp [noScan, imageAge, standard, imageName, component, port, process, resources, ofField,
      ofLinked, leavesOfAll, leaves]
  exact fun leaf member => .inl (standardLeaves leaf member)

/-- The highlights of the image, which is old. -/
def ageHighlights : Highlights :=
  .ofKey "image age/image.metadata.created" ["2001-02-03T04:05:06+00:00"]

/-- Only the age is highlighted, but both messages are given. -/
theorem exists_contribution_noScanOrAge :
    ∃ contribution,
      noScanOrAge.contribution? unscannedOrOld .standard = .ok (some contribution) ∧
        contribution.query.evaluate newYear scannedImage.fieldValues = .matched ageHighlights ∧
        contribution.printer.alerts ageHighlights =
          [{ message := "Image has not been scanned" },
            { message :=
              "Time of image creation '2001-02-03 04:05:06' was more than 1 days ago" }] := by
  refine ⟨_, rfl, ?_, ?_⟩
  · decide +kernel
  · decide +kernel

/-- The message that an image has not been scanned is given about one that has been. -/
theorem not_justifies_noScan :
    ∃ contribution,
      (∀ leaf ∈ noScanOrAge.leaves, leaf.IsKnown) ∧
        noScanOrAge.contribution? unscannedOrOld .standard = .ok (some contribution) ∧
        contribution.query.evaluate newYear scannedImage.fieldValues = .matched ageHighlights ∧
        { message := "Image has not been scanned" } ∈
          contribution.printer.alerts ageHighlights ∧
        ¬ noScanOrAge.Justifies newYear scannedImage.fieldValues unscannedOrOld .standard
          { message := "Image has not been scanned" } := by
  obtain ⟨contribution, contributed, matched, alerts⟩ := exists_contribution_noScanOrAge
  refine ⟨contribution, isKnown_of_mem_noScanOrAge, contributed, matched, by simp [alerts], ?_⟩
  rintro ⟨leaf, inLeaves, part, highlights, run, partMatched, told⟩
  have either : leaf = noScan ∨ leaf = imageAge := by
    simpa [noScanOrAge, leavesOfAll] using inLeaves
  rcases either with rfl | rfl
  · obtain ⟨own, ownRun, unmatched⟩ :
        ∃ own, noScan.contribution? unscannedOrOld .standard = .ok (some own) ∧
          own.query.evaluate newYear scannedImage.fieldValues = .unmatched :=
      ⟨_, rfl, by decide +kernel⟩
    cases Option.some.inj (Except.ok.inj (ownRun.symm.trans run))
    simp [unmatched] at partMatched
  · obtain ⟨own, ownRun, ownMatched, ownAlerts⟩ :
        ∃ own, imageAge.contribution? unscannedOrOld .standard = .ok (some own) ∧
          own.query.evaluate newYear scannedImage.fieldValues = .matched ageHighlights ∧
          own.printer.alerts ageHighlights =
            [{ message :=
              "Time of image creation '2001-02-03 04:05:06' was more than 1 days ago" }] :=
      ⟨_, rfl, by decide +kernel, by decide +kernel⟩
    cases Option.some.inj (Except.ok.inj (ownRun.symm.trans run))
    cases Verdict.matched.inj (ownMatched.symm.trans partMatched)
    simp [ownAlerts] at told

/-! ## Justified messages -/

/-- Every alert about a match is justified, or it is a fixed message of a leaf below a
disjunction. -/
theorem justifies_or_fixed
    (isStandard : registry.IsStandard)
    (known : ∀ leaf ∈ check.leaves, leaf.IsKnown)
    (contributed : check.contribution? fields registry = .ok (some contribution))
    {highlights : Highlights}
    (matched : contribution.query.evaluate now values = .matched highlights)
    {alert : Alert}
    (told : alert ∈ contribution.printer.alerts highlights) :
    check.Justifies now values fields registry alert ∨
      ∃ leaf ∈ check.alternatives, ∃ part message,
        leaf.contribution? fields registry = .ok (some part) ∧
          part.printer = .fixed message ∧ alert = { message := message } := by
  rw [alerts_of_contribution? contributed, List.mem_flatMap] at told
  obtain ⟨part, inContributed, toldByPart⟩ := told
  obtain ⟨leaf, inLeaves, leafRun⟩ := mem_contributed_iff.1 inContributed
  have repeats :
      Highlights.Repeats part.printer.keys (part.query.evaluate now values).found
        (contribution.query.evaluate now values).found :=
    repeats_found known contributed (known leaf inLeaves) leafRun
  rw [matched] at repeats
  rcases LeafCheck.fixed_or_mem_alerts leafRun isStandard.hasDistinctPaths repeats toldByPart with
    ⟨message, printer, rfl⟩ | ⟨own, ownMatched, toldOfOwn⟩
  · rcases isMatch_or_mem_alternatives contributed (by rw [matched]; rfl) inLeaves leafRun with
      isMatch | alternative
    · refine .inl ⟨leaf, inLeaves, part, _, leafRun, Verdict.eq_matched_found isMatch, ?_⟩
      rw [printer, Printer.alerts]
      exact List.mem_singleton_self _
    · exact .inr ⟨leaf, alternative, part, message, leafRun, printer, rfl⟩
  · exact .inl ⟨leaf, inLeaves, part, own, leafRun, ownMatched, toldOfOwn⟩

/-- Of the messages about an old image one is justified and the other one is fixed. -/
theorem justifies_or_fixed_of_scannedImage :
    ∃ contribution,
      noScanOrAge.contribution? unscannedOrOld .standard = .ok (some contribution) ∧
        contribution.query.evaluate newYear scannedImage.fieldValues = .matched ageHighlights ∧
        ∀ alert ∈ contribution.printer.alerts ageHighlights,
          noScanOrAge.Justifies newYear scannedImage.fieldValues unscannedOrOld .standard alert ∨
            ∃ leaf ∈ noScanOrAge.alternatives, ∃ part message,
              leaf.contribution? unscannedOrOld .standard = .ok (some part) ∧
                part.printer = .fixed message ∧ alert = { message := message } := by
  obtain ⟨contribution, contributed, matched, -⟩ := exists_contribution_noScanOrAge
  refine ⟨contribution, contributed, matched, fun alert told => ?_⟩
  exact justifies_or_fixed FieldRegistry.isStandard_standard isKnown_of_mem_noScanOrAge
    contributed matched told

end Check
end WorkloadPolicy
