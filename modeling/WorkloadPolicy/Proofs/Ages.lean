import WorkloadPolicy.Proofs.Timestamps
import WorkloadPolicy.Proofs.Unscanned

/-!
# Ages of images

Two checks compare the age of an image with a count of days: that of the time at which it was
built and that of the time of its scan.  An image carries its times as texts, which are read
again when they are compared and when they are told of.  Both checks see the instant that the
image came with, as long as its year has four digits; an image of any other year never matches.
-/

namespace WorkloadPolicy

open Calendar

/-- A time of an image whose age can be checked. -/
inductive ImageTime where
  /-- When the image was built. -/
  | created
  /-- When the image was scanned. -/
  | scanned
  deriving DecidableEq, Repr

namespace ImageTime

/-- The name of the check of a time. -/
def name : ImageTime → String
  | created => "image age"
  | scanned => "scan age"

/-- The field of a time. -/
def label : ImageTime → FieldLabel
  | created => .imageCreatedTime
  | scanned => .imageScanTime

/-- What alerts call a time. -/
def subject : ImageTime → String
  | created => "Time of image creation"
  | scanned => "Time of last scan"

/-- The days that a policy asks for. -/
def days? : ImageTime → PolicyFields → Option Int
  | created => PolicyFields.imageAgeDays
  | scanned => PolicyFields.scanAgeDays

/-- The time of an image, if that is known. -/
def of? : ImageTime → Image → Option Instant
  | created => Image.created
  | scanned => Image.scanTime

/-- The check of the age of a time. -/
def check (time : ImageTime) : LeafCheck :=
  .field (.age time.name time.label time.subject time.days?)

theorem standardLeaf?_name (time : ImageTime) :
    Check.standardLeaf? time.name = some time.check := by
  cases time <;> rfl

theorem get_fieldValues (time : ImageTime) (image : Image) :
    image.fieldValues.get time.label.metadata.path = (time.of? image).toList.map (·.text) := by
  cases time with
  | created => exact image.get_created
  | scanned => exact image.get_scanTime

/-- What the check of a time contributes to a policy that asks for some days. -/
def part (time : ImageTime) (days : Int) : Contribution where
  query := .leaf
    ((FieldQuery.ofField time.label time.label.metadata (.olderThanDays days)).keyed time.name)
  printer := .field (highlightKey time.name time.label.metadata.path) (.age time.subject days)

section Parts

variable
  {time : ImageTime}
  {fields : PolicyFields}
  {registry : FieldRegistry}
  {days : Int}
  {outcome : Option Contribution}

theorem demand?_check (asked : time.days? fields = some days) :
    (FieldCheck.age time.name time.label time.subject time.days?).demand? fields =
      .ok (some (.age time.subject days)) := by
  simp [FieldCheck.age, asked]

/-- A check of a time contributes what a policy asks for. -/
theorem eq_part_of_contribution?
    (isStandard : registry.IsStandard)
    (asked : time.days? fields = some days)
    (run : time.check.contribution? fields registry = .ok outcome) :
    outcome = some (time.part days) := by
  obtain ⟨metadata, plain, found, served, -, rfl⟩ :=
    LeafCheck.exists_plain_of_demand (demand?_check asked) run
  cases isStandard _ _ found
  cases served
  rfl

/-- A check of a time fails over its field only. -/
theorem lookup_eq_none_of_contribution?
    (isStandard : registry.IsStandard)
    (asked : time.days? fields = some days)
    {error : CheckError}
    (failed : time.check.contribution? fields registry = .error error) :
    registry.lookup time.label = none := by
  rcases LeafCheck.lookup_eq_none_or_of_demand isStandard (demand?_check asked) failed with
    absent | refused
  · exact absent
  · cases refused

/-- A check of a time contributes nothing to a policy that asks for no days. -/
theorem eq_none_of_contribution?
    (unasked : time.days? fields = none)
    (run : time.check.contribution? fields registry = .ok outcome) :
    outcome = none := by
  obtain ⟨plain, plainRun, rfl⟩ := Outcome.map_eq_ok_iff.1 run
  have nothing : time.check.plainContribution? fields registry = .ok none := by
    show (Except.ok ((time.days? fields).map (FieldDemand.age time.subject)) >>= _) = _
    rw [unasked]
    rfl
  cases plainRun.symm.trans nothing
  rfl

end Parts

/-! ## Verdicts on images -/

section Verdicts

variable {time : ImageTime} {days : Int} {image : Image} {instant : Instant}

/-- The verdict on an image is that on the text of the time, if that is known. -/
theorem evaluate_part (now : Instant) :
    (time.part days).query.evaluate now image.fieldValues =
      match time.of? image with
      | none => .unmatched
      | some instant =>
          if (Operation.olderThanDays days).faults instant.text then
            .fault
          else if (Operation.olderThanDays days).holds now instant.text then
            .matched (.ofKey (highlightKey time.name time.label.metadata.path) [instant.text])
          else
            .unmatched := by
  have verdict :
      (time.part days).query.evaluate now image.fieldValues =
        ((FieldQuery.ofField time.label time.label.metadata (.olderThanDays days)).keyed
          time.name).evaluate now (image.fieldValues.get time.label.metadata.path) :=
    Query.evaluate_leaf ..
  rw [verdict, get_fieldValues]
  cases time.of? image with
  | none => rfl
  | some instant =>
      simp only [FieldQuery.evaluate, FieldQuery.keyed, FieldQuery.ofField, Option.toList_some,
        List.map_cons, List.map_nil, List.any_cons, List.any_nil, Bool.or_false]
      split
      · rfl
      · cases holds : (Operation.olderThanDays days).holds now instant.text <;> simp [holds]

/-- Days that fit are compared with the time of an image if its year is plain. -/
theorem evaluate_part_of_isRead
    (isRead : instant.IsRead)
    (present : time.of? image = some instant)
    (fits : Instant.dayCountFits days = true)
    (now : Instant) :
    (time.part days).query.evaluate now image.fieldValues =
      if instant.date.HasPlainYear ∧
          days * secondsPerDay * nanosPerSecond < now.elapsed instant then
        .matched (.ofKey (highlightKey time.name time.label.metadata.path) [instant.text])
      else
        .unmatched := by
  have valid := isRead.isValid
  have faultless : (Operation.olderThanDays days).faults instant.text = false := by
    simp [Operation.faults, fits]
  have holds_iff :
      (Operation.olderThanDays days).holds now instant.text = true ↔
        instant.date.HasPlainYear ∧
          days * secondsPerDay * nanosPerSecond < now.elapsed instant := by
    by_cases plain : instant.date.HasPlainYear
    · have same := LocalTime.instant_of_lead_zero instant.date instant.second instant.nano
        valid.second
      simp [Operation.holds, readStrict?_text valid, plain, same, Instant.isOlderThan]
    · simp [Operation.holds, readStrict?_text valid, plain]
  rw [evaluate_part, present]
  simp only [faultless, holds_iff, Bool.false_eq_true, if_false]

/-- The alert about the text of a time shows the time itself. -/
theorem alerts_part
    (isRead : instant.IsRead)
    (plain : instant.date.HasPlainYear) :
    (time.part days).printer.alerts
        (.ofKey (highlightKey time.name time.label.metadata.path) [instant.text]) =
      [{ message :=
          time.subject ++ " '" ++ instant.shown ++ "' was more than " ++ toString days ++
            " days ago" }] := by
  rw [← readableTime_text isRead.isValid plain]
  simp [part, Printer.alerts, FieldTemplate.alerts, FieldTemplate.isOnce, FieldTemplate.message]

end Verdicts

/-! ## Checks of ages -/

/-- The standard checks of ages see the instant that an image carries.  Its text is read back to the
instant if the year has four digits, and not at all otherwise.  On an image with that time a
check for days that fit a duration then matches exactly if the year has four digits and more
than the days have passed, and its alert shows the date and the time of the instant. -/
theorem check_sees_instant
    {registry : FieldRegistry}
    (isStandard : registry.IsStandard)
    {instant : Instant}
    (isRead : instant.IsRead) :
    (match readStrict? instant.text with
      | some localTime => instant.date.HasPlainYear ∧ localTime.instant = instant
      | none => ¬ instant.date.HasPlainYear) ∧
    ∀ time : ImageTime, Check.standardLeaf? time.name = some time.check ∧
      ∀ fields days, time.days? fields = some days → Instant.dayCountFits days = true →
      match time.check.contribution? fields registry with
      | .error _ => registry.lookup time.label = none
      | .ok outcome =>
          ∃ part, outcome = some part ∧
            ∀ now image, time.of? image = some instant →
              match part.query.evaluate now image.fieldValues with
              | .matched highlights =>
                  (instant.date.HasPlainYear ∧
                    days * secondsPerDay * nanosPerSecond < now.elapsed instant) ∧
                  part.printer.alerts highlights =
                    [{ message :=
                        time.subject ++ " '" ++ instant.shown ++ "' was more than " ++
                          toString days ++ " days ago" }]
              | .unmatched =>
                  ¬ (instant.date.HasPlainYear ∧
                    days * secondsPerDay * nanosPerSecond < now.elapsed instant)
              | .fault => False := by
  constructor
  · rw [readStrict?_text isRead.isValid]
    by_cases plain : instant.date.HasPlainYear
    · rw [if_pos plain]
      exact ⟨plain, LocalTime.instant_of_lead_zero _ _ _ isRead.isValid.second⟩
    · rw [if_neg plain]
      exact plain
  · intro time
    refine ⟨time.standardLeaf?_name, fun fields days asked fits => ?_⟩
    cases run : time.check.contribution? fields registry with
    | error error => exact lookup_eq_none_of_contribution? isStandard asked run
    | ok outcome =>
        refine ⟨_, eq_part_of_contribution? isStandard asked run, fun now image present => ?_⟩
        rw [evaluate_part_of_isRead isRead present fits]
        by_cases older : instant.date.HasPlainYear ∧
            days * secondsPerDay * nanosPerSecond < now.elapsed instant
        · rw [if_pos older]
          exact ⟨older, alerts_part isRead older.1⟩
        · rw [if_neg older]
          exact older

end ImageTime

/-- The half of the leap second at the end of 2016. -/
def Calendar.Instant.leapSecond : Instant := ⟨⟨2016, 12, 31⟩, 86399, 1500000000⟩

namespace ImageTime

/-- An image that was built in a leap second is told of with second 60. -/
theorem check_sees_instant_of_leapSecond :
    ∃ part,
      ImageTime.created.check.contribution? { imageAgeDays := some 1 } .standard =
        .ok (some part) ∧
      ∃ highlights,
        part.query.evaluate Check.newYear
            ({ id := "", metadata := some { created := some .leapSecond } } : Image).fieldValues =
          .matched highlights ∧
        part.printer.alerts highlights =
          [{ message := "Time of image creation '2016-12-31 23:59:60' was more than 1 days ago" }]
    := by
  have isRead : Instant.leapSecond.IsRead := ⟨"2016-12-31T23:59:60.5Z", by decide +kernel⟩
  have sees := ((check_sees_instant FieldRegistry.isStandard_standard isRead).2 .created).2
    { imageAgeDays := some 1 } 1 rfl (by decide)
  cases run : ImageTime.created.check.contribution? { imageAgeDays := some 1 } .standard with
  | error error =>
      rw [run] at sees
      have missing : FieldRegistry.standard.lookup .imageCreatedTime = none := sees
      exact absurd missing (by decide)
  | ok outcome =>
      rw [run] at sees
      obtain ⟨part, rfl, seen⟩ := sees
      have verdict := seen Check.newYear
        { id := "", metadata := some { created := some .leapSecond } } rfl
      refine ⟨part, rfl, ?_⟩
      split at verdict
      · rename_i highlights matched
        exact ⟨highlights, matched, verdict.2.trans (by decide +kernel)⟩
      · exact absurd (by decide) verdict
      · exact verdict.elim

end ImageTime
end WorkloadPolicy
