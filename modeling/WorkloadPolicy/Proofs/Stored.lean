import Mathlib.Algebra.Group.Int.Defs
import WorkloadPolicy.Report.Reading

/-!
# Printers that are stored

A printer is read back from its JSON form, whatever is nested in it, and so
tells the same alerts.  Every form names itself by a member, and the reader of
that form finds each of its members by name; a printer inside another one is
read like one that stands alone.
-/

namespace WorkloadPolicy

open Json

theorem mapM_map_eq_some
    {encode : α → β}
    {read : β → Option α}
    {values : List α}
    (inverse : ∀ value ∈ values, read (encode value) = some value) :
    (values.map encode).mapM read = some values := by
  induction values with
  | nil => rfl
  | cons value values hypothesis =>
      obtain ⟨first, others⟩ := List.forall_mem_cons.1 inverse
      simp [List.mapM_cons, first, hypothesis others]

/-! ## Templates -/

theorem Comparator.read?_name (comparator : Comparator) :
    Comparator.read? (Json.text comparator.name) = some comparator := by
  cases comparator <;> rfl

namespace FieldTemplate

/-- The thresholds of a field template. -/
def thresholds : FieldTemplate → List Float
  | threshold _ _ limit => [limit]
  | _ => []

/-- The day counts of a field template. -/
def dayCounts : FieldTemplate → List Int
  | age _ days => [days]
  | _ => []

theorem read?_toJson
    (template : FieldTemplate)
    (finite : ∀ limit ∈ template.thresholds, limit.isFinite = true)
    (fit : ∀ days ∈ template.dayCounts, days < 2 ^ 63) :
    read? template.toJson = some template := by
  cases template with
  | matched label pattern => rfl
  | threshold description comparator limit =>
      -- The members are found by their names; what is left is to read them.
      show ((Comparator.read? (Json.text comparator.name)).bind fun comparator =>
          (ofNumber limit).number?.bind fun limit =>
            some (threshold description comparator limit)) = _
      rw [Comparator.read?_name, ofNumber_of_isFinite (finite limit (.head _))]
      rfl
  | age label days =>
      show (if days < 2 ^ 63 then some days else none).bind (fun days => some (age label days)) = _
      rw [if_pos (fit days (.head _))]
      rfl
  | flag message => rfl
  | capability list present => rfl
  | mapEntry subject policy key value => rfl
  | process aspect pattern => rfl

end FieldTemplate

namespace VolumeColumn

theorem read?_toJson (column : VolumeColumn) : read? column.toJson = some column := by
  cases column <;> rfl

end VolumeColumn

namespace LinkedTemplate

/-- The thresholds of a linked template. -/
def thresholds : LinkedTemplate → List Float
  | cvss _ threshold => [threshold]
  | _ => []

theorem read?_toJson
    (template : LinkedTemplate)
    (finite : ∀ limit ∈ template.thresholds, limit.isFinite = true) :
    read? template.toJson = some template := by
  cases template with
  | dockerfileLine instruction value => rfl
  | cve pattern => rfl
  | cvss comparator threshold =>
      show ((Comparator.read? (Json.text comparator.name)).bind fun comparator =>
          (ofNumber threshold).number?.bind fun threshold =>
            some (cvss comparator threshold)) = _
      rw [Comparator.read?_name, ofNumber_of_isFinite (finite threshold (.head _))]
      rfl
  | fixedBy pattern => rfl
  | hostMount readOnly => rfl
  | volume columns =>
      show ((columns.map VolumeColumn.toJson).mapM VolumeColumn.read?).bind
        (fun columns => some (volume columns)) = _
      rw [mapM_map_eq_some fun column _ => column.read?_toJson]
      rfl

end LinkedTemplate

/-! ## Printers -/

namespace Printer

mutual

/-- The thresholds in a printer. -/
def thresholds : Printer → List Float
  | field _ template => template.thresholds
  | linked _ template => template.thresholds
  | fixed _ => []
  | concat printers => thresholdsOfAll printers

/-- The thresholds in several printers. -/
def thresholdsOfAll : List Printer → List Float
  | [] => []
  | printer :: printers => thresholds printer ++ thresholdsOfAll printers

end

mutual

/-- The day counts in a printer. -/
def dayCounts : Printer → List Int
  | field _ template => template.dayCounts
  | linked _ _ => []
  | fixed _ => []
  | concat printers => dayCountsOfAll printers

/-- The day counts in several printers. -/
def dayCountsOfAll : List Printer → List Int
  | [] => []
  | printer :: printers => dayCounts printer ++ dayCountsOfAll printers

end

theorem thresholdsOfAll_eq_flatMap (printers : List Printer) :
    thresholdsOfAll printers = printers.flatMap thresholds := by
  induction printers with
  | nil => rfl
  | cons printer printers hypothesis => simp [thresholdsOfAll, hypothesis]

theorem dayCountsOfAll_eq_flatMap (printers : List Printer) :
    dayCountsOfAll printers = printers.flatMap dayCounts := by
  induction printers with
  | nil => rfl
  | cons printer printers hypothesis => simp [dayCountsOfAll, hypothesis]

variable {printer : Printer} {printers : List Printer}

theorem thresholds_subset_concat (member : printer ∈ printers) :
    printer.thresholds ⊆ (concat printers).thresholds := by
  intro threshold among
  rw [thresholds, thresholdsOfAll_eq_flatMap]
  exact List.mem_flatMap.2 ⟨printer, member, among⟩

theorem dayCounts_subset_concat (member : printer ∈ printers) :
    printer.dayCounts ⊆ (concat printers).dayCounts := by
  intro days among
  rw [dayCounts, dayCountsOfAll_eq_flatMap]
  exact List.mem_flatMap.2 ⟨printer, member, among⟩

/-- The day counts of a printer have 64 bits and its thresholds are finite. -/
structure IsStorable (printer : Printer) : Prop where
  daysFit : ∀ days ∈ printer.dayCounts, -2 ^ 63 ≤ days ∧ days < 2 ^ 63
  finite : ∀ threshold ∈ printer.thresholds, threshold.isFinite = true

theorem readEach?_eq_mapM (items : List Json) :
    readEach? items = items.mapM (readAt? true) := by
  induction items with
  | nil => rfl
  | cons item items hypothesis => simp [readEach?, List.mapM_cons, hypothesis]

theorem IsStorable.of_mem_concat
    (storable : (concat printers).IsStorable)
    (member : printer ∈ printers) :
    printer.IsStorable where
  daysFit days among := storable.daysFit days (dayCounts_subset_concat member among)
  finite threshold among := storable.finite threshold (thresholds_subset_concat member among)

/-- A printer is read back wherever it stands. -/
theorem readAt?_toJson
    (storable : printer.IsStorable)
    (nested : Bool) :
    readAt? nested printer.toJson = some printer := by
  induction printer generalizing nested with
  | field key template =>
      show (FieldTemplate.read? template.toJson).bind
        (fun template => some (field key template)) = _
      rw [template.read?_toJson storable.finite fun days among => (storable.daysFit days among).2]
      rfl
  | linked keys template =>
      have readKeys : (keys.map Json.text).mapM Readable.text? = some keys :=
        mapM_map_eq_some fun _ _ => rfl
      show ((keys.map Json.text).mapM Readable.text?).bind
        (fun keys => (LinkedTemplate.read? template.toJson).bind
          fun template => some (linked keys template)) = _
      rw [readKeys, template.read?_toJson storable.finite]
      rfl
  | fixed message => rfl
  | concat printers hypothesis =>
      -- Inside another printer a form may also be named by its position, which no
      -- written printer uses: the hypothesis is taken for nested printers.
      have read : readEach? (toJsonAll printers) = some printers := by
        rw [readEach?_eq_mapM, toJsonAll_eq_map]
        exact mapM_map_eq_some fun printer member =>
          hypothesis printer member (storable.of_mem_concat member) true
      show (readEach? (toJsonAll printers)).map concat = _
      rw [read]
      rfl

/-! ## Stored printers -/

theorem read?_toJson (storable : printer.IsStorable) :
    read? printer.toJson = some printer :=
  readAt?_toJson storable false

/-- A printer whose thresholds are finite is read back from its JSON form, so that a
stored printer tells the same alerts of all highlights; and different printers have
different forms. -/
theorem stored_tells_same :
    (∀ printer : Printer,
      printer.IsStorable →
        read? printer.toJson = some printer ∧
          ∀ stored highlights,
            read? printer.toJson = some stored →
              stored.alerts highlights = printer.alerts highlights) ∧
      ∀ first second : Printer,
        first.IsStorable →
        second.IsStorable →
        first ≠ second →
          first.toJson ≠ second.toJson := by
  refine ⟨fun printer storable => ⟨read?_toJson storable, fun stored highlights read => ?_⟩,
    fun first second storableFirst storableSecond different same => different ?_⟩
  · rw [Option.some.inj ((read?_toJson storable).symm.trans read)]
  · have read := read?_toJson storableFirst
    rw [same, read?_toJson storableSecond] at read
    exact (Option.some.inj read).symm

/-- Printers of every form within one another. -/
def nestedReport : Printer :=
  concat
    [field "image.age" (.age "Image age" 30),
      concat
        [linked ["cvss", "cve"] (.cvss .greaterThanOrEquals 7.5),
          linked ["source", "read_only"]
            (.volume [.matched "Source" "\"/\\w+\"", .flag "Writable"]),
          field "cpu" (.threshold "CPU limit" .lessThan 0.5)],
      fixed "\tno owner"]

theorem stored_tells_same_of_nested :
    nestedReport.IsStorable ∧
      (fixed "\tno owner").IsStorable ∧
      read? nestedReport.toJson = some nestedReport ∧
      nestedReport.toJson ≠ (fixed "\tno owner").toJson := by
  have storable : nestedReport.IsStorable := ⟨by decide, by decide⟩
  have storableOther : (fixed "\tno owner").IsStorable := ⟨by decide, by decide⟩
  obtain ⟨read, -⟩ := stored_tells_same.1 nestedReport storable
  exact ⟨storable, storableOther, read,
    stored_tells_same.2 nestedReport (fixed "\tno owner") storable storableOther
      (by simp [nestedReport])⟩

end Printer
end WorkloadPolicy
