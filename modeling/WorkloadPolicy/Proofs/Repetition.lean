import WorkloadPolicy.Proofs.Telling

/-!
# Repeated highlights

A check may stand several times in a tree, and each time its predicate matches it adds the
same highlights.  A printer that reads such repeated highlights tells nothing that it would
not tell of them once.
-/

namespace WorkloadPolicy

/-! ## Repeated columns -/

/-- A value of a repeated list is a value of the list, at the same place for all lists of
one length. -/
theorem exists_getElem?_flatten_replicate
    {length count index : Nat}
    (within : index < count * length) :
    ∃ place < length, ∀ column : List String, column.length = length →
      (List.replicate count column).flatten[index]? = column[place]? := by
  induction count generalizing index with
  | zero => omega
  | succ count hypothesis =>
      by_cases first : index < length
      · refine ⟨index, first, fun column equal => ?_⟩
        rw [List.replicate_succ, List.flatten_cons, List.getElem?_append_left (by omega)]
      · rw [Nat.succ_mul] at within
        obtain ⟨place, inside, same⟩ :=
          hypothesis (by omega : index - length < count * length)
        refine ⟨place, inside, fun column equal => ?_⟩
        rw [List.replicate_succ, List.flatten_cons, List.getElem?_append_right (by omega), equal]
        exact same column equal

namespace Highlights

/-- Under some keys highlights have the values of others, equally often repeated. -/
def Repeats (keys : List String) (own shown : Highlights) : Prop :=
  ∃ count, ∀ key ∈ keys, shown.get key = (List.replicate count (own.get key)).flatten

namespace Repeats

variable {keys : List String} {own shown : Highlights}

theorem of_silent (silent : ∀ key ∈ keys, shown.get key = []) : Repeats keys own shown :=
  ⟨0, fun key member => by simp [silent key member]⟩

theorem refl (keys : List String) (own : Highlights) : Repeats keys own own :=
  ⟨1, fun key _ => by simp⟩

theorem append
    {other : Highlights}
    (first : Repeats keys own shown)
    (second : Repeats keys own other) :
    Repeats keys own (shown ++ other) := by
  obtain ⟨firstCount, firstValues⟩ := first
  obtain ⟨secondCount, secondValues⟩ := second
  refine ⟨firstCount + secondCount, fun key member => ?_⟩
  rw [get_append, firstValues key member, secondValues key member, List.replicate_add,
    List.flatten_append]

theorem concat
    {parts : List Highlights}
    (each : ∀ part ∈ parts, Repeats keys own part) :
    Repeats keys own (Highlights.concat parts) := by
  induction parts with
  | nil => exact of_silent fun _ _ => rfl
  | cons part parts hypothesis =>
      obtain ⟨first, others⟩ := List.forall_mem_cons.1 each
      exact first.append (hypothesis others)

end Repeats
end Highlights

namespace Verdict

variable {keys : List String} {own : Highlights} {verdicts : List Verdict}

theorem repeats_found_all
    (each : ∀ verdict ∈ verdicts, Highlights.Repeats keys own verdict.found) :
    Highlights.Repeats keys own (all verdicts).found := by
  cases outcome : all verdicts with
  | matched highlights =>
      obtain ⟨-, rfl⟩ := all_eq_matched_iff.1 outcome
      exact .concat (by simpa using each)
  | unmatched => exact .of_silent fun _ _ => rfl
  | fault => exact .of_silent fun _ _ => rfl

theorem repeats_found_any
    (each : ∀ verdict ∈ verdicts, Highlights.Repeats keys own verdict.found) :
    Highlights.Repeats keys own (any verdicts).found := by
  cases outcome : any verdicts with
  | matched highlights =>
      obtain ⟨-, -, rfl⟩ := any_eq_matched_iff.1 outcome
      exact .concat (by simpa using each)
  | unmatched => exact .of_silent fun _ _ => rfl
  | fault => exact .of_silent fun _ _ => rfl

end Verdict

/-! ## Printers of repeated highlights -/

/-- A template tells nothing of repeated values that it would not tell of them once. -/
theorem FieldTemplate.mem_alerts_of_flatten_replicate
    {template : FieldTemplate}
    {count : Nat}
    {values : List String}
    {alert : Alert}
    (told : alert ∈ template.alerts (List.replicate count values).flatten) :
    alert ∈ template.alerts values := by
  unfold alerts at told ⊢
  obtain ⟨value, member, rfl⟩ := List.mem_map.1 told
  refine List.mem_map_of_mem ?_
  cases once : template.isOnce with
  | true =>
      simp only [once, ↓reduceIte] at member ⊢
      cases count with
      | zero => simp at member
      | succ count =>
          cases values with
          | nil => simp at member
          | cons first others => simpa [List.replicate_succ] using member
  | false =>
      simp only [once, Bool.false_eq_true, ↓reduceIte] at member ⊢
      obtain ⟨copy, inCopies, inside⟩ := List.mem_flatten.1 member
      rwa [List.eq_of_mem_replicate inCopies] at inside

theorem Printer.mem_alerts_field_of_repeats
    {key : String}
    {template : FieldTemplate}
    {own shown : Highlights}
    (repeats : Highlights.Repeats [key] own shown)
    {alert : Alert}
    (told : alert ∈ (field key template).alerts shown) :
    alert ∈ (field key template).alerts own := by
  obtain ⟨count, values⟩ := repeats
  rw [alerts, values key (List.mem_singleton_self key)] at told
  exact FieldTemplate.mem_alerts_of_flatten_replicate told

/-- A linked printer that finds its columns level tells nothing of repeated rows that it
would not tell of them once. -/
theorem Printer.mem_alerts_linked_of_repeats
    {keys : List String}
    {template : LinkedTemplate}
    {own shown : Highlights}
    (level : own.Level keys)
    (repeats : Highlights.Repeats keys own shown)
    {alert : Alert}
    (told : alert ∈ (linked keys template).alerts shown) :
    alert ∈ (linked keys template).alerts own := by
  obtain ⟨length, lengths⟩ := level
  obtain ⟨count, values⟩ := repeats
  obtain ⟨row, inRows, inRow⟩ := List.mem_flatMap.1 told
  refine List.mem_flatMap.2 ⟨row, ?_, inRow⟩
  have inhabited : keys ≠ [] := by
    rintro rfl
    simp [rowsOfColumns] at inRows
  have shownLevel : ∀ column ∈ keys.map shown.get, column.length = count * length := by
    rw [List.forall_mem_map]
    intro key member
    simp [values key member, lengths key member]
  rw [rowsOfColumns_eq (by simpa using inhabited) shownLevel] at inRows
  rw [rowsOfColumns_eq (by simpa using inhabited) (List.forall_mem_map.2 lengths)]
  obtain ⟨index, within, rfl⟩ := List.mem_map.1 inRows
  obtain ⟨place, inside, same⟩ :=
    exists_getElem?_flatten_replicate (List.mem_range.1 within)
  refine List.mem_map.2 ⟨place, List.mem_range.2 inside, ?_⟩
  rw [List.map_map, List.map_map]
  apply List.map_congr_left
  intro key member
  simp only [Function.comp_apply]
  rw [values key member, same _ (lengths key member)]

end WorkloadPolicy
