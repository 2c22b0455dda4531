import WorkloadPolicy.Compile.Matcher

/-!
# Verdicts of several predicates

Verdicts are combined over lists: all of them must match, or one of them must.
The combined verdict is a match exactly when its parts say so, and its
highlights are then those of the parts, put one after the other.
-/

namespace WorkloadPolicy
namespace Highlights

/-- Several journals, one after the other. -/
def concat (parts : List Highlights) : Highlights :=
  parts.foldr (· ++ ·) {}

@[simp] theorem concat_nil : concat [] = {} := rfl

@[simp] theorem concat_cons (part : Highlights) (parts : List Highlights) :
    concat (part :: parts) = part ++ concat parts := rfl

theorem concat_append (first second : List Highlights) :
    concat (first ++ second) = concat first ++ concat second := by
  induction first with
  | nil => simp
  | cons part first hypothesis =>
      rw [List.cons_append, concat_cons, hypothesis, concat_cons, append_assoc]

@[simp] theorem get_concat (parts : List Highlights) (key : String) :
    (concat parts).get key = parts.flatMap (·.get key) := by
  induction parts with
  | nil => simp
  | cons part parts hypothesis => simp [hypothesis]

end Highlights

namespace Verdict

/-- Whether a verdict is a match. -/
def isMatch : Verdict → Bool
  | matched _ => true
  | _ => false

/-- The highlights of a match; other verdicts have none. -/
def found : Verdict → Highlights
  | matched highlights => highlights
  | _ => {}

@[simp] theorem isMatch_matched (highlights : Highlights) :
    (matched highlights).isMatch = true := rfl

@[simp] theorem isMatch_unmatched : unmatched.isMatch = false := rfl

@[simp] theorem isMatch_fault : fault.isMatch = false := rfl

@[simp] theorem found_matched (highlights : Highlights) :
    (matched highlights).found = highlights := rfl

@[simp] theorem found_unmatched : unmatched.found = {} := rfl

/-- A match is a match with what was found. -/
theorem eq_matched_found {verdict : Verdict} (isMatch : verdict.isMatch = true) :
    verdict = matched verdict.found := by
  cases verdict with
  | matched highlights => rfl
  | unmatched => simp at isMatch
  | fault => simp at isMatch

theorem isMatch_iff_eq_matched (verdict : Verdict) :
    verdict.isMatch = true ↔ verdict = matched verdict.found := by
  constructor
  · exact eq_matched_found
  · intro equal
    rw [equal]
    rfl

/-- A verdict that is neither a match nor a fault says that there is no match. -/
theorem eq_unmatched_iff {verdict : Verdict} (sound : verdict ≠ fault) :
    verdict = unmatched ↔ verdict.isMatch = false := by
  cases verdict with
  | matched highlights => simp
  | unmatched => simp
  | fault => exact absurd rfl sound

/-- The verdict that all must match. -/
def all (verdicts : List Verdict) : Verdict :=
  verdicts.foldr both (matched {})

/-- The verdict that one must match. -/
def any (verdicts : List Verdict) : Verdict :=
  verdicts.foldr either unmatched

@[simp] theorem all_nil : all [] = matched {} := rfl

@[simp] theorem all_cons (verdict : Verdict) (verdicts : List Verdict) :
    all (verdict :: verdicts) = verdict.both (all verdicts) := rfl

@[simp] theorem any_nil : any [] = unmatched := rfl

@[simp] theorem any_cons (verdict : Verdict) (verdicts : List Verdict) :
    any (verdict :: verdicts) = verdict.either (any verdicts) := rfl

theorem both_eq_matched_iff {first second : Verdict} {highlights : Highlights} :
    first.both second = matched highlights ↔
      first.isMatch = true ∧ second.isMatch = true ∧
        highlights = first.found ++ second.found := by
  cases first <;> cases second <;> simp [both, eq_comm]

theorem isMatch_both (first second : Verdict) :
    (first.both second).isMatch = (first.isMatch && second.isMatch) := by
  cases first <;> cases second <;> rfl

theorem either_eq_fault_iff {first second : Verdict} :
    first.either second = fault ↔ first = fault ∨ second = fault := by
  cases first <;> cases second <;> simp [either]

theorem isMatch_either
    {first second : Verdict}
    (firstSound : first ≠ fault)
    (secondSound : second ≠ fault) :
    (first.either second).isMatch = (first.isMatch || second.isMatch) := by
  cases first <;> cases second <;> first | rfl | contradiction

theorem found_either
    {first second : Verdict}
    (firstSound : first ≠ fault)
    (secondSound : second ≠ fault) :
    (first.either second).found = first.found ++ second.found := by
  cases first <;> cases second <;> first | contradiction | simp [either]

/-- Two verdicts are a fault together if the first is one, or matches before one. -/
theorem both_eq_fault_iff {first second : Verdict} :
    first.both second = fault ↔ first = fault ∨ first.isMatch = true ∧ second = fault := by
  cases first <;> cases second <;> simp [both]

theorem eq_fault_of_both_eq_fault
    {first second : Verdict}
    (isFault : first.both second = fault) :
    first = fault ∨ second = fault := by
  cases first <;> cases second <;> simp [both] at isFault ⊢

@[simp] theorem isMatch_all (verdicts : List Verdict) :
    (all verdicts).isMatch = verdicts.all isMatch := by
  induction verdicts with
  | nil => rfl
  | cons verdict verdicts hypothesis =>
      rw [all_cons, isMatch_both, hypothesis, List.all_cons]

/-- All match with the highlights of each, in order. -/
theorem all_eq_matched_iff {verdicts : List Verdict} {highlights : Highlights} :
    all verdicts = matched highlights ↔
      (∀ verdict ∈ verdicts, verdict.isMatch = true) ∧
        highlights = Highlights.concat (verdicts.map found) := by
  induction verdicts generalizing highlights with
  | nil =>
      simp only [all_nil, matched.injEq, List.not_mem_nil, false_implies, implies_true,
        List.map_nil, Highlights.concat_nil, true_and]
      exact eq_comm
  | cons verdict verdicts hypothesis =>
      rw [all_cons, both_eq_matched_iff, isMatch_iff_eq_matched (all verdicts), hypothesis]
      simp only [List.mem_cons, forall_eq_or_imp, List.map_cons, Highlights.concat_cons]
      constructor
      · rintro ⟨first, ⟨others, found⟩, rfl⟩
        exact ⟨⟨first, others⟩, by rw [found]⟩
      · rintro ⟨⟨first, others⟩, rfl⟩
        have found := (hypothesis.2 ⟨others, rfl⟩)
        rw [found]
        exact ⟨first, ⟨others, rfl⟩, rfl⟩

theorem all_ne_fault {verdicts : List Verdict} (sound : fault ∉ verdicts) :
    all verdicts ≠ fault := by
  induction verdicts with
  | nil => simp
  | cons verdict verdicts hypothesis =>
      simp only [List.mem_cons, not_or] at sound
      intro isFault
      rcases eq_fault_of_both_eq_fault isFault with first | others
      · exact sound.1 first.symm
      · exact hypothesis sound.2 others

@[simp] theorem any_eq_fault_iff (verdicts : List Verdict) :
    any verdicts = fault ↔ fault ∈ verdicts := by
  induction verdicts with
  | nil => simp
  | cons verdict verdicts hypothesis =>
      rw [any_cons, either_eq_fault_iff, hypothesis, List.mem_cons, eq_comm]

theorem isMatch_any {verdicts : List Verdict} (sound : fault ∉ verdicts) :
    (any verdicts).isMatch = verdicts.any isMatch := by
  induction verdicts with
  | nil => rfl
  | cons verdict verdicts hypothesis =>
      simp only [List.mem_cons, not_or] at sound
      have othersSound : any verdicts ≠ fault := by simpa using sound.2
      rw [any_cons, isMatch_either (Ne.symm sound.1) othersSound, hypothesis sound.2,
        List.any_cons]

/-- What several verdicts without a fault found is what each found, in order. -/
theorem found_any {verdicts : List Verdict} (sound : fault ∉ verdicts) :
    (any verdicts).found = Highlights.concat (verdicts.map found) := by
  induction verdicts with
  | nil => rfl
  | cons verdict verdicts hypothesis =>
      simp only [List.mem_cons, not_or] at sound
      have othersSound : any verdicts ≠ fault := by simpa using sound.2
      rw [any_cons, found_either (Ne.symm sound.1) othersSound, hypothesis sound.2,
        List.map_cons, Highlights.concat_cons]

/-- One matches when none is a fault and some is a match; the highlights are
those of every match, in order. -/
theorem any_eq_matched_iff {verdicts : List Verdict} {highlights : Highlights} :
    any verdicts = matched highlights ↔
      fault ∉ verdicts ∧ (∃ verdict ∈ verdicts, verdict.isMatch = true) ∧
        highlights = Highlights.concat (verdicts.map found) := by
  constructor
  · intro outcome
    have sound : fault ∉ verdicts := by
      rw [← any_eq_fault_iff, outcome]
      simp
    have isMatch := isMatch_any sound
    have found := found_any sound
    rw [outcome] at isMatch found
    exact ⟨sound, by simpa using isMatch.symm, found⟩
  · rintro ⟨sound, some, rfl⟩
    have isMatch : (any verdicts).isMatch = true := by
      rw [isMatch_any sound]
      simpa using some
    rw [← found_any sound]
    exact eq_matched_found isMatch

end Verdict
end WorkloadPolicy
