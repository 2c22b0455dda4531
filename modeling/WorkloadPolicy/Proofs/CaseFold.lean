import Mathlib.Data.List.Chain
import WorkloadPolicy.Unicode.CharSet

/-!
# Case variants

The runs of the folding table are in ascending order, so a code point belongs to
one run at most.  No folded code point belongs to a run.  Hence folding is
idempotent, and the case variants of a code point are exactly the code points
that fold to what it folds to.
-/

namespace WorkloadPolicy
namespace Unicode

/-! ## The table -/

namespace Run

/-- A run ends before another one starts. -/
def Before (run other : Run) : Prop :=
  run.last < other.first ∧ other.first ≤ other.last

instance : DecidableRel Before := fun _ _ => inferInstanceAs (Decidable (_ ∧ _))

instance : Trans Before Before Before where
  trans first second := by
    obtain ⟨apart, ordered⟩ := first
    obtain ⟨otherApart, otherOrdered⟩ := second
    refine ⟨?_, otherOrdered⟩
    omega

/-- A run folds code points from the first letter on to code points. -/
def Fits (run : Run) : Prop :=
  0x41 ≤ run.first ∧ 0 ≤ (run.first : Int) + run.shift

instance : DecidablePred Fits := fun _ => inferInstanceAs (Decidable (_ ∧ _))

/-- What a code point of a run folds to. -/
def fold (run : Run) (code : Nat) : Nat :=
  ((code : Int) + run.shift).toNat

/-- Code points from `low` to `high` pass by a run: they lie apart, or the steps
of the run miss them. -/
def passes (low high step : Nat) (other : Run) : Bool :=
  -- The kernel compares numbers by `Nat.blt` at once; the table has many pairs.
  Nat.blt high other.first || Nat.blt other.last low ||
    (step % other.step == 0 && low % other.step != other.first % other.step)

/-- The folded code points of a run pass by another run. -/
def avoids (run other : Run) : Bool :=
  passes (run.fold run.first) (run.fold run.last)
    (if run.first = run.last then 0 else run.step) other

theorem contains_iff {run : Run} {code : Nat} :
    run.contains code = true ↔
      run.first ≤ code ∧ code ≤ run.last ∧ (code - run.first) % run.step = 0 := by
  simp [contains, and_assoc]

end Run

theorem ascending_runs : runs.IsChain Run.Before := by decide +kernel

theorem fits_of_mem_runs : ∀ run ∈ runs, run.Fits := by decide +kernel

theorem avoids_runs : (runs.all fun run => runs.all run.avoids) = true := by decide +kernel

/-! ## Folding -/

namespace Run

/-- Of runs in ascending order one alone holds a code point. -/
theorem find?_eq_some_of_contains
    {runs : List Run}
    (ascending : runs.Pairwise Before)
    {run : Run}
    (member : run ∈ runs)
    {code : Nat}
    (inRun : run.contains code = true) :
    runs.find? (·.contains code) = some run := by
  induction runs with
  | nil => simp at member
  | cons head runs hypothesis =>
      obtain ⟨before, others⟩ := List.pairwise_cons.1 ascending
      rcases List.mem_cons.1 member with rfl | inRuns
      · rw [List.find?_cons, inRun]
      · have apart := (before run inRuns).1
        have above := (contains_iff.1 inRun).1
        have outside : head.contains code = false := by
          rw [← Bool.not_eq_true]
          intro inHead
          have below := (contains_iff.1 inHead).2.1
          omega
        rw [List.find?_cons, outside]
        exact hypothesis others inRuns

/-- A member of a run folds to a code point that keeps the distance from the first
folded one. -/
theorem fold_eq_add
    {run : Run}
    (fits : run.Fits)
    {code : Nat}
    (above : run.first ≤ code) :
    run.fold code = run.fold run.first + (code - run.first) := by
  obtain ⟨-, inRange⟩ := fits
  unfold fold
  omega

/-- Members of a run that avoids another one do not fold into it. -/
theorem contains_fold_eq_false
    {run other : Run}
    (fits : run.Fits)
    (avoids : run.avoids other = true)
    {code : Nat}
    (inRun : run.contains code = true) :
    other.contains (run.fold code) = false := by
  obtain ⟨above, below, steps⟩ := contains_iff.1 inRun
  have distance := fold_eq_add fits above
  have greatest := fold_eq_add fits (above.trans below)
  rw [← Bool.not_eq_true]
  intro inOther
  obtain ⟨otherAbove, otherBelow, otherSteps⟩ := contains_iff.1 inOther
  simp only [Run.avoids, passes, Bool.or_eq_true, Nat.blt_eq, Bool.and_eq_true, beq_iff_eq,
    bne_iff_ne] at avoids
  rcases avoids with (apart | apart) | ⟨aligned, missed⟩
  · omega
  · omega
  · apply missed
    have shared : (code - run.first) % other.step = 0 := by
      split at aligned
      · have same : code - run.first = 0 := by omega
        simp [same]
      · have divides := Nat.dvd_of_mod_eq_zero aligned
        exact Nat.mod_eq_zero_of_dvd (Nat.dvd_trans divides (Nat.dvd_of_mod_eq_zero steps))
    have start :
        run.fold run.first + (code - run.first) =
          other.first + (run.fold code - other.first) := by
      omega
    calc
      run.fold run.first % other.step
          = (run.fold run.first + (code - run.first)) % other.step := by
        rw [Nat.add_mod, shared, Nat.add_zero, Nat.mod_mod]
      _ = other.first % other.step := by
        rw [start, Nat.add_mod, otherSteps, Nat.add_zero, Nat.mod_mod]

end Run

section Fold

variable {code : Nat}

/-- A code point of a run folds as the run says. -/
theorem simpleFold_of_contains
    {run : Run}
    (member : run ∈ runs)
    (inRun : run.contains code = true) :
    simpleFold code = run.fold code := by
  have letters : ¬ code < 0x41 := by
    have first := (fits_of_mem_runs run member).1
    have above := (Run.contains_iff.1 inRun).1
    omega
  rw [simpleFold, if_neg letters,
    Run.find?_eq_some_of_contains ascending_runs.pairwise member inRun]
  rfl

/-- A code point outside all runs folds to itself. -/
theorem simpleFold_of_forall_not_contains
    (outside : ∀ run ∈ runs, run.contains code = false) :
    simpleFold code = code := by
  have absent : runs.find? (·.contains code) = none := by
    rw [List.find?_eq_none]
    intro run member
    rw [outside run member]
    exact Bool.false_ne_true
  unfold simpleFold
  split
  · rfl
  · rw [absent]

/-- Folding twice is folding once. -/
theorem simpleFold_simpleFold (code : Nat) :
    simpleFold (simpleFold code) = simpleFold code := by
  by_cases inside : ∃ run ∈ runs, run.contains code = true
  · obtain ⟨run, member, inRun⟩ := inside
    rw [simpleFold_of_contains member inRun]
    apply simpleFold_of_forall_not_contains
    intro other otherMember
    have avoids := List.all_eq_true.1 (List.all_eq_true.1 avoids_runs run member)
    exact Run.contains_fold_eq_false (fits_of_mem_runs run member) (avoids other otherMember) inRun
  · have outside : ∀ run ∈ runs, run.contains code = false := by
      intro run member
      rw [← Bool.not_eq_true]
      exact fun inRun => inside ⟨run, member, inRun⟩
    rw [simpleFold_of_forall_not_contains outside, simpleFold_of_forall_not_contains outside]

theorem Run.mem_unfold_iff {run : Run} {target : Nat} :
    code ∈ run.unfold target ↔
      run.contains code = true ∧ (code : Int) + run.shift = target := by
  dsimp only [unfold]
  constructor
  · intro member
    split at member
    · rename_i inRun
      rw [List.mem_singleton] at member
      rw [member]
      exact ⟨inRun.2, by omega⟩
    · simp at member
  · rintro ⟨inRun, equal⟩
    have back : ((target : Int) - run.shift).toNat = code := by omega
    rw [if_pos ⟨by omega, by rw [back]; exact inRun⟩, back]
    exact List.mem_singleton_self code

/-- The case variants of a code point are those that fold to the same. -/
theorem mem_caseVariants_iff {other : Nat} :
    other ∈ caseVariants code ↔ simpleFold other = simpleFold code := by
  simp only [caseVariants, List.mem_cons, List.mem_flatMap]
  constructor
  · rintro (rfl | rfl | ⟨run, member, unfolded⟩)
    · rfl
    · exact simpleFold_simpleFold code
    · obtain ⟨inRun, equal⟩ := Run.mem_unfold_iff.1 unfolded
      rw [simpleFold_of_contains member inRun, Run.fold, equal, Int.toNat_natCast]
  · intro same
    by_cases inside : ∃ run ∈ runs, run.contains other = true
    · obtain ⟨run, member, inRun⟩ := inside
      refine .inr (.inr ⟨run, member, Run.mem_unfold_iff.2 ⟨inRun, ?_⟩⟩)
      have positive := (fits_of_mem_runs run member).2
      have above := (Run.contains_iff.1 inRun).1
      rw [← same, simpleFold_of_contains member inRun, Run.fold]
      omega
    · have outside : ∀ run ∈ runs, run.contains other = false := by
        intro run member
        rw [← Bool.not_eq_true]
        exact fun inRun => inside ⟨run, member, inRun⟩
      rw [simpleFold_of_forall_not_contains outside] at same
      exact .inr (.inl same)

/-- A literal that ignores case holds the characters with the same folding. -/
theorem CharSet.contains_variantsOf (character : Char) :
    (variantsOf code).contains character = true ↔
      simpleFold character.toNat = simpleFold code := by
  rw [contains, containsCode, variantsOf, List.any_map, List.any_eq_true, ← mem_caseVariants_iff]
  simp only [List.mem_eraseDups, Function.comp_apply, inRange, Bool.and_eq_true, decide_eq_true_eq]
  constructor
  · rintro ⟨variant, member, above, below⟩
    rw [Nat.le_antisymm below above]
    exact member
  · intro member
    exact ⟨_, member, le_rfl, le_rfl⟩

end Fold
end Unicode
end WorkloadPolicy
