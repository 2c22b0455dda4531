import WorkloadPolicy.Proofs.Contribution

/-!
# Lists of capabilities

A list of names is reduced name by name.  That fails over the first name that cannot
be cut; otherwise the names that are left empty are passed over.  A name that can be cut
is reduced to what it is without blanks around it and without one `CAP_` in front.
-/

namespace WorkloadPolicy

namespace Text

/-- A character takes as many bytes in lower case. -/
theorem utf8Size_lowerAscii (character : Char) :
    (lowerAscii character).utf8Size = character.utf8Size := by
  unfold lowerAscii
  split
  · rename_i capital
    have code : character.toNat ≤ 90 := capital.2
    have lowered : (Char.ofNat (character.toNat + 32)).toNat = character.toNat + 32 := by
      rw [Char.ofNat, dif_pos (.inl (by omega))]
      rfl
    have small : (Char.ofNat (character.toNat + 32)).utf8Size = 1 := by
      rw [Char.utf8Size_eq_one_iff, UInt32.le_iff_toNat_le]
      show (Char.ofNat (character.toNat + 32)).toNat ≤ 127
      omega
    have own : character.utf8Size = 1 := by
      rw [Char.utf8Size_eq_one_iff, UInt32.le_iff_toNat_le]
      show character.toNat ≤ 127
      omega
    rw [small, own]
  · rfl

/-- Texts that are equal but for ASCII case have characters of the same sizes. -/
theorem map_utf8Size_of_equalIgnoringAsciiCase
    {left right : List Char}
    (equal : equalIgnoringAsciiCase left right = true) :
    left.map Char.utf8Size = right.map Char.utf8Size := by
  have sizes := congrArg (List.map Char.utf8Size) (beq_iff_eq.1 equal)
  simpa only [List.map_map, Function.comp_def, utf8Size_lowerAscii] using sizes

end Text

namespace Capability

/-! ## Single names -/

/-- The name of a capability without blanks around it and without one `CAP_` in front. -/
def bare (name : String) : String :=
  let trimmed := Text.trim name
  if Text.equalIgnoringAsciiCase (trimmed.toList.take 4) ['C', 'A', 'P', '_'] then
    String.ofList (trimmed.toList.drop 4)
  else
    trimmed

theorem exists_of_isMark
    {front : List Char}
    (isMark : Text.equalIgnoringAsciiCase front ['C', 'A', 'P', '_'] = true) :
    ∃ first second third fourth, front = [first, second, third, fourth] ∧
      first.utf8Size = 1 ∧ second.utf8Size = 1 ∧ third.utf8Size = 1 ∧ fourth.utf8Size = 1 := by
  have sizes : front.map Char.utf8Size = [1, 1, 1, 1] :=
    (Text.map_utf8Size_of_equalIgnoringAsciiCase isMark).trans (by decide)
  simp only [List.map_eq_cons_iff, List.map_eq_nil_iff] at sizes
  obtain ⟨first, _, rfl, one, second, _, rfl, two, third, _, rfl, three, fourth, _, rfl, four,
    rfl⟩ := sizes
  exact ⟨first, second, third, fourth, rfl, one, two, three, four⟩

/-- A text that begins with `CAP_` is cut after it. -/
theorem cutBytes?_of_isMark
    {front : List Char}
    (isMark : Text.equalIgnoringAsciiCase front ['C', 'A', 'P', '_'] = true)
    (rest : List Char) :
    cutBytes? 4 (front ++ rest) = some (front, rest) := by
  obtain ⟨first, second, third, fourth, rfl, sizes⟩ := exists_of_isMark isMark
  obtain ⟨one, two, three, four⟩ := sizes
  simp [cutBytes?, one, two, three, four]

/-- A text that begins with `CAP_` has four bytes. -/
theorem four_le_utf8ByteSize_of_isMark
    {text : String}
    (isMark : Text.equalIgnoringAsciiCase (text.toList.take 4) ['C', 'A', 'P', '_'] = true) :
    4 ≤ text.utf8ByteSize := by
  obtain ⟨first, second, third, fourth, front, one, two, three, four⟩ := exists_of_isMark isMark
  have parts : text = String.ofList (first :: second :: third :: fourth :: text.toList.drop 4) := by
    have whole := List.take_append_drop 4 text.toList
    rw [front] at whole
    exact (String.ofList_toList.symm.trans (congrArg String.ofList whole.symm))
  rw [parts]
  simp only [String.ofList_cons, String.utf8ByteSize_append, String.utf8ByteSize_singleton]
  omega

/-- A name that can be cut is reduced to its bare form. -/
theorem eq_bare_of_reduced?
    {name reduced : String}
    (found : reduced? name = some reduced) :
    reduced = bare name := by
  simp only [reduced?] at found
  simp only [bare]
  generalize Text.trim name = trimmed at found ⊢
  split at found
  · rename_i short
    have unmarked :
        ¬ Text.equalIgnoringAsciiCase (trimmed.toList.take 4) ['C', 'A', 'P', '_'] = true := by
      intro isMark
      have long := four_le_utf8ByteSize_of_isMark isMark
      omega
    cases found
    rw [if_neg unmarked]
  · obtain ⟨parts, cut, rfl⟩ := Option.map_eq_some_iff.1 found
    have whole := append_of_cutBytes? cut
    by_cases isMark : Text.equalIgnoringAsciiCase parts.1 ['C', 'A', 'P', '_'] = true
    · obtain ⟨_, _, _, _, front, -⟩ := exists_of_isMark isMark
      have length : parts.1.length = 4 := by rw [front]; rfl
      rw [if_pos isMark, ← whole, List.take_left' length, List.drop_left' length, if_pos isMark]
    · have unmarked :
          ¬ Text.equalIgnoringAsciiCase (trimmed.toList.take 4) ['C', 'A', 'P', '_'] = true := by
        intro begins
        have same := cutBytes?_of_isMark begins (trimmed.toList.drop 4)
        rw [List.take_append_drop, cut, Option.some.injEq] at same
        rw [same] at isMark
        exact isMark begins
      rw [if_neg isMark, if_neg unmarked]

/-! ## Lists of names -/

/-- The bare names of a list without the empty ones. -/
def entries (names : List String) : List String :=
  (names.map bare).filter (!·.isEmpty)

/-- A list is reduced if each of its names is, to what is left of them. -/
theorem reducedNames_eq_ok_iff {names reduced : List String} :
    reducedNames names = .ok reduced ↔
      (∀ name ∈ names, reduced? name ≠ none) ∧
        reduced = (names.filterMap reduced?).filter (!·.isEmpty) := by
  induction names generalizing reduced with
  | nil => simp [reducedNames, eq_comm]
  | cons name names hypothesis =>
      unfold reducedNames
      cases found : reduced? name with
      | none => simp [found]
      | some first =>
          simp only [Outcome.bind_eq_ok_iff, hypothesis, List.forall_mem_cons, found, ne_eq,
            reduceCtorEq, not_false_eq_true, true_and, List.filterMap_cons, Except.ok.injEq]
          constructor
          · rintro ⟨others, ⟨sound, rfl⟩, rfl⟩
            refine ⟨sound, ?_⟩
            cases empty : first.isEmpty <;> simp [empty]
          · rintro ⟨sound, rfl⟩
            refine ⟨_, ⟨sound, rfl⟩, ?_⟩
            cases empty : first.isEmpty <;> simp [empty]

/-- A list that is reduced is reduced to its bare names. -/
theorem eq_entries_of_reducedNames
    {names reduced : List String}
    (run : reducedNames names = .ok reduced) :
    reduced = entries names := by
  obtain ⟨cut, rfl⟩ := reducedNames_eq_ok_iff.1 run
  have bareNames : names.filterMap reduced? = names.map bare := by
    rw [← List.filterMap_eq_map]
    apply List.filterMap_congr
    intro name member
    obtain ⟨reduced, found⟩ := Option.ne_none_iff_exists'.1 (cut name member)
    rw [found, eq_bare_of_reduced? found]
    rfl
  rw [entries, bareNames]

theorem ne_empty_of_mem_entries
    {names : List String}
    {name : String}
    (member : name ∈ entries names) :
    name ≠ "" := by
  rintro rfl
  simp [entries] at member

end Capability

/-- What a check of capabilities contributes is what it demands for the bare names, and
there are some. -/
theorem FieldCheck.contribution?_of_capabilities
    {name : String}
    {label : FieldLabel}
    {demand : List String → FieldDemand}
    {source : PolicyFields → List String}
    {fields : PolicyFields}
    {registry : FieldRegistry}
    {contribution : Contribution}
    (contributed :
      (capabilities name label demand source).contribution? fields registry =
        .ok (some contribution)) :
    ∃ metadata, registry.lookup label = some metadata ∧
      Capability.entries (source fields) ≠ [] ∧
      (demand (Capability.entries (source fields))).contribution? name label metadata =
        .ok (some contribution) := by
  obtain ⟨demanded, decided, rest⟩ := Outcome.bind_eq_ok_iff.1 contributed
  obtain ⟨reduced, run, chosen⟩ := Outcome.bind_eq_ok_iff.1 decided
  cases Capability.eq_entries_of_reducedNames run
  split at chosen
  · cases chosen
    simp at rest
  · rename_i inhabited
    cases chosen
    obtain ⟨metadata, required, run⟩ := Outcome.bind_eq_ok_iff.1 rest
    exact ⟨metadata, lookup_of_requireField_eq_ok required, by simpa using inhabited, run⟩

end WorkloadPolicy
