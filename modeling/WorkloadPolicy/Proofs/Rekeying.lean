import WorkloadPolicy.Proofs.Keying

/-!
# Keying changes no message

A check keys its predicate and its printer in the same way.  The predicate then
finds the same values under the keys that the printer reads instead, so that
the printer tells the same as before.
-/

namespace WorkloadPolicy

/-! ## Keyed highlights -/

namespace Highlights

/-- The highlights under the keys of a check. -/
def keyed (check : String) (highlights : Highlights) : Highlights :=
  ⟨highlights.records.map fun record => (highlightKey check record.1, record.2)⟩

@[simp] theorem keyed_append (check : String) (first second : Highlights) :
    (first ++ second).keyed check = first.keyed check ++ second.keyed check := by
  show Highlights.mk _ = Highlights.mk _
  simp [keyed]

/-- Keyed highlights have the same values under the keyed paths. -/
@[simp] theorem get_keyed (check : String) (highlights : Highlights) (path : String) :
    (highlights.keyed check).get (highlightKey check path) = highlights.get path := by
  simp [get, keyed, List.flatMap_map, (highlightKey_right_injective check).eq_iff]

end Highlights

namespace Verdict

/-- The verdict with its highlights under the keys of a check. -/
def keyed (check : String) : Verdict → Verdict
  | matched highlights => matched (highlights.keyed check)
  | unmatched => unmatched
  | fault => fault

@[simp] theorem keyed_both (check : String) (first second : Verdict) :
    (first.both second).keyed check = (first.keyed check).both (second.keyed check) := by
  cases first <;> cases second <;> simp [both, keyed]

@[simp] theorem keyed_either (check : String) (first second : Verdict) :
    (first.either second).keyed check = (first.keyed check).either (second.keyed check) := by
  cases first <;> cases second <;> simp [either, keyed]

@[simp] theorem isMatch_keyed (check : String) (verdict : Verdict) :
    (verdict.keyed check).isMatch = verdict.isMatch := by
  cases verdict <;> rfl

@[simp] theorem found_keyed (check : String) (verdict : Verdict) :
    (verdict.keyed check).found = verdict.found.keyed check := by
  cases verdict <;> rfl

@[simp] theorem keyed_eq_fault_iff {check : String} {verdict : Verdict} :
    verdict.keyed check = fault ↔ verdict = fault := by
  cases verdict <;> simp [keyed]

theorem keyed_all (check : String) (verdicts : List Verdict) :
    (all verdicts).keyed check = all (verdicts.map (keyed check)) := by
  induction verdicts with
  | nil => rfl
  | cons verdict verdicts hypothesis =>
      rw [all_cons, keyed_both, hypothesis, List.map_cons, all_cons]

theorem keyed_any (check : String) (verdicts : List Verdict) :
    (any verdicts).keyed check = any (verdicts.map (keyed check)) := by
  induction verdicts with
  | nil => rfl
  | cons verdict verdicts hypothesis =>
      rw [any_cons, keyed_either, hypothesis, List.map_cons, any_cons]

end Verdict

/-! ## Keyed evaluation -/

/-- A leaf highlights the same values under its keyed path. -/
theorem FieldQuery.evaluate_keyed
    (now : Calendar.Instant)
    (check : String)
    {field : FieldQuery}
    (plain : field.key = field.path)
    (values : List String) :
    (field.keyed check).evaluate now values = (field.evaluate now values).keyed check := by
  unfold evaluate
  simp only [keyed, plain]
  split
  · split <;> rfl
  · split <;> rfl
  · split <;> rfl
  · split
    · rfl
    · split <;> rfl

namespace LinkedRow

/-- A row of the leaves keyed for a check. -/
def keyed (check : String) (row : LinkedRow) : LinkedRow :=
  row.map fun cell => (cell.1.keyed check, cell.2)

theorem ofFields_keyed (check : String) (fields : List FieldQuery) (values : FieldValues) :
    ofFields (fields.map (·.keyed check)) values = (ofFields fields values).map (keyed check) := by
  simp only [ofFields, List.map_map, List.foldl_map, Function.comp_def, keyed,
    FieldQuery.keyed]

theorem test_keyed (now : Calendar.Instant) (check : String) (row : LinkedRow) :
    (row.keyed check).test now = row.test now := by
  induction row with
  | nil => rfl
  | cons cell row hypothesis =>
      have cons : keyed check (cell :: row) = (cell.1.keyed check, cell.2) :: keyed check row :=
        rfl
      rw [cons, test, test, hypothesis]
      rfl

theorem highlights_keyed
    (check : String)
    {row : LinkedRow}
    (plain : ∀ cell ∈ row, cell.1.key = cell.1.path) :
    (row.keyed check).highlights = row.highlights.keyed check := by
  simp only [highlights, Highlights.keyed, keyed, List.map_map, Highlights.mk.injEq]
  apply List.map_congr_left
  intro cell member
  simp [FieldQuery.keyed, plain cell member]

end LinkedRow

/-- Linked leaves highlight the same values under their keyed paths. -/
theorem evaluateRows_keyed
    (now : Calendar.Instant)
    (check : String)
    {rows : List LinkedRow}
    (plain : ∀ row ∈ rows, ∀ cell ∈ row, cell.1.key = cell.1.path) :
    evaluateRows now (rows.map (LinkedRow.keyed check)) = (evaluateRows now rows).keyed check := by
  have folded (hits : List LinkedRow) (start : Highlights)
      (plain : ∀ row ∈ hits, ∀ cell ∈ row, cell.1.key = cell.1.path) :
      (hits.map (LinkedRow.keyed check)).foldl (fun found row => found ++ row.highlights)
          (start.keyed check) =
        (hits.foldl (fun found row => found ++ row.highlights) start).keyed check := by
    induction hits generalizing start with
    | nil => rfl
    | cons hit hits hypothesis =>
        obtain ⟨first, others⟩ := List.forall_mem_cons.1 plain
        rw [List.map_cons, List.foldl_cons, List.foldl_cons,
          LinkedRow.highlights_keyed check first, ← Highlights.keyed_append,
          hypothesis _ others]
  unfold evaluateRows
  simp only [List.any_map, List.filter_map, Function.comp_def, LinkedRow.test_keyed]
  split
  · rfl
  · cases hits : rows.filter fun row => row.test now == some true with
    | nil => rfl
    | cons hit others =>
        have hitsPlain : ∀ row ∈ hit :: others, ∀ cell ∈ row, cell.1.key = cell.1.path := by
          intro row member
          rw [← hits] at member
          exact plain row (List.mem_filter.1 member).1
        exact congrArg Verdict.matched (folded (hit :: others) {} hitsPlain)

/-- A predicate has the same verdict when it is keyed, with the same values under
the keyed paths. -/
theorem Query.evaluate_keyed
    (now : Calendar.Instant)
    (values : FieldValues)
    (check : String)
    {query : Query}
    (plain : query.IsPlain) :
    evaluate now values (query.keyed check) = (evaluate now values query).keyed check := by
  induction query with
  | leaf field =>
      rw [keyed_leaf, evaluate_leaf, evaluate_leaf]
      exact FieldQuery.evaluate_keyed now check (plain field (by simp)) _
  | linked fields =>
      rw [keyed_linked, evaluate_linked, evaluate_linked, LinkedRow.ofFields_keyed]
      apply evaluateRows_keyed now check
      intro row member cell inRow
      apply plain cell.1
      rw [fields_linked, ← LinkedRow.map_fst_of_mem_ofFields member]
      exact List.mem_map_of_mem inRow
  | conjunction children hypothesis =>
      rw [keyed_conjunction, evaluate_conjunction, evaluate_conjunction, Verdict.keyed_all,
        List.map_map, List.map_map]
      congr 1
      apply List.map_congr_left
      intro child member
      apply hypothesis child member
      intro field inChild
      apply plain field
      rw [fields_conjunction]
      exact List.mem_flatMap.2 ⟨child, member, inChild⟩
  | disjunction children hypothesis =>
      rw [keyed_disjunction, evaluate_disjunction, evaluate_disjunction, Verdict.keyed_any,
        List.map_map, List.map_map]
      congr 1
      apply List.map_congr_left
      intro child member
      apply hypothesis child member
      intro field inChild
      apply plain field
      rw [fields_disjunction]
      exact List.mem_flatMap.2 ⟨child, member, inChild⟩

namespace Contribution

variable {contribution : Contribution}

/-- A keyed contribution finds the same under its keys. -/
theorem evaluate_keyed
    (plain : contribution.query.IsPlain)
    (now : Calendar.Instant)
    (values : FieldValues)
    (check : String) :
    (contribution.keyed check).query.evaluate now values =
      (contribution.query.evaluate now values).keyed check :=
  Query.evaluate_keyed now values check plain

/-- Keys make no difference to what matches. -/
theorem isMatch_keyed
    (plain : contribution.query.IsPlain)
    (now : Calendar.Instant)
    (values : FieldValues)
    (check : String) :
    ((contribution.keyed check).query.evaluate now values).isMatch =
      (contribution.query.evaluate now values).isMatch := by
  rw [evaluate_keyed plain, Verdict.isMatch_keyed]

end Contribution

/-- A keyed printer tells of keyed highlights what it told before. -/
theorem Printer.alerts_keyed
    (check : String)
    (highlights : Highlights)
    (printer : Printer) :
    (printer.keyed check).alerts (highlights.keyed check) = printer.alerts highlights := by
  induction printer with
  | field key template => rw [keyed, alerts, alerts, Highlights.get_keyed]
  | linked keys template =>
      have columns :
          (keys.map (highlightKey check)).map (highlights.keyed check).get =
            keys.map highlights.get := by
        rw [List.map_map]
        exact List.map_congr_left fun key _ => Highlights.get_keyed check highlights key
      rw [keyed, alerts, alerts, columns]
  | fixed message => rfl
  | concat printers hypothesis =>
      rw [keyed, keyedAll_eq_map, alerts_concat, alerts_concat, List.flatMap_map]
      exact List.flatMap_congr hypothesis

/-! ## Keying as a renaming -/

/-- Highlights are renamed for a check when they have the values of every path under
its keyed path and nothing else. -/
structure Highlights.IsRenamed (check : String) (original renamed : Highlights) : Prop where
  get_key : ∀ path, renamed.get (highlightKey check path) = original.get path
  get_other : ∀ key, (∀ path, key ≠ highlightKey check path) → renamed.get key = []

theorem Highlights.isRenamed_keyed (check : String) (highlights : Highlights) :
    IsRenamed check highlights (highlights.keyed check) where
  get_key := get_keyed check highlights
  get_other key foreign := by
    rw [get, keyed, List.flatMap_map, List.flatMap_eq_nil_iff]
    intro record _
    exact if_neg fun same => foreign record.1 same.symm

/-- A keyed printer tells of renamed highlights what it told of the original ones. -/
theorem Printer.alerts_of_isRenamed
    {check : String}
    {original renamed : Highlights}
    (isRenamed : original.IsRenamed check renamed)
    (printer : Printer) :
    (printer.keyed check).alerts renamed = printer.alerts original := by
  rw [← alerts_keyed check original printer]
  apply alerts_congr
  intro key member
  rw [keys_keyed] at member
  obtain ⟨path, -, rfl⟩ := List.mem_map.1 member
  rw [isRenamed.get_key, Highlights.get_keyed]

namespace Contribution

/-- Keying is transparent.  The keyed predicate has no match or a fault when the plain
one does; otherwise its highlights are those of the plain one with every key renamed.
The keyed printer tells of renamed highlights, wherever they are from, what the plain
one tells of the original ones. -/
theorem keyed_transparent
    {contribution : Contribution}
    (plain : contribution.query.IsPlain)
    (check : String)
    (now : Calendar.Instant)
    (values : FieldValues) :
    ((contribution.keyed check).query.evaluate now values = .unmatched ↔
        contribution.query.evaluate now values = .unmatched) ∧
      ((contribution.keyed check).query.evaluate now values = .fault ↔
        contribution.query.evaluate now values = .fault) ∧
      (∀ highlights, contribution.query.evaluate now values = .matched highlights →
        ∃ renamed, (contribution.keyed check).query.evaluate now values = .matched renamed ∧
          highlights.IsRenamed check renamed) ∧
      ∀ original renamed : Highlights, original.IsRenamed check renamed →
        (contribution.keyed check).printer.alerts renamed =
          contribution.printer.alerts original := by
  rw [evaluate_keyed plain]
  refine ⟨?_, Verdict.keyed_eq_fault_iff, fun highlights matched => ?_,
    fun original renamed isRenamed => contribution.printer.alerts_of_isRenamed isRenamed⟩
  · cases contribution.query.evaluate now values <;> simp [Verdict.keyed]
  · rw [matched]
    exact ⟨_, rfl, highlights.isRenamed_keyed check⟩

/-- A contribution with linked leaves, a path read twice and a fixed message finds and
tells the same under the keys of a check as without them. -/
theorem keyed_transparent_of_repeated_path :
    let component := FieldLabel.component.metadata
    let cve := FieldLabel.cve.metadata
    let link := FieldLabel.cveLink.metadata
    let contribution : Contribution :=
      { query :=
          .conjunction
            [.linked [.ofField .cve cve (.exact "CVE-1"), .ofField .cveLink link .any],
              .disjunction
                [.leaf (.ofField .component component (.exact "openssl")),
                  .conjunction [.leaf (.ofField .component component .any)]]]
        printer :=
          .concat
            [.linked [cve.path, link.path] (.cve "CVE-1"), .fixed "Fixed",
              .field component.path (.capability "COMPONENT" true)] }
    let values : FieldValues :=
      ⟨[(component.path, "openssl"), (cve.path, "CVE-1"), (link.path, "https://nvd"),
        (cve.path, "CVE-2"), (link.path, "")]⟩
    ∀ now, ∃ renamed,
      (contribution.keyed "cve").query.evaluate now values = .matched renamed ∧
        renamed.get "cve/image.scan.components.name" = ["openssl", "openssl"] ∧
        (contribution.keyed "cve").printer.alerts renamed =
          [{ message := "CVE CVE-1 matched regex 'CVE-1'", link := some "https://nvd" },
            { message := "Fixed" },
            { message := "openssl was in the COMPONENT list" },
            { message := "openssl was in the COMPONENT list" }] := by
  intro component cve link contribution values now
  have plain : contribution.query.IsPlain := by
    simp [contribution, Query.IsPlain, FieldQuery.ofField]
  have plainly :
      contribution.query.evaluate now values =
        .matched
          ⟨[(cve.path, ["CVE-1"]), (link.path, ["https://nvd"]), (component.path, ["openssl"]),
            (component.path, ["openssl"])]⟩ := rfl
  obtain ⟨-, -, found, told⟩ := keyed_transparent plain "cve" now values
  obtain ⟨renamed, matched, isRenamed⟩ := found _ plainly
  refine ⟨renamed, matched, ?_, ?_⟩
  · exact isRenamed.get_key component.path
  · exact (told _ _ isRenamed).trans (by decide +kernel)

end Contribution
end WorkloadPolicy
