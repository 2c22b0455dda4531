import WorkloadPolicy.Proofs.Failure
import WorkloadPolicy.Proofs.Gating

/-!
# Sorting conjuncts by insertion

Predicates are inserted one after the other among predicates sorted by kind of
entity.  An insertion fails exactly when a conjunct reads entities of two kinds;
otherwise every conjunct with a leaf joins those of its kind, in order.  What
checks contribute has a leaf in every node, so that compiling a policy loses no
conjunct, and with the standard checks and fields it never fails for its kinds.
-/

namespace WorkloadPolicy

/-! ## Insertions -/

namespace KindQueries

@[simp] theorem append_empty (queries : KindQueries) : queries ++ ({} : KindQueries) = queries := by
  show KindQueries.mk _ _ _ = _
  simp

@[simp] theorem empty_append (queries : KindQueries) : ({} : KindQueries) ++ queries = queries :=
  rfl

theorem append_assoc (first second third : KindQueries) :
    (first ++ second) ++ third = first ++ (second ++ third) := by
  show KindQueries.mk _ _ _ = KindQueries.mk _ _ _
  rw [mk.injEq]
  exact ⟨List.append_assoc .., List.append_assoc .., List.append_assoc ..⟩

/-- Insert a conjunct among those of its kind. -/
def insertConjunct? (queries : KindQueries) (conjunct : Query) : Option KindQueries :=
  conjunct.sorted?.map (queries ++ ·)

mutual

/-- Insert a predicate: a conjunction child by child, anything else as a whole. -/
def insert? (queries : KindQueries) : Query → Option KindQueries
  | .leaf field => insertConjunct? queries (.leaf field)
  | .linked fields => insertConjunct? queries (.linked fields)
  | .conjunction children => insertAll? queries children
  | .disjunction children => insertConjunct? queries (.disjunction children)

/-- Insert predicates one after the other. -/
def insertAll? (queries : KindQueries) : List Query → Option KindQueries
  | [] => some queries
  | child :: children => do
      let grown ← insert? queries child
      insertAll? grown children

end

/-- An insertion puts behind what there is what the predicate splits into. -/
theorem insert?_eq (queries : KindQueries) (query : Query) :
    queries.insert? query = query.split?.map (queries ++ ·) := by
  induction query generalizing queries with
  | leaf field => rfl
  | linked fields => rfl
  | disjunction children _ => rfl
  | conjunction children hypothesis =>
      rw [insert?, Query.split?_conjunction]
      induction children generalizing queries with
      | nil => simp [insertAll?, Query.splitAll?]
      | cons child children again =>
          obtain ⟨first, others⟩ := List.forall_mem_cons.1 hypothesis
          rw [insertAll?, first]
          cases childSplit : child.split? with
          | none => simp [Query.splitAll?, childSplit]
          | some added =>
              have rest := again others (queries ++ added)
              cases othersSplit : Query.splitAll? children <;>
                simpa [Query.splitAll?, childSplit, othersSplit, append_assoc] using rest

/-- Insertions one after the other amount to that of a conjunction. -/
theorem insertAll?_eq (queries : KindQueries) (inserted : List Query) :
    queries.insertAll? inserted = (Query.conjunction inserted).split?.map (queries ++ ·) := by
  rw [← insert?_eq, insert?]

end KindQueries

namespace Query

/-- Whether a predicate has leaves that all read entities of a kind. -/
def readsOnly (kind : EntityKind) (query : Query) : Bool :=
  !query.fields.isEmpty && query.fields.all (·.kind == kind)

theorem readsOnly_iff {kind : EntityKind} {query : Query} :
    query.readsOnly kind = true ↔ query.kindSet = [kind] := by
  simp only [readsOnly, Bool.and_eq_true, Bool.not_eq_true', List.isEmpty_eq_false_iff,
    List.all_eq_true, beq_iff_eq]
  constructor
  · rintro ⟨inhabited, uniform⟩
    exact kindSet_eq_singleton inhabited uniform
  · intro single
    refine ⟨?_, fun field => kind_of_kindSet_eq_singleton single⟩
    have present : kind ∈ query.kindSet := by simp [single]
    obtain ⟨field, member, -⟩ := mem_kindSet.1 present
    exact List.ne_nil_of_mem member

/-- A predicate reads entities of two kinds. -/
def Mixes (query : Query) : Prop :=
  ∃ field ∈ query.fields, ∃ other ∈ query.fields, field.kind ≠ other.kind

theorem mixes_iff {query : Query} : query.Mixes ↔ 2 ≤ query.kindSet.length := by
  have distinct : query.kindSet.Nodup :=
    List.Nodup.filter _ (by decide)
  constructor
  · rintro ⟨field, member, other, otherMember, different⟩
    have present : field.kind ∈ query.kindSet := mem_kindSet.2 ⟨field, member, rfl⟩
    have otherPresent : other.kind ∈ query.kindSet := mem_kindSet.2 ⟨other, otherMember, rfl⟩
    match shape : query.kindSet with
    | [] => simp [shape] at present
    | [kind] =>
        rw [shape, List.mem_singleton] at present otherPresent
        exact absurd (present.trans otherPresent.symm) different
    | _ :: _ :: _ => simp
  · intro several
    match shape : query.kindSet with
    | [] => simp [shape] at several
    | [_] => simp [shape] at several
    | first :: second :: _ =>
        obtain ⟨field, member, rfl⟩ := mem_kindSet.1 (shape ▸ List.mem_cons_self)
        obtain ⟨other, otherMember, rfl⟩ :=
          mem_kindSet.1 (shape ▸ List.mem_cons_of_mem _ List.mem_cons_self)
        refine ⟨field, member, other, otherMember, ?_⟩
        rw [shape] at distinct
        exact fun same => (List.nodup_cons.1 distinct).1 (by simp [same])

end Query

/-- After insertions no conjunct mixes kinds, and every kind has got the conjuncts that read
it and nothing else, in order; only conjuncts without leaves are left out.  Insertions fail
exactly when some conjunct mixes kinds. -/
theorem KindQueries.insertAll?_cases (queries : KindQueries) (inserted : List Query) :
    match queries.insertAll? inserted with
    | none => ∃ conjunct ∈ inserted.flatMap Query.conjuncts, conjunct.Mixes
    | some grown =>
        (∀ conjunct ∈ inserted.flatMap Query.conjuncts, ¬ conjunct.Mixes) ∧
          (∀ kind,
            grown.ofKind kind =
              queries.ofKind kind ++
                (inserted.flatMap Query.conjuncts).filter (·.readsOnly kind)) ∧
          ∀ conjunct ∈ inserted.flatMap Query.conjuncts,
            conjunct.fields = [] ∨ ∃ kind, conjunct.readsOnly kind = true := by
  have failed := Query.split?_eq_none_iff (.conjunction inserted)
  simp only [Query.conjuncts_conjunction, ← Query.mixes_iff] at failed
  rw [insertAll?_eq]
  cases split : (Query.conjunction inserted).split? with
  | none => exact failed.1 split
  | some added =>
      have pure : ∀ conjunct ∈ inserted.flatMap Query.conjuncts, ¬ conjunct.Mixes := by
        intro conjunct member mixes
        exact absurd (failed.2 ⟨conjunct, member, mixes⟩) (by simp [split])
      refine ⟨pure, fun kind => ?_, fun conjunct member => ?_⟩
      · rw [ofKind_append, Query.ofKind_of_split?_eq_some split, Query.conjuncts_conjunction]
        congr 2
        funext conjunct
        rw [Bool.eq_iff_iff, decide_eq_true_iff, Query.readsOnly_iff]
      · rw [or_iff_not_imp_left]
        intro inhabited
        obtain ⟨field, inConjunct⟩ := List.exists_mem_of_ne_nil _ inhabited
        rw [← Query.conjuncts_conjunction] at member
        exact ⟨field.kind,
          Query.readsOnly_iff.2 (Query.kindSet_of_mem_conjuncts split member inConjunct)⟩

/-! ## Compiling -/

namespace Compiler

variable {compiler : Compiler} {policy : Policy}

/-- What a policy demands can be gathered or not whatever the kinds of its conjuncts. -/
theorem failsWith_gatedContribution (compiler : Compiler) (policy : Policy) :
    Outcome.FailsWith (fun error => ∀ policyName, error ≠ .mixedEntityKinds policyName)
      (compiler.gatedContribution policy) := by
  have ofCheck {α : Type} (outcome : Except CheckError α) :
      Outcome.FailsWith (fun error => ∀ policyName, error ≠ .mixedEntityKinds policyName)
        (outcome.mapError CompileError.check) := by
    cases outcome with
    | error error => exact .error (by simp)
    | ok result => exact .ok result
  refine .bind ?_ fun fields => .bind ?_ fun contribution => .bind (ofCheck _) fun scope => .ok _
  · unfold Policy.constraints
    split
    · exact .error (by simp)
    · split
      · exact .error (by simp)
      · split
        · exact .error (by simp)
        · exact .ok _
  · refine .bind ?_ fun added => .bind (ofCheck _) fun contribution => ?_
    · rw [permissionChecks_eq]
      split
      · split
        · exact .ok _
        · exact .error (by simp)
      · exact .ok _
    · cases contribution with
      | none => exact .error (by simp)
      | some contribution => exact .ok _

/-- A policy that has been gathered compiles to what it splits into, and fails for its
kinds if it does not split. -/
theorem compile_of_gatedContribution
    {merged : Contribution}
    (gathered : compiler.gatedContribution policy = .ok merged) :
    compiler.compile policy =
      match merged.query.split? with
      | none => .error (.mixedEntityKinds policy.name)
      | some queries => .ok (matcher policy.name queries merged.printer) := by
  unfold compile
  rw [gathered]
  rfl

/-- With the standard checks and fields no policy fails for the kinds of its
conjuncts. -/
theorem compile_ne_error_mixedEntityKinds
    (isStandard : compiler.registry.IsStandard)
    (standardChecks : compiler.checks = Check.standard)
    (policyName : String) :
    compiler.compile policy ≠ .error (.mixedEntityKinds policyName) := by
  intro failed
  rcases Outcome.bind_eq_error_iff.1 failed with ungathered | ⟨merged, gathered, -⟩
  · exact (failsWith_gatedContribution compiler policy).of_eq_error _ ungathered policyName rfl
  · obtain ⟨fields, added, contribution, scope?, gathers, rfl⟩ :=
      gatedContribution_eq_ok_iff.1 gathered
    obtain ⟨queries, -, compiled⟩ :=
      gathers.exists_compile_eq_ok isStandard standardChecks fun scope present field member =>
        ((gathers.scope_madeOf present).of_mem_fields member).kind_eq isStandard
    rw [compiled] at failed
    simp at failed

/-- Sorting by kind of entity loses nothing.  Insertions fail exactly when a conjunct mixes
kinds; otherwise every kind gets its conjuncts in order, and only those without leaves are
left out.  What a tree of checks contributes has a leaf in every node, so that a compiled
policy keeps each of its conjuncts; it fails for its kinds exactly when the insertion of
what it demands fails, and never with the standard checks and fields. -/
theorem compile_keeps_conjuncts :
    (∀ (queries : KindQueries) (inserted : List Query),
      match queries.insertAll? inserted with
      | none => ∃ conjunct ∈ inserted.flatMap Query.conjuncts, conjunct.Mixes
      | some grown =>
          (∀ conjunct ∈ inserted.flatMap Query.conjuncts, ¬ conjunct.Mixes) ∧
            (∀ kind,
              grown.ofKind kind =
                queries.ofKind kind ++
                  (inserted.flatMap Query.conjuncts).filter (·.readsOnly kind)) ∧
            ∀ conjunct ∈ inserted.flatMap Query.conjuncts,
              conjunct.fields = [] ∨ ∃ kind, conjunct.readsOnly kind = true) ∧
      (∀ (check : Check) (fields : PolicyFields) (registry : FieldRegistry),
        match check.contribution? fields registry with
        | .ok (some contribution) => contribution.query.Populated
        | _ => True) ∧
      (∀ (compiler : Compiler) (policy : Policy),
        match compiler.gatedContribution policy with
        | .error error => compiler.compile policy = .error error
        | .ok merged =>
            merged.query.Populated ∧
              match KindQueries.insert? {} merged.query with
              | none => compiler.compile policy = .error (.mixedEntityKinds policy.name)
              | some queries =>
                  compiler.compile policy =
                      .ok (matcher policy.name queries merged.printer) ∧
                    ∀ conjunct ∈ merged.query.conjuncts,
                      ∃ kind, conjunct ∈ queries.ofKind kind) ∧
      ∀ options store policy policyName,
        ({ registry := .standard, options := options, store := store } : Compiler).compile policy ≠
          .error (.mixedEntityKinds policyName) := by
  refine ⟨KindQueries.insertAll?_cases, fun check fields registry => ?_,
    fun compiler policy => ?_, fun options store policy policyName => ?_⟩
  · cases run : check.contribution? fields registry with
    | error error => trivial
    | ok outcome =>
        cases outcome with
        | none => trivial
        | some contribution => exact (Check.founded_of_contribution? run).populated
  · cases gathered : compiler.gatedContribution policy with
    | error error =>
        show compiler.compile policy = _
        unfold compile
        rw [gathered]
        rfl
    | ok merged =>
        obtain ⟨fields, added, contribution, scope, gathers, rfl⟩ :=
          gatedContribution_eq_ok_iff.1 gathered
        refine ⟨gathers.populated, ?_⟩
        rw [KindQueries.insert?_eq]
        cases split : (gated scope contribution.query).split? with
        | none =>
            simpa [split] using compile_of_gatedContribution gathered
        | some queries =>
            refine ⟨by simpa [split] using compile_of_gatedContribution gathered, ?_⟩
            intro conjunct member
            obtain ⟨kind, single⟩ := gathers.populated.kindSet_of_split?_eq_some split member
            exact ⟨kind, by simpa using (Query.mem_ofKind_iff split).2 ⟨member, single⟩⟩
  · exact compile_ne_error_mixedEntityKinds FieldRegistry.isStandard_standard rfl policyName

end Compiler
end WorkloadPolicy
