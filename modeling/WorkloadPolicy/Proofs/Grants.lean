import Mathlib.Data.List.Perm.Basic
import WorkloadPolicy.Access.Grants

/-!
# Grants as a scan of bindings

Looking up a key in grants gives what a plain scan of the bindings finds for it,
in order.  A rule therefore reaches a service account exactly when a binding to a
known role has the rule and a subject that denotes the account.  The four keys of
an account are distinct, so that every such subject counts once.
-/

namespace WorkloadPolicy
namespace Access

namespace Subject

/-- Whether a subject of a binding denotes a service account: by its name and its
namespace, which is that of the binding if it is left empty, or as a group that
the account belongs to. -/
def denotes (binding : Binding) (account : ServiceAccount) (subject : Subject) : Bool :=
  match subject.kind with
  | .serviceAccount =>
      subject.name == account.name &&
        (if subject.namespaceName.isEmpty then binding.namespaceName
          else subject.namespaceName) == account.namespaceName
  | .group =>
      ["system:serviceaccounts", "system:serviceaccounts:" ++ account.namespaceName,
        "system:authenticated"].contains subject.name
  | .user => false

/-- A subject denotes an account when its key is one of those that reach the
account. -/
theorem denotes_iff
    (binding : Binding)
    (account : ServiceAccount)
    (subject : Subject) :
    subject.denotes binding account = true ↔
      ∃ key ∈ account.keys, subject.key? binding = some key := by
  have ofNamespace :
      serviceAccountsGroup ++ ":" ++ account.namespaceName =
        "system:serviceaccounts:" ++ account.namespaceName := rfl
  rw [ServiceAccount.keys, ofNamespace]
  cases kind : subject.kind with
  | serviceAccount => simp [denotes, key?, kind, and_comm]
  | group => simp [denotes, key?, kind, serviceAccountsGroup, authenticatedGroup]
  | user => simp [denotes, key?, kind]

end Subject

namespace Binding

/-- What a binding grants to a key: the rules of its role, if that is known, once
for each of its subjects under the key. -/
def rulesUnder (roles : List Role) (key : SubjectKey) (binding : Binding) : List Rule :=
  (roleWithId? roles binding.roleId).toList.flatMap fun role =>
    (binding.subjects.filter fun subject => subject.key? binding = some key).flatMap
      fun _ => role.rules

/-- A binding to a known role grants one of its rules to a service account. -/
def Reaches
    (roles : List Role)
    (account : ServiceAccount)
    (rule : Rule)
    (binding : Binding) : Prop :=
  ∃ role, roleWithId? roles binding.roleId = some role ∧
    (∃ subject ∈ binding.subjects, subject.denotes binding account = true) ∧
    rule ∈ role.rules

theorem reaches_iff
    {roles : List Role}
    {account : ServiceAccount}
    {rule : Rule}
    {binding : Binding} :
    binding.Reaches roles account rule ↔
      ∃ key ∈ account.keys, rule ∈ binding.rulesUnder roles key := by
  simp only [Reaches, rulesUnder, List.mem_flatMap, Option.mem_toList, List.mem_filter,
    decide_eq_true_eq, Subject.denotes_iff]
  constructor
  · rintro ⟨role, known, ⟨subject, inSubjects, key, inKeys, denoted⟩, inRules⟩
    exact ⟨key, inKeys, role, known, subject, ⟨inSubjects, denoted⟩, inRules⟩
  · rintro ⟨key, inKeys, role, known, subject, ⟨inSubjects, denoted⟩, inRules⟩
    exact ⟨role, known, ⟨subject, inSubjects, key, inKeys, denoted⟩, inRules⟩

end Binding

namespace Grants

theorem rulesOf_grantSubject
    (binding : Binding)
    (role : Role)
    (grants : Grants)
    (subject : Subject)
    (key : SubjectKey) :
    (grantSubject binding role grants subject).rulesOf key =
      grants.rulesOf key ++ if subject.key? binding = some key then role.rules else [] := by
  unfold grantSubject
  cases subject.key? binding with
  | none => simp
  | some other => simp [rulesOf_grant]

/-- A binding adds to every key what it grants to it. -/
theorem rulesOf_addBinding
    (roles : List Role)
    (grants : Grants)
    (binding : Binding)
    (key : SubjectKey) :
    (addBinding roles grants binding).rulesOf key =
      grants.rulesOf key ++ binding.rulesUnder roles key := by
  unfold addBinding Binding.rulesUnder
  cases roleWithId? roles binding.roleId with
  | none => simp
  | some role =>
      simp only [Option.toList_some, List.flatMap_singleton]
      induction binding.subjects generalizing grants with
      | nil => simp
      | cons subject subjects hypothesis =>
          rw [List.foldl_cons, hypothesis, rulesOf_grantSubject, List.append_assoc]
          by_cases denoted : subject.key? binding = some key <;> simp [denoted]

/-- A list of bindings grants to every key what a scan of them finds, in order. -/
theorem rulesOf_ofBindings
    (roles : List Role)
    (bindings : List Binding)
    (key : SubjectKey) :
    (ofBindings roles bindings).rulesOf key =
      bindings.flatMap (Binding.rulesUnder roles key) := by
  have added (grants : Grants) :
      (bindings.foldl (addBinding roles) grants).rulesOf key =
        grants.rulesOf key ++ bindings.flatMap (Binding.rulesUnder roles key) := by
    induction bindings generalizing grants with
    | nil => simp
    | cons binding bindings hypothesis =>
        rw [List.foldl_cons, hypothesis, rulesOf_addBinding, List.flatMap_cons,
          List.append_assoc]
  simpa [ofBindings] using added {}

/-- The rules that reach an account are those that some binding grants it. -/
theorem mem_rulesFor_ofBindings_iff
    {roles : List Role}
    {bindings : List Binding}
    {account : ServiceAccount}
    {rule : Rule} :
    rule ∈ (ofBindings roles bindings).rulesFor account ↔
      ∃ binding ∈ bindings, binding.Reaches roles account rule := by
  simp only [rulesFor, rulesOf_ofBindings, List.mem_flatMap, Binding.reaches_iff]
  constructor
  · rintro ⟨key, inKeys, binding, inBindings, granted⟩
    exact ⟨binding, inBindings, key, inKeys, granted⟩
  · rintro ⟨binding, inBindings, key, inKeys, granted⟩
    exact ⟨key, inKeys, binding, inBindings, granted⟩

end Grants

/-! ## Each subject counts once -/

/-- No two keys of an account are the same, whatever its namespace is called. -/
theorem ServiceAccount.keys_nodup (account : ServiceAccount) : account.keys.Nodup := by
  have longer :
      serviceAccountsGroup ≠ serviceAccountsGroup ++ ":" ++ account.namespaceName := by
    intro equal
    have characters := congrArg String.toList equal
    simp at characters
  have other :
      serviceAccountsGroup ++ ":" ++ account.namespaceName ≠ authenticatedGroup := by
    intro equal
    have characters := congrArg String.toList equal
    simp [serviceAccountsGroup, authenticatedGroup] at characters
  have fixed : serviceAccountsGroup ≠ authenticatedGroup := by decide
  simp [keys, longer, other, fixed]

namespace Subject

/-- Whether a subject of a binding denotes a key. -/
def isUnder (binding : Binding) (key : SubjectKey) (subject : Subject) : Bool :=
  match key with
  | .serviceAccount namespaceName name =>
      subject.kind == .serviceAccount && subject.name == name &&
        (if subject.namespaceName.isEmpty then binding.namespaceName
          else subject.namespaceName) == namespaceName
  | .group name => subject.kind == .group && subject.name == name

theorem isUnder_iff
    {binding : Binding}
    {key : SubjectKey}
    {subject : Subject} :
    subject.isUnder binding key = true ↔ subject.key? binding = some key := by
  unfold isUnder key?
  cases key <;> cases subject.kind <;> simp [and_comm]

/-- Over the keys of an account a subject is found once if it denotes the account,
and otherwise not at all. -/
theorem flatMap_keys
    (binding : Binding)
    (account : ServiceAccount)
    (subject : Subject)
    (granted : List α) :
    (account.keys.flatMap fun key => if subject.isUnder binding key then granted else []) =
      if subject.denotes binding account then granted else [] := by
  simp only [isUnder_iff, denotes_iff]
  cases denoted : subject.key? binding with
  | none => simp
  | some own =>
      have sole :
          (account.keys.flatMap fun key => if some own = some key then granted else []) =
            (account.keys.filter fun key => key = own).flatMap fun _ => granted := by
        induction account.keys with
        | nil => rfl
        | cons key keys hypothesis =>
            by_cases same : own = key
            · simpa [same] using hypothesis
            · simpa [same, Ne.symm same] using hypothesis
      rw [sole, List.filter_eq, account.keys_nodup.count]
      by_cases member : own ∈ account.keys <;> simp [member]

end Subject

/-- Two nested collections give the same in either order, up to order. -/
theorem flatMap_flatMap_perm
    (outer : List α)
    (inner : List β)
    (collect : α → β → List γ) :
    (outer.flatMap fun first => inner.flatMap (collect first)).Perm
      (inner.flatMap fun second => outer.flatMap (collect · second)) := by
  induction inner with
  | nil => simp
  | cons second inner hypothesis =>
      simp only [List.flatMap_cons]
      exact (List.flatMap_append_perm outer _ _).symm.trans (hypothesis.append_left _)

/-- What a scan of bindings finds for a key: in order, the rules of each known
role, once for each subject that denotes the key. -/
def scan (roles : List Role) (bindings : List Binding) (key : SubjectKey) : List Rule :=
  bindings.flatMap fun binding =>
    match roleWithId? roles binding.roleId with
    | some role =>
        binding.subjects.flatMap fun subject =>
          if subject.isUnder binding key then role.rules else []
    | none => []

/-- What a scan of bindings finds for an account: the rules of each known role,
once for each subject that denotes the account. -/
def scanFor
    (roles : List Role)
    (bindings : List Binding)
    (account : ServiceAccount) : List Rule :=
  bindings.flatMap fun binding =>
    match roleWithId? roles binding.roleId with
    | some role =>
        binding.subjects.flatMap fun subject =>
          if subject.denotes binding account then role.rules else []
    | none => []

theorem scan_eq (roles : List Role) (bindings : List Binding) (key : SubjectKey) :
    scan roles bindings key = bindings.flatMap (Binding.rulesUnder roles key) := by
  apply List.flatMap_congr
  intro binding _
  unfold Binding.rulesUnder
  cases roleWithId? roles binding.roleId with
  | none => rfl
  | some role =>
      simp only [Subject.isUnder_iff, Option.toList_some, List.flatMap_singleton]
      induction binding.subjects with
      | nil => rfl
      | cons subject subjects hypothesis =>
          by_cases denoted : subject.key? binding = some key <;> simp [denoted, hypothesis]

/-- The scans for the keys of an account find together what the scan for the
account does. -/
theorem flatMap_scan_perm
    (roles : List Role)
    (bindings : List Binding)
    (account : ServiceAccount) :
    (account.keys.flatMap (scan roles bindings)).Perm (scanFor roles bindings account) := by
  refine (flatMap_flatMap_perm ..).trans (List.Perm.flatMap_left _ fun binding _ => ?_)
  cases roleWithId? roles binding.roleId with
  | none => simp
  | some role =>
      refine (flatMap_flatMap_perm ..).trans (.of_eq ?_)
      exact List.flatMap_congr fun subject _ => subject.flatMap_keys binding account role.rules

/-! ## What grants nothing -/

/-- What is left of a binding without what grants nothing: users, and bindings to
unknown roles. -/
def Binding.effective? (roles : List Role) (binding : Binding) : Option Binding :=
  if (roleWithId? roles binding.roleId).isSome then
    some { binding with subjects := binding.subjects.filter (·.kind != .user) }
  else
    none

namespace Grants

/-- Bindings grant the same without what grants nothing. -/
theorem ofBindings_filterMap_effective? (roles : List Role) (bindings : List Binding) :
    ofBindings roles (bindings.filterMap (Binding.effective? roles)) =
      ofBindings roles bindings := by
  have kept (binding : Binding) (role : Role) (grants : Grants) :
      (binding.subjects.filter (·.kind != .user)).foldl
          (grantSubject { binding with subjects := binding.subjects.filter (·.kind != .user) } role)
          grants =
        binding.subjects.foldl (grantSubject binding role) grants := by
    rw [List.foldl_filter]
    congr 1
    funext grants subject
    cases kind : subject.kind <;> simp [grantSubject, Subject.key?, kind]
  unfold ofBindings
  rw [List.foldl_filterMap]
  congr 1
  funext grants binding
  unfold Binding.effective?
  cases known : roleWithId? roles binding.roleId with
  | none => simp [addBinding, known]
  | some role => simp [addBinding, known, kept]

@[simp] theorem isEmpty_grant (grants : Grants) (key : SubjectKey) (rules : List Rule) :
    (grants.grant key rules).isEmpty = false := by
  obtain ⟨entries⟩ := grants
  cases entries with
  | nil => rfl
  | cons entry entries =>
      by_cases found : entry.1 = key <;> simp [grant, isEmpty, appendRules, found]

/-- A subject with a key is granted something, if only an empty role. -/
theorem isEmpty_grantSubject
    (binding : Binding)
    (role : Role)
    (grants : Grants)
    (subject : Subject) :
    (grantSubject binding role grants subject).isEmpty =
      (grants.isEmpty && subject.kind == .user) := by
  cases kind : subject.kind <;> simp [grantSubject, Subject.key?, kind]

theorem isEmpty_addBinding
    (roles : List Role)
    (grants : Grants)
    (binding : Binding) :
    (addBinding roles grants binding).isEmpty =
      (grants.isEmpty &&
        ((roleWithId? roles binding.roleId).isNone ||
          binding.subjects.all (·.kind == .user))) := by
  unfold addBinding
  cases roleWithId? roles binding.roleId with
  | none => simp
  | some role =>
      induction binding.subjects generalizing grants with
      | nil => simp
      | cons subject subjects hypothesis =>
          simp only [List.foldl_cons, hypothesis, isEmpty_grantSubject]
          simp [Bool.and_assoc]

/-- Grants are empty when no binding to a known role has a subject but users. -/
theorem isEmpty_ofBindings_iff {roles : List Role} {bindings : List Binding} :
    (ofBindings roles bindings).isEmpty = true ↔
      ∀ binding ∈ bindings, (roleWithId? roles binding.roleId).isSome = true →
        ∀ subject ∈ binding.subjects, subject.kind = .user := by
  have added (grants : Grants) :
      (bindings.foldl (addBinding roles) grants).isEmpty =
        (grants.isEmpty && bindings.all fun binding =>
          (roleWithId? roles binding.roleId).isNone ||
            binding.subjects.all (·.kind == .user)) := by
    induction bindings generalizing grants with
    | nil => simp
    | cons binding bindings hypothesis =>
        rw [List.foldl_cons, hypothesis, isEmpty_addBinding, List.all_cons, Bool.and_assoc]
  rw [ofBindings, added]
  simp [isEmpty, List.all_eq_true, Option.isSome_iff_ne_none, or_iff_not_imp_left]

/-- Grants are an index of a plain scan.  What reaches an account is, in order, what
the scans for its four keys find; no rule is lost, and none comes more often than
once for each subject that denotes the account.  Users and bindings to unknown
roles leave no trace, and grants are empty when there is nothing else. -/
theorem rulesFor_eq_flatMap_scan
    (roles : List Role)
    (bindings : List Binding)
    (account : ServiceAccount) :
    (ofBindings roles bindings).rulesFor account =
        [SubjectKey.serviceAccount account.namespaceName account.name,
          .group "system:serviceaccounts",
          .group ("system:serviceaccounts:" ++ account.namespaceName),
          .group "system:authenticated"].flatMap (scan roles bindings) ∧
      ((ofBindings roles bindings).rulesFor account).Perm (scanFor roles bindings account) ∧
      ofBindings roles (bindings.filterMap (Binding.effective? roles)) =
        ofBindings roles bindings ∧
      ((ofBindings roles bindings).isEmpty = true ↔
        ¬ ∃ binding ∈ bindings, (roleWithId? roles binding.roleId).isSome = true ∧
          ∃ subject ∈ binding.subjects, subject.kind ≠ .user) := by
  have found :
      (ofBindings roles bindings).rulesFor account =
        account.keys.flatMap (scan roles bindings) :=
    List.flatMap_congr fun key _ => by rw [rulesOf_ofBindings, scan_eq]
  have named :
      serviceAccountsGroup ++ ":" ++ account.namespaceName =
        "system:serviceaccounts:" ++ account.namespaceName := rfl
  refine ⟨?_, ?_, ofBindings_filterMap_effective? roles bindings, ?_⟩
  · rw [found, ServiceAccount.keys, named]
    rfl
  · rw [found]
    exact flatMap_scan_perm roles bindings account
  · rw [isEmpty_ofBindings_iff]
    simp only [not_exists, not_and, not_not]

end Grants
end Access
end WorkloadPolicy
