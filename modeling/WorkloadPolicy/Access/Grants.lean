import WorkloadPolicy.Access.Objects

/-!
# Grants

Grants index the rules that a list of bindings gives to each subject.  A
service account is reached by its own name and through three groups: that of
all service accounts, that of the service accounts of its namespace, and that
of everything authenticated.
-/

namespace WorkloadPolicy
namespace Access

/-- What a grant is looked up by. -/
inductive SubjectKey where
  | serviceAccount (namespaceName name : String)
  | group (name : String)
  deriving DecidableEq, Repr

/-- The group of all service accounts. -/
def serviceAccountsGroup : String := "system:serviceaccounts"

/-- The group of everything authenticated. -/
def authenticatedGroup : String := "system:authenticated"

namespace Subject

/-- The key that a subject of a binding denotes.  Users have none. -/
def key? (subject : Subject) (binding : Binding) : Option SubjectKey :=
  match subject.kind with
  | .serviceAccount =>
      some (.serviceAccount
        (if subject.namespaceName.isEmpty then binding.namespaceName else subject.namespaceName)
        subject.name)
  | .group => some (.group subject.name)
  | .user => none

end Subject

namespace ServiceAccount

/-- The keys that reach a service account, in the order in which their rules
are listed. -/
def keys (account : ServiceAccount) : List SubjectKey :=
  [.serviceAccount account.namespaceName account.name,
    .group serviceAccountsGroup,
    .group (serviceAccountsGroup ++ ":" ++ account.namespaceName),
    .group authenticatedGroup]

end ServiceAccount

/-- The role with a given identifier; of several the last one counts. -/
def roleWithId? (roles : List Role) (id : String) : Option Role :=
  roles.reverse.find? (·.id == id)

/-- The rules granted to each subject. -/
structure Grants where
  entries : List (SubjectKey × List Rule) := []
  deriving DecidableEq, Repr

namespace Grants

/-- Append rules to the entry of a key, which is made if there is none. -/
def appendRules
    (key : SubjectKey)
    (rules : List Rule) :
    List (SubjectKey × List Rule) → List (SubjectKey × List Rule)
  | [] => [(key, rules)]
  | entry :: entries =>
      if entry.1 = key then
        (entry.1, entry.2 ++ rules) :: entries
      else
        entry :: appendRules key rules entries

/-- Grant rules to the subject that a key denotes. -/
def grant (grants : Grants) (key : SubjectKey) (rules : List Rule) : Grants :=
  ⟨appendRules key rules grants.entries⟩

/-- Grant the rules of a role to one subject of a binding. -/
def grantSubject
    (binding : Binding)
    (role : Role)
    (grants : Grants)
    (subject : Subject) : Grants :=
  match subject.key? binding with
  | some key => grants.grant key role.rules
  | none => grants

/-- Add what a binding grants.  A binding to an unknown role grants nothing. -/
def addBinding (roles : List Role) (grants : Grants) (binding : Binding) : Grants :=
  match roleWithId? roles binding.roleId with
  | some role => binding.subjects.foldl (grantSubject binding role) grants
  | none => grants

/-- The grants of a list of bindings. -/
def ofBindings (roles : List Role) (bindings : List Binding) : Grants :=
  bindings.foldl (addBinding roles) {}

/-- The rules granted to the subject that a key denotes. -/
def rulesOf (grants : Grants) (key : SubjectKey) : List Rule :=
  ((grants.entries.find? (·.1 = key)).map (·.2)).getD []

/-- Every rule that reaches a service account, directly or through a group. -/
def rulesFor (grants : Grants) (account : ServiceAccount) : List Rule :=
  account.keys.flatMap grants.rulesOf

/-- Whether no subject was granted anything, not even an empty role. -/
def isEmpty (grants : Grants) : Bool :=
  grants.entries.isEmpty

@[simp] theorem rulesOf_empty (key : SubjectKey) :
    rulesOf {} key = [] := rfl

/-- A grant adds to the rules of its own key and to no other. -/
theorem rulesOf_grant
    (grants : Grants)
    (key other : SubjectKey)
    (rules : List Rule) :
    (grants.grant key rules).rulesOf other =
      grants.rulesOf other ++ if key = other then rules else [] := by
  obtain ⟨entries⟩ := grants
  simp only [grant, rulesOf]
  induction entries with
  | nil =>
      by_cases same : key = other <;> simp [appendRules, same]
  | cons entry entries hypothesis =>
      by_cases found : entry.1 = key
      · by_cases same : key = other
        · simp [appendRules, found, same]
        · simp [appendRules, found, same]
      · by_cases here : entry.1 = other
        · have different : ¬ key = other := fun equal => found (here.trans equal.symm)
          rw [appendRules, if_neg found]
          simp [here, different]
        · simpa [appendRules, found, here] using hypothesis

end Grants
end Access
end WorkloadPolicy
