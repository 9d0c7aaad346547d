import KernelJson.Contracts.Common

/-!
# Tenants and permissions

The roles that may take an action in a tenant, and the check that a principal
holds one of them through an active membership.
-/

namespace KernelJson.Contracts.Identity

open Contracts.Common

inductive Role where
  | owner
  | operator
  | member
  | reviewer
  | reader
deriving DecidableEq

inductive Permission where
  | read
  | submit
  | cancel
  | signal
  | approve
  | schedule
  | health
  | knowledgeWrite
deriving DecidableEq

def permissions : Permission → List Role
  | .read => [.owner, .operator, .member, .reviewer, .reader]
  | .submit => [.owner, .operator, .member]
  | .cancel => [.owner, .operator, .member]
  | .signal => [.owner, .operator, .member]
  | .approve => [.owner, .operator, .reviewer]
  | .schedule => [.owner, .operator]
  | .health => [.owner, .operator]
  | .knowledgeWrite => [.owner, .operator, .member]

structure TenantContext where
  tenantId : Id
  principal : PrincipalRef
deriving DecidableEq

/-- The role of each principal in each tenant, by its active memberships. -/
abbrev Memberships : Type := TenantContext → Option Role

/-- `authorize(db, context, action)` does not throw. -/
def Authorized (members : Memberships) (context : TenantContext) (action : Permission) : Prop :=
  (∃ role ∈ members context, role ∈ permissions action) ∧
    (action = .approve ∨ action = .schedule → context.principal.kind = .human)

instance (members : Memberships) (context : TenantContext) (action : Permission) :
    Decidable (Authorized members context action) :=
  inferInstanceAs (Decidable ((∃ role ∈ members context, role ∈ permissions action) ∧ _))

theorem Authorized.human {members : Memberships} {context : TenantContext}
    (authorized : Authorized members context .approve) : context.principal.kind = .human :=
  authorized.2 (.inl rfl)

end KernelJson.Contracts.Identity
