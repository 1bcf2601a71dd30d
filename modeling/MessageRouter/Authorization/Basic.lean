import MessageRouter.Authorization.Rule

/-!
# Authorization

The rules in force, by rank and by age within a rank.  The access list of an operation is built
from the empty one by all the rules that hold for it, in this order; lists that have been asked
for are remembered until the rules change.
-/

namespace MessageRouter

/-- A rule in force, under the name of its owner. -/
structure Grant (M : Matcher) where
  owner : String
  compiled : CompiledRule M

/-- What an access list belongs to. -/
abbrev AccessKey := String × Option QualifiedName

/-- The rules in force and the access lists that are remembered.  The patterns of a router are
regular expressions. -/
structure Authorization (M : Matcher := .regular) where
  grants : List (Grant M) := []
  remembered : List (AccessKey × PrincipalSet) := []

namespace Authorization

variable {M : Matcher}

/-! ## Rules -/

/-- Puts a rule behind all rules of its rank. -/
def insertGrant (g : Grant M) : List (Grant M) → List (Grant M)
  | [] => [g]
  | h :: rest =>
    if g.compiled.rule.rank < h.compiled.rule.rank then g :: h :: rest else h :: insertGrant g rest

/-- Puts a rule in force, once more if it already is. -/
def register (a : Authorization M) (owner : String) (rule : AccessRule) :
    Except RouterError (Authorization M) := do
  let compiled ← CompiledRule.compile M rule
  return ⟨insertGrant ⟨owner, compiled⟩ a.grants, []⟩

/-- Takes back all rules of an owner; the answer is whether there were any. -/
def unregister (a : Authorization M) (owner : String) : Bool × Authorization M :=
  if a.grants.any (·.owner == owner) then (true, ⟨a.grants.filter (·.owner != owner), []⟩)
  else (false, a)

/-- The rules in force, in the order in which they apply. -/
def rules (a : Authorization M) : List AccessRule := a.grants.map (·.compiled.rule)

/-! ## Access lists -/

/-- The access list that rules build, in their order, from the empty one. -/
def fold (rules : List (CompiledRule M)) (key : AccessKey) : PrincipalSet :=
  (rules.filter (·.applies key.1 key.2)).foldl
    (fun list c => c.rule.kind.update c.rule.principals list) ∅

/-- The access list of an operation, remembered from now on. -/
def accessList (a : Authorization M) (key : AccessKey) : PrincipalSet × Authorization M :=
  match a.remembered.lookup key with
  | some list => (list, a)
  | none =>
    let list := fold (a.grants.map (·.compiled)) key
    (list, { a with remembered := (key, list) :: a.remembered })

/-- An access list admits everyone or one of the subject's principals. -/
def admits (list : PrincipalSet) (subject : Option PrincipalSet) : Bool :=
  list.contains Principal.any || subject.any (·.intersects list)

/-- The subject may use the operation. -/
def isAuthorized (a : Authorization M) (key : AccessKey) (subject : Option PrincipalSet) :
    Bool × Authorization M :=
  let (list, a) := a.accessList key
  (admits list subject, a)

end Authorization

end MessageRouter
