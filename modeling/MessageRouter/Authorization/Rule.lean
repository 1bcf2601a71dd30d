import MessageRouter.Error
import MessageRouter.Principal
import MessageRouter.QualifiedName
import MessageRouter.Regex.Matching
import MessageRouter.Regex.Parser

/-!
# Access rules

A rule adds principals to the access list of some endpoints and operations, replaces the list or
removes principals from it.  It names endpoints and operations by patterns: `*` stands for every
name, and any other pattern is compiled by a `Matcher`, that of the router (`Matcher.regular`) as a
regular expression for whole names.
-/

namespace MessageRouter

/-- What a rule does to an access list. -/
inductive RuleKind where
  | add
  | set
  | remove
  deriving DecidableEq, Inhabited

namespace RuleKind

def all : List RuleKind := [.add, .set, .remove]

def name : RuleKind → String
  | .add => "Add"
  | .set => "Set"
  | .remove => "Remove"

def ofName? (s : String) : Option RuleKind := all.find? (·.name = s)

@[simp] theorem ofName?_name (k : RuleKind) : ofName? k.name = some k := by cases k <;> rfl

/-- The access list after a rule with the given principals. -/
def update (k : RuleKind) (principals list : PrincipalSet) : PrincipalSet :=
  match k with
  | .add => list.union principals
  | .set => principals
  | .remove => list.difference principals

end RuleKind

/-- A rule as it is written; without an operation it holds for every one. -/
structure AccessRule where
  kind : RuleKind
  rank : Int
  endpoint : String
  operation : Option QualifiedName
  principals : PrincipalSet
  deriving DecidableEq, Inhabited

/-! ## Patterns -/

/-- A way to write patterns for names: the texts that can be compiled, and the names that are
accepted then. -/
structure Matcher where
  Compiled : Type
  compile? : String → Option Compiled
  accepts : Compiled → String → Bool

namespace Matcher

/-- The expression for whole names that is compiled for a pattern. -/
def anchored (pattern : String) : String := "^(?:" ++ pattern ++ ")$"

/-- Patterns that are regular expressions. -/
def regular : Matcher where
  Compiled := Regex
  compile? pattern := Regex.parse? (anchored pattern)
  accepts := Regex.isFoundIn

end Matcher

/-- A compiled pattern for names. -/
inductive NamePattern (M : Matcher) where
  | any
  | compiled (c : M.Compiled)

namespace NamePattern

variable {M : Matcher}

/-- The pattern that a text stands for. -/
def compile (M : Matcher) (pattern : String) : Except RouterError (NamePattern M) :=
  if pattern = "*" then .ok .any
  else
    match M.compile? pattern with
    | some c => .ok (.compiled c)
    | none => .error (.invalidPattern pattern "no regular expression")

def accepts : NamePattern M → String → Bool
  | .any, _ => true
  | .compiled c, name => M.accepts c name

end NamePattern

/-- Patterns for the two parts of an operation's name. -/
structure OperationPattern (M : Matcher) where
  space : NamePattern M
  name : NamePattern M

namespace OperationPattern

variable {M : Matcher}

/-- Every namespace fits where the rule gives none. -/
def compile (M : Matcher) (operation : QualifiedName) :
    Except RouterError (OperationPattern M) := do
  let space ← if operation.space = "" then .ok .any else NamePattern.compile M operation.space
  let name ← NamePattern.compile M operation.name
  return ⟨space, name⟩

def accepts (p : OperationPattern M) (operation : QualifiedName) : Bool :=
  p.space.accepts operation.space && p.name.accepts operation.name

end OperationPattern

/-- A rule with its patterns compiled. -/
structure CompiledRule (M : Matcher) where
  rule : AccessRule
  endpoint : NamePattern M
  operation : Option (OperationPattern M)

namespace CompiledRule

variable {M : Matcher}

/-- Compiles the pattern for endpoints first, then those for the operation. -/
def compile (M : Matcher) (rule : AccessRule) : Except RouterError (CompiledRule M) := do
  let endpoint ← NamePattern.compile M rule.endpoint
  let operation ← rule.operation.mapM (OperationPattern.compile M)
  return ⟨rule, endpoint, operation⟩

/-- The rule holds for the operation of an endpoint; without an operation it holds for all. -/
def applies (c : CompiledRule M) (endpoint : String) (operation : Option QualifiedName) : Bool :=
  c.endpoint.accepts endpoint &&
  match c.operation, operation with
  | some pattern, some operation => pattern.accepts operation
  | _, _ => true

end CompiledRule

end MessageRouter
