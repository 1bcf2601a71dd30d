/-!
# Exchange patterns

The pattern of an exchange says which messages may travel and who ends it.  The consumer always
begins with an In message; the provider may answer with an Out or a Fault message where the
pattern has one.
-/

namespace MessageRouter

/-- The five shapes of an exchange. -/
inductive Pattern where
  | inOnly
  | robustInOnly
  | inOut
  | inOptionalOut
  | inOptionalRobustInOut
  deriving DecidableEq, Inhabited

/-- The three places for a message in an exchange. -/
inductive MessageSlot where
  | input
  | output
  | fault
  deriving DecidableEq, Inhabited

/-- How far an exchange has come; `done` and `error` end it. -/
inductive Status where
  | active
  | done
  | error
  deriving DecidableEq, Inhabited

/-- The two parties of an exchange. -/
inductive Role where
  | consumer
  | provider
  deriving DecidableEq, Inhabited

namespace Pattern

/-- All patterns in their usual order. -/
def all : List Pattern := [.inOnly, .robustInOnly, .inOut, .inOptionalOut, .inOptionalRobustInOut]

def name : Pattern → String
  | .inOnly => "InOnly"
  | .robustInOnly => "RobustInOnly"
  | .inOut => "InOut"
  | .inOptionalOut => "InOptionalOut"
  | .inOptionalRobustInOut => "InOptionalRobustInOut"

instance : ToString Pattern := ⟨name⟩

def ofName? (s : String) : Option Pattern := all.find? (·.name = s)

@[simp] theorem ofName?_name (p : Pattern) : ofName? p.name = some p := by cases p <;> rfl

/-- The place of a pattern in the usual order. -/
def index (p : Pattern) : Nat := all.idxOf p

/-- The provider may answer with an Out message. -/
def allowsOut : Pattern → Bool
  | .inOut | .inOptionalOut | .inOptionalRobustInOut => true
  | .inOnly | .robustInOnly => false

/-- The provider may answer with a Fault message. -/
def allowsFault : Pattern → Bool
  | .robustInOnly | .inOut | .inOptionalRobustInOut => true
  | .inOnly | .inOptionalOut => false

/-- The provider may end the exchange without an answer. -/
def allowsProviderDone : Pattern → Bool
  | .inOut => false
  | _ => true

def allows (p : Pattern) : MessageSlot → Bool
  | .input => true
  | .output => p.allowsOut
  | .fault => p.allowsFault

end Pattern

namespace MessageSlot

def all : List MessageSlot := [.input, .output, .fault]

def name : MessageSlot → String
  | .input => "In"
  | .output => "Out"
  | .fault => "Fault"

instance : ToString MessageSlot := ⟨name⟩

def ofName? (s : String) : Option MessageSlot := all.find? (·.name = s)

@[simp] theorem ofName?_name (s : MessageSlot) : ofName? s.name = some s := by cases s <;> rfl

end MessageSlot

namespace Status

def all : List Status := [.active, .done, .error]

def name : Status → String
  | .active => "Active"
  | .done => "Done"
  | .error => "Error"

instance : ToString Status := ⟨name⟩

def ofName? (s : String) : Option Status := all.find? (·.name = s)

@[simp] theorem ofName?_name (s : Status) : ofName? s.name = some s := by cases s <;> rfl

/-- Nothing follows a terminal status. -/
def isTerminal : Status → Bool
  | .active => false
  | .done | .error => true

end Status

namespace Role

def all : List Role := [.consumer, .provider]

def name : Role → String
  | .consumer => "Consumer"
  | .provider => "Provider"

instance : ToString Role := ⟨name⟩

def ofName? (s : String) : Option Role := all.find? (·.name = s)

@[simp] theorem ofName?_name (r : Role) : ofName? r.name = some r := by cases r <;> rfl

def opposite : Role → Role
  | .consumer => .provider
  | .provider => .consumer

@[simp] theorem opposite_opposite (r : Role) : r.opposite.opposite = r := by cases r <;> rfl

end Role

end MessageRouter
