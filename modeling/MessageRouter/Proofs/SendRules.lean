import MessageRouter.Exchange.SendRules

/-!
# The rules for sending, read backwards

What is known of an exchange whose send has been accepted, and of one that has been changed.
-/

namespace MessageRouter

namespace Exchange

variable {x x' : Exchange} {s : SlotId}

theorem require_ok {b : Bool} {refusal : Refusal} : require b refusal = .ok () ↔ b = true := by
  cases b <;> simp [require]

theorem bind_ok {a b : Except Refusal Unit} :
    (a >>= fun _ => b) = .ok () ↔ a = .ok () ∧ b = .ok () := by
  cases a <;> simp [bind, Except.bind]

/-- An exchange at rest carries what its pattern allows, and not two answers. -/
structure AtRest (x : Exchange) : Prop where
  going : x.completed = false
  arrived : x.inTransit = false
  oneReply : x.output = none ∨ x.fault = none
  outAllowed : x.output.isSome → x.pattern.allowsOut
  faultAllowed : x.fault.isSome → x.pattern.allowsFault

theorem checkState_ok : x.checkState = .ok () ↔ x.AtRest := by
  simp only [checkState, bind_ok, require_ok]
  constructor
  · rintro ⟨hc, ht, hr, ho, hf⟩
    refine ⟨by simpa using hc, by simpa using ht, ?_, ?_, ?_⟩
    · cases hx : x.output <;> cases hy : x.fault <;> simp_all
    · cases hx : x.output <;> simp_all
    · cases hx : x.fault <;> simp_all
  · rintro ⟨hc, ht, hr, ho, hf⟩
    refine ⟨by simpa using hc, by simpa using ht, ?_, ?_, ?_⟩
    · rcases hr with hr | hr <;> simp [hr]
    · cases hx : x.output <;> simp_all
    · cases hx : x.fault <;> simp_all

/-- The consumer opens the exchange. -/
structure Opens (x : Exchange) : Prop where
  turn : x.role = .consumer
  fresh : x.source = none
  active : x.status = .active
  target : x.target.isSome
  input : x.input.isSome
  noReply : x.output = none ∧ x.fault = none

/-- The provider answers. -/
structure Answers (x : Exchange) (s : SlotId) : Prop where
  turn : x.role = .provider
  sender : x.destination = some s
  active : x.status = .active → x.hasReply
  done : x.status = .done → x.pattern.allowsProviderDone ∧ x.output = none ∧ x.fault = none

/-- The consumer closes the exchange. -/
structure Closes (x : Exchange) (s : SlotId) : Prop where
  turn : x.role = .consumer
  sender : x.source = some s
  terminal : x.status.isTerminal
  pattern : x.pattern ≠ .inOnly

theorem checkFirstSend_ok : x.checkFirstSend = .ok () ↔
    x.status = .active ∧ x.target.isSome ∧ x.input.isSome ∧ x.output = none ∧ x.fault = none := by
  simp only [checkFirstSend, bind_ok, require_ok, hasReply]
  cases x.output <;> cases x.fault <;> simp

theorem checkReply_ok : x.checkReply = .ok () ↔ (x.status = .active → x.hasReply) ∧
    (x.status = .done → x.pattern.allowsProviderDone ∧ x.output = none ∧ x.fault = none) := by
  unfold checkReply
  cases x.status
  · simp [require_ok]
  · simp only [bind_ok, require_ok, hasReply]
    cases x.output <;> cases x.fault <;> simp
  · simp

theorem checkClose_ok : x.checkClose = .ok () ↔ x.status.isTerminal ∧ x.pattern ≠ .inOnly := by
  simp [checkClose, bind_ok, require_ok]

/-- A send is accepted if the sender has the turn, and opens, answers or closes. -/
theorem checkTurn_ok : x.checkTurn s = .ok () ↔ x.Opens ∨ x.Answers s ∨ x.Closes s := by
  unfold checkTurn
  constructor
  · intro h
    split at h
    · rename_i hr
      split at h
      · rename_i hs
        obtain ⟨ha, ht, hi, ho⟩ := checkFirstSend_ok.1 h
        exact .inl ⟨hr, hs, ha, ht, hi, ho⟩
      · rename_i source hs
        obtain ⟨hb, hc⟩ := bind_ok.1 h
        obtain ⟨ht, hp⟩ := checkClose_ok.1 hc
        have hb := require_ok.1 hb
        exact .inr (.inr ⟨hr, by simpa [hs] using hb, ht, hp⟩)
    · rename_i hr
      obtain ⟨hb, hc⟩ := bind_ok.1 h
      obtain ⟨ha, hd⟩ := checkReply_ok.1 hc
      have hb := require_ok.1 hb
      exact .inr (.inl ⟨hr, by simpa using hb, ha, hd⟩)
  · rintro (h | h | h)
    · simp only [h.turn, h.fresh]
      exact checkFirstSend_ok.2 ⟨h.active, h.target, h.input, h.noReply⟩
    · simp only [h.turn, h.sender]
      exact bind_ok.2 ⟨require_ok.2 (by simp), checkReply_ok.2 ⟨h.active, h.done⟩⟩
    · simp only [h.turn, h.sender]
      exact bind_ok.2 ⟨require_ok.2 (by simp), checkClose_ok.2 ⟨h.terminal, h.pattern⟩⟩

theorem checkSend_ok : x.checkSend s = .ok () ↔
    x.AtRest ∧ (x.Opens ∨ x.Answers s ∨ x.Closes s) := by
  rw [checkSend, bind_ok, checkState_ok, checkTurn_ok]

/-! ## Changes -/

/-- Two states that differ at most in what a holder of the exchange may change. -/
structure SameWay (x x' : Exchange) : Prop where
  pattern : x'.pattern = x.pattern
  role : x'.role = x.role
  source : x'.source = x.source
  destination : x'.destination = x.destination
  sends : x'.sends = x.sends
  inTransit : x'.inTransit = x.inTransit
  completed : x'.completed = x.completed
  waiting : x'.waiting = x.waiting
  token : x'.token = x.token
  released : x'.released = x.released

/-- What an exchange that goes on must be like for a change of it. -/
def Permits (x : Exchange) : Change → Prop
  | .message slot _ => x.pattern.allows slot = true
  | .target _ => x.source = none
  | _ => True

/-- What a change makes of an exchange. -/
def withChange (x : Exchange) : Change → Exchange
  | .message slot m => x.putMessage slot m
  | .status s => { x with status := s }
  | .error f => x.fail f
  | .target r => { x with target := some r }
  | .operation q => { x with operation := some q }
  | .property name value => { x with properties := x.properties.insert name value }
  | .withoutProperty name => { x with properties := x.properties.erase name }

theorem change_eq_ok {c : Change} : x.change c = .ok x' ↔
    x.status.isTerminal = false ∧ x.Permits c ∧ x' = x.withChange c := by
  have going (y : Exchange) : x.changeable.map (fun _ => y) = .ok x' ↔
      x.status.isTerminal = false ∧ x' = y := by
    cases ht : x.status.isTerminal <;> simp [changeable, ht, Except.map, eq_comm]
  cases c with
  | message slot m =>
    by_cases allowed : x.pattern.allows slot = true
    · simp [change, allowed, going, Permits, withChange]
    · simp [change, allowed, Permits]
  | target reference =>
    cases ht : x.status.isTerminal <;> cases hs : x.source <;>
      simp [change, changeable, ht, hs, bind, Except.bind, Permits, withChange, eq_comm]
  | _ => simp [change, going, Permits, withChange]

/-- A change neither sends an exchange nor takes it from anyone, and finds it going on. -/
theorem change_ok {c : Change} (h : x.change c = .ok x') :
    x.SameWay x' ∧ x.status.isTerminal = false := by
  obtain ⟨going, -, rfl⟩ := change_eq_ok.1 h
  have same : x.SameWay x := ⟨rfl, rfl, rfl, rfl, rfl, rfl, rfl, rfl, rfl, rfl⟩
  refine ⟨?_, going⟩
  cases c with
  | message slot m => cases slot <;> exact { same with }
  | _ => exact { same with }

/-- A change puts a message on an exchange that its pattern allows, or leaves the replies alone. -/
theorem replies_of_change {c : Change} (h : x.change c = .ok x') :
    (∃ slot m, x.pattern.allows slot = true ∧ x' = x.putMessage slot m) ∨
      x'.output = x.output ∧ x'.fault = x.fault := by
  obtain ⟨-, allowed, rfl⟩ := change_eq_ok.1 h
  cases c with
  | message slot m => exact .inl ⟨slot, m, allowed, rfl⟩
  | _ => exact .inr ⟨rfl, rfl⟩

/-- A change may give an exchange another target only before it has been sent. -/
theorem target_of_change {c : Change} (h : x.change c = .ok x') :
    x'.target = x.target ∨ x.source = none ∧ x'.target.isSome = true := by
  obtain ⟨-, unsent, rfl⟩ := change_eq_ok.1 h
  cases c with
  | message slot m => cases slot <;> exact .inl rfl
  | target reference => exact .inr ⟨unsent, rfl⟩
  | _ => exact .inl rfl

end Exchange

end MessageRouter
