import MessageRouter.Proofs.RouterState
import MessageRouter.Proofs.Steps

/-!
# Steps without listeners

A router that has no listeners takes the same steps as one that has, apart from whom it tells: no
operation of the router looks at its listeners, and a step only does so to find out who is to be
told of an event.
-/

namespace MessageRouter

namespace Router

/-- The router without its listeners. -/
def unheard (r : Router) : Router := { r with listeners := [] }

variable (r : Router) (e : ExchangeId) (s : SlotId)

@[simp] theorem exchange_unheard : r.unheard.exchange e = r.exchange e := rfl

@[simp] theorem slot_unheard : r.unheard.slot s = r.slot s := rfl

@[simp] theorem isPresent_unheard : r.unheard.isPresent s = r.isPresent s := rfl

@[simp] theorem config_unheard : r.unheard.config = r.config := rfl

@[simp] theorem registry_unheard : r.unheard.registry = r.registry := rfl

theorem admits_unheard : r.unheard.admits e s = ((r.admits e s).1, (r.admits e s).2.unheard) := rfl

theorem choose_unheard (target : Reference) : r.unheard.choose target = r.choose target := by
  cases target <;> rfl

theorem accept_unheard : r.unheard.accept e s = ((r.accept e s).1, (r.accept e s).2.unheard) := by
  cases hc : (r.exchange e).checkSend s with
  | error refusal =>
    have hc' : (r.unheard.exchange e).checkSend s = .error refusal := hc
    simp only [accept, hc, hc']
  | ok =>
    have hc' : (r.unheard.exchange e).checkSend s = .ok () := hc
    simp only [accept, hc, hc']
    by_cases hs : (r.exchange e).source.isSome = true
    · rw [if_pos hs, if_pos (by exact hs)]
      rfl
    · rw [if_neg hs, if_neg (by exact hs)]
      by_cases hp : (r.slot s).retain.1 = true
      · rw [if_pos hp, if_pos (by exact hp)]
        rfl
      · rw [if_neg hp, if_neg (by exact hp)]
        rfl

theorem pin_unheard : r.unheard.pin e s = ((r.pin e s).1, (r.pin e s).2.unheard) := by
  rcases hs : (r.slot s).retain with ⟨_ | _, slot⟩
  all_goals
    have hs' : (r.unheard.slot s).retain = _ := hs
    simp only [pin, hs, hs']
    rfl

theorem foldl_unpin_unheard (l : List SlotId) :
    l.foldl unpin r.unheard = (l.foldl unpin r).unheard := by
  induction l generalizing r with
  | nil => rfl
  | cons s l ih =>
    rw [List.foldl_cons, List.foldl_cons, ← ih]
    congr 1
    by_cases hp : r.isPresent s = true
    · rw [unpin, unpin, if_pos hp, if_pos (by exact hp)]
      rfl
    · rw [unpin, unpin, if_neg hp, if_neg (by exact hp)]

theorem releasePins_unheard : r.unheard.releasePins e = (r.releasePins e).unheard := by
  by_cases hr : (r.exchange e).released = true
  · rw [releasePins_of_released hr, releasePins_of_released (by exact hr)]
  · have hr := eq_false_of_ne_true hr
    rw [releasePins_eq hr, releasePins_eq (by exact hr)]
    exact foldl_unpin_unheard (r.setExchange e _) _

end Router

namespace Engine

namespace Call

/-- The listener that is told something. -/
def listener? : Call → Option String
  | .exchangeEvent l _ _ | .slotEvent l _ _ => some l
  | _ => none

end Call

namespace Frame

/-- A listener is being told something. -/
def isListening : Frame → Bool
  | .call c => c.listener?.isSome
  | _ => false

/-- Listeners are told something, one after the other. -/
def isNotice : Frame → Bool
  | .notify .. | .notifySlot .. => true
  | _ => false

/-- The listeners that are to be told something have still to be found out. -/
def isNews : Frame → Bool
  | .announce .. | .announceSlot .. => true
  | _ => false

/-- The frame has nothing to do with listeners that are known. -/
def isPlain (f : Frame) : Bool := !f.isListening && !f.isNotice

/-- What is still to be told, to one listener after the other. -/
def notices : Frame → List Call
  | .notify event e ls => ls.map fun l => .exchangeEvent l event e
  | .notifySlot event s ls => ls.map fun l => .slotEvent l event s
  | _ => []

/-- The frame without anybody to tell. -/
def unheard : Frame → Frame
  | .notify event e _ => .notify event e []
  | .notifySlot event s _ => .notifySlot event s []
  | f => f

end Frame

/-- What comes of a step without listeners. -/
def Outcome.unheard : Outcome → Outcome
  | .next fs r => .next (fs.map Frame.unheard) r.unheard
  | .through reply r => .through reply r.unheard
  | .spawn lane fs r => .spawn lane (fs.map Frame.unheard) r.unheard
  | .blocked => .blocked

namespace Frame

variable (c : Context) (r : Router) (e : ExchangeId) (s : SlotId) (h : Hop)

theorem unheard_carryFrame (f : Flow) : (carryFrame f h s).unheard = carryFrame f h s := by
  unfold carryFrame
  split <;> rfl

theorem checkChannel_unheard : checkChannel c r.unheard s = checkChannel c r s := rfl

/-! ## One lemma for each step -/

theorem stepMark_unheard (timeout : Option Nat) :
    stepMark r.unheard s e timeout = (stepMark r s e timeout).unheard := by
  cases hx : (r.exchange e).status.isTerminal <;>
    simp only [stepMark, Router.exchange_unheard, hx] <;> rfl

theorem stepMarked_unheard (role : Role) (timeout : Option Nat) :
    stepMarked c r.unheard e role timeout = (stepMarked c r e role timeout).unheard := by
  unfold stepMarked
  split <;> rfl

theorem stepWaiting_unheard (role : Role) (deadline : Option Nat) :
    stepWaiting c r.unheard e role deadline = (stepWaiting c r e role deadline).unheard := by
  cases ht : (r.exchange e).token.get role <;> cases hd : deadline.any (· ≤ c.now) <;>
    cases hw : ((r.exchange e).takeWaiting role).1 <;>
    simp only [stepWaiting, giveUp, Router.exchange_unheard, ht, hd, hw] <;> rfl

theorem stepAccept_unheard : stepAccept r.unheard s e = (stepAccept r s e).unheard := by
  rcases ha : r.accept e s with ⟨_ | _, r'⟩ <;>
    simp only [stepAccept, Router.exchange_unheard, Router.accept_unheard, ha] <;> rfl

theorem stepRouted_unheard : stepRouted c r.unheard h = (stepRouted c r h).unheard := by
  unfold stepRouted
  split
  · rfl
  · split <;> rfl

theorem strand_unheard (err : RouterError) : strand r.unheard h err = (strand r h err).unheard := by
  cases ht : (r.exchange h.exchange).status.isTerminal <;>
    cases hw : (r.exchange h.exchange).waiting.get h.role <;>
    simp only [strand, Router.exchange_unheard, Exchange.takeWaiting, Exchange.fail, ht, hw,
      if_true, if_false, Bool.false_eq_true] <;> rfl

theorem stepLost_unheard (err : RouterError) :
    stepLost r.unheard h err = (stepLost r h err).unheard := by
  unfold stepLost
  cases h.first
  · exact strand_unheard ..
  · rfl

theorem stepRoute_unheard : stepRoute r.unheard h = (stepRoute r h).unheard := by
  cases hr : (r.exchange h.exchange).role <;> cases hd : (r.exchange h.exchange).destination <;>
    cases ht : (r.exchange h.exchange).target <;> cases hs : (r.exchange h.exchange).source <;>
    simp only [stepRoute, Router.exchange_unheard, Router.choose_unheard, hr, hd, ht, hs] <;> rfl

theorem stepOffer_unheard (target : Reference) (candidates : List SlotId) (denied : Option String) :
    stepOffer r.unheard h target candidates denied =
      (stepOffer r h target candidates denied).unheard := by
  cases candidates with
  | nil => rfl
  | cons s rest =>
    cases hs : (r.slot s).isAvailable <;> cases hc : r.config.enforceAuthorization <;>
      cases ha : (r.admits h.exchange s).1 <;>
      simp only [stepOffer, Router.slot_unheard, Router.config_unheard, Router.admits_unheard, hs,
        hc, ha, if_true, if_false, Bool.false_eq_true] <;> rfl

theorem stepOffered_unheard (target : Reference) (rest : List SlotId) (denied : Option String) :
    stepOffered c r.unheard h target s rest denied =
      (stepOffered c r h target s rest denied).unheard := by
  unfold stepOffered
  split
  · rename_i f hf
    rcases hp : r.pin h.exchange s with ⟨_ | _, r'⟩
    · simp only [Router.pin_unheard, hp]
      rfl
    · simp only [Router.pin_unheard, hp, if_true, Outcome.unheard, List.map_cons, List.map_nil,
        unheard_carryFrame]
      rfl
  · rfl

theorem stepReaching_unheard : stepReaching c r.unheard h s = (stepReaching c r h s).unheard := by
  unfold stepReaching
  split
  · simp only [Outcome.unheard, List.map_cons, List.map_nil, unheard_carryFrame]
    rfl
  · rfl

theorem stepChoose_unheard (flows : List Flow) :
    stepChoose r.unheard e s flows = (stepChoose r e s flows).unheard := by
  cases flows with
  | nil => rfl
  | cons f rest => cases hf : f.kind <;> simp only [stepChoose, hf] <;> rfl

theorem stepAsking_unheard (f : Flow) (rest : List Flow) :
    stepAsking c r.unheard e s f rest = (stepAsking c r e s f rest).unheard := by
  unfold stepAsking
  split <;> rfl

theorem stepHand_unheard : stepHand r.unheard s e = (stepHand r s e).unheard := by
  have slot (r : Router) (x : Exchange) : (r.setExchange e x).slot s = r.slot s := rfl
  have config (r : Router) (x : Exchange) : (r.setExchange e x).config = r.config := rfl
  cases hw : ((r.exchange e).takeWaiting (r.exchange e).role.opposite).1 <;>
    cases hd : ((r.slot s).deliversInline || r.config.syncDelivery) <;>
    simp only [stepHand, Router.exchange_unheard, Router.slot_unheard, Router.config_unheard, slot,
      config, hw, hd, if_true, if_false, Bool.false_eq_true] <;> rfl

theorem stepEnter_unheard (sends : Nat) :
    stepEnter r.unheard s e sends = (stepEnter r s e sends).unheard := by
  simp only [stepEnter, Router.slot_unheard]
  cases (r.slot s).owner with
  | endpoint name => rfl
  | client => cases (r.slot s).post? e <;> rfl

theorem stepHandle_unheard (sends : Nat) :
    stepHandle c r.unheard s e sends = (stepHandle c r s e sends).unheard := by
  unfold stepHandle
  split
  · by_cases hx : (r.exchange e).sends = sends ∧ (r.exchange e).inTransit = false ∧
      (r.exchange e).status = .active
    · simp only [Router.exchange_unheard, hx, and_self, if_true]
      rfl
    · simp only [Router.exchange_unheard, hx, if_false]
      rfl
  · rfl

theorem stepRegister_unheard (name : String) (properties : Properties) :
    stepRegister r.unheard name properties = (stepRegister r name properties).unheard := by
  simp only [stepRegister, Router.registry_unheard]
  cases r.registry.find? name <;> rfl

theorem stepBound_unheard (name : String) (g : Registration) :
    stepBound r.unheard name g = (stepBound r name g).unheard := by
  rcases hc : r.registry.confirm name g with ⟨_ | _, registry⟩
  all_goals
    have hc' : r.unheard.registry.confirm name g = _ := hc
    simp only [stepBound, hc, hc']
    rfl

theorem stepUnregister_unheard (name : String) :
    stepUnregister r.unheard name = (stepUnregister r name).unheard := by
  simp only [stepUnregister, Router.unregister, Router.registry_unheard]
  cases r.registry.remove name <;> rfl

theorem stepReceive_unheard (deadline : Nat) :
    stepReceive c r.unheard s deadline = (stepReceive c r s deadline).unheard := by
  cases ht : (r.slot s).take? with
  | some p =>
    simp only [stepReceive, Router.slot_unheard, ht]
    rfl
  | none =>
    by_cases hd : deadline ≤ c.now ∨ !c.alive ∨ !r.isPresent s
    · simp only [stepReceive, Router.slot_unheard, Router.isPresent_unheard, ht, hd, if_true]
      rfl
    · simp only [stepReceive, Router.slot_unheard, Router.isPresent_unheard, ht, hd, if_false]
      rfl

/-! ## All steps -/

/-- A frame that has nobody to tell takes the same step without listeners. -/
theorem step_unheard {f : Frame} (silent : f.notices = []) :
    f.step c r.unheard = (f.step c r).unheard := by
  cases f with
  | notify event e ls | notifySlot event e ls =>
    cases List.map_eq_nil_iff.1 silent
    rfl
  | send s e | sendSync s e timeout =>
    all_goals
      simp only [step, checkChannel_unheard]
      cases checkChannel c r s <;> rfl
  | mark s e timeout => exact stepMark_unheard ..
  | marked => exact stepMarked_unheard ..
  | waiting => exact stepWaiting_unheard ..
  | dispatch s e =>
    cases hs : (r.slot s).closed <;>
      simp only [step, Router.slot_unheard, hs, if_true, if_false, Bool.false_eq_true] <;> rfl
  | accept s e => exact stepAccept_unheard ..
  | routed h => exact stepRouted_unheard ..
  | lost h err => exact stepLost_unheard ..
  | release e =>
    simp only [step, Router.releasePins_unheard]
    rfl
  | route h => exact stepRoute_unheard ..
  | offer => exact stepOffer_unheard ..
  | offered => exact stepOffered_unheard ..
  | routeTo h s =>
    cases hs : r.isPresent s <;>
      simp only [step, Router.isPresent_unheard, hs, if_true, if_false, Bool.false_eq_true] <;> rfl
  | reaching => exact stepReaching_unheard ..
  | choose => exact stepChoose_unheard ..
  | asking => exact stepAsking_unheard ..
  | deliver =>
    simp only [step]
    cases c.alive <;> rfl
  | hand => exact stepHand_unheard ..
  | enter => exact stepEnter_unheard ..
  | handle => exact stepHandle_unheard ..
  | register => exact stepRegister_unheard ..
  | bound => exact stepBound_unheard ..
  | unregister => exact stepUnregister_unheard ..
  | receive => exact stepReceive_unheard ..
  | _ => rfl

end Frame

end Engine

end MessageRouter
