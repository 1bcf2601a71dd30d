import MessageRouter.Proofs.Duties

/-!
# What a step can do

`Frame.Becomes` lists, case by case, what a step makes of a frame and of the router, with the
conditions of each case.  `Frame.becomes_step` shows that these are all cases, so that whatever is
proved about steps is proved by cases on `Frame.Becomes` and opens no step again.
-/

namespace MessageRouter

namespace Exchange

/-! ## Exchanges on their way -/

/-- A first send that found no way goes back to its source as a failed answer. -/
def returned (x : Exchange) (err : RouterError) : Exchange :=
  { x.fail (.router err) with role := .provider, completed := true }

/-- A later send that found no way is over, and its sender does not wait any more. -/
def stranded (x : Exchange) (sender : Role) (err : RouterError) : Exchange :=
  { (if x.status.isTerminal then x else x.fail (.router err)) with
    inTransit := false
    completed := true
    waiting := x.waiting.set sender false }

section

variable (x : Exchange) (sender : Role) (err : RouterError)

@[simp] theorem pattern_stranded : (x.stranded sender err).pattern = x.pattern := by
  unfold stranded
  split <;> rfl

@[simp] theorem source_stranded : (x.stranded sender err).source = x.source := by
  unfold stranded
  split <;> rfl

@[simp] theorem destination_stranded : (x.stranded sender err).destination = x.destination := by
  unfold stranded
  split <;> rfl

@[simp] theorem target_stranded : (x.stranded sender err).target = x.target := by
  unfold stranded
  split <;> rfl

@[simp] theorem sends_stranded : (x.stranded sender err).sends = x.sends := by
  unfold stranded
  split <;> rfl

@[simp] theorem output_stranded : (x.stranded sender err).output = x.output := by
  unfold stranded
  split <;> rfl

@[simp] theorem fault_stranded : (x.stranded sender err).fault = x.fault := by
  unfold stranded
  split <;> rfl

@[simp] theorem token_stranded : (x.stranded sender err).token = x.token := by
  unfold stranded
  split <;> rfl

@[simp] theorem released_stranded : (x.stranded sender err).released = x.released := by
  unfold stranded
  split <;> rfl

theorem isTerminal_stranded : (x.stranded sender err).status.isTerminal = true := by
  unfold stranded
  split
  · assumption
  · rfl

end

/-- The party for whom the other one waits has answered it. -/
def answered (x : Exchange) : Exchange :=
  { x.setWaiting x.role.opposite false with inTransit := false }

/-- The exchange has reached the other party. -/
def turned (x : Exchange) : Exchange := { x with role := x.role.opposite, inTransit := false }

end Exchange

namespace Engine

namespace Reply

/-- The exchange was refused. -/
def isRefusal : Reply → Bool
  | .refused _ => true
  | _ => false

end Reply

namespace Frame

/-- What a step makes of a frame under given circumstances. -/
inductive Becomes (c : Context) (r : Router) : Frame → Outcome → Prop
  /- Replies and listeners. -/
  | yields (reply : Reply) : Becomes c r (.yields reply) (.through reply r)
  | announce (event : ExchangeEvent) (e : ExchangeId) :
    Becomes c r (.announce event e)
      (.next [.notify event e (hearing r Listener.hearsExchanges)] r)
  | notified (event : ExchangeEvent) (e : ExchangeId) :
    Becomes c r (.notify event e []) (.through .done r)
  | notify (event : ExchangeEvent) (e : ExchangeId) (l : String) (ls : List String) :
    Becomes c r (.notify event e (l :: ls))
      (.next [.call (.exchangeEvent l event e), .notify event e ls] r)
  | announceSlot (event : EndpointEvent) (s : SlotId) (ls : List String) :
    Becomes c r (.announceSlot event s) (.next [.notifySlot event s ls] r)
  | slotNotified (event : EndpointEvent) (s : SlotId) :
    Becomes c r (.notifySlot event s []) (.through .done r)
  | notifySlot (event : EndpointEvent) (s : SlotId) (l : String) (ls : List String) :
    Becomes c r (.notifySlot event s (l :: ls))
      (.next [.call (.slotEvent l event s), .notifySlot event s ls] r)
  /- Sends. -/
  | send {s : SlotId} {e : ExchangeId} (usable : checkChannel c r s = .ok ()) :
    Becomes c r (.send s e) (.next [.dispatch s e] r)
  | notSent {s : SlotId} {e : ExchangeId} {err : RouterError}
    (unusable : checkChannel c r s = .error err) :
    Becomes c r (.send s e) (.through (.refused err) r)
  | sendSync {s : SlotId} {e : ExchangeId} {timeout : Option Nat}
    (usable : checkChannel c r s = .ok ()) :
    Becomes c r (.sendSync s e timeout) (.next [.mark s e timeout] r)
  | notSentSync {s : SlotId} {e : ExchangeId} {timeout : Option Nat} {err : RouterError}
    (unusable : checkChannel c r s = .error err) :
    Becomes c r (.sendSync s e timeout) (.through (.refused err) r)
  | mark {s : SlotId} {e : ExchangeId} {timeout : Option Nat}
    (active : (r.exchange e).status.isTerminal = false) :
    Becomes c r (.mark s e timeout)
      (.next [.dispatch s e, .marked e (r.exchange e).role timeout]
        (r.setExchange e ((r.exchange e).setWaiting (r.exchange e).role true)))
  | notMarked {s : SlotId} {e : ExchangeId} {timeout : Option Nat} (err : RouterError)
    (ended : (r.exchange e).status.isTerminal = true) :
    Becomes c r (.mark s e timeout) (.through (.refused err) r)
  | unmark {e : ExchangeId} {role : Role} {timeout : Option Nat} (err : RouterError)
    (refused : c.reply = .refused err) :
    Becomes c r (.marked e role timeout)
      (.through (.refused err) (r.setExchange e ((r.exchange e).setWaiting role false)))
  | wait {e : ExchangeId} {role : Role} {timeout : Option Nat} (deadline : Option Nat)
    (sent : c.reply.isRefusal = false) :
    Becomes c r (.marked e role timeout) (.next [.waiting e role deadline] r)
  | takeToken {e : ExchangeId} {role : Role} {deadline : Option Nat}
    (token : (r.exchange e).token.get role = true) :
    Becomes c r (.waiting e role deadline)
      (.next [.woken e role] (r.setExchange e ((r.exchange e).setToken role false)))
  | giveUp {e : ExchangeId} {role : Role} {deadline : Option Nat}
    (waits : (r.exchange e).waiting.get role = true)
    (empty : (r.exchange e).token.get role = false) :
    Becomes c r (.waiting e role deadline)
      (.through (.answer false) (r.setExchange e ((r.exchange e).setWaiting role false)))
  | waitOn {e : ExchangeId} {role : Role} {deadline : Option Nat}
    (claimed : (r.exchange e).waiting.get role = false) :
    Becomes c r (.waiting e role deadline)
      (.next [.waiting e role none] (r.setExchange e ((r.exchange e).setWaiting role false)))
  | woken (e : ExchangeId) (role : Role) :
    Becomes c r (.woken e role)
      (.through (.answer true) (r.setExchange e { r.exchange e with role }))
  | dispatch {s : SlotId} {e : ExchangeId} (isOpen : (r.slot s).closed = false) :
    Becomes c r (.dispatch s e) (.next [.accept s e] r)
  | closed {s : SlotId} {e : ExchangeId} (closed : (r.slot s).closed = true) :
    Becomes c r (.dispatch s e) (.through (.refused (.channelClosed s.text)) r)
  | accept {s : SlotId} {e : ExchangeId} {r' : Router} (accepted : r.accept e s = (.ok (), r')) :
    Becomes c r (.accept s e)
      (.next [.announce .sent e, .sent ⟨s, e, (r.exchange e).source.isNone,
        (r.exchange e).status.isTerminal, (r.exchange e).role⟩] r')
  | notAccepted {s : SlotId} {e : ExchangeId} {r' : Router} (err : RouterError)
    (refused : r.accept e s = (.error err, r')) :
    Becomes c r (.accept s e) (.through (.refused err) r')
  | sent (h : Hop) : Becomes c r (.sent h) (.next [.route h] r)
  | refused {h : Hop} {err : RouterError} (refused : c.reply = .refused err) :
    Becomes c r (.routed h) (.next [.lost h err] r)
  | ended {h : Hop} (carried : c.reply.isRefusal = false) (terminal : h.terminal = true) :
    Becomes c r (.routed h) (.next [.release h.exchange] r)
  | passed {h : Hop} (carried : c.reply.isRefusal = false) (going : h.terminal = false) :
    Becomes c r (.routed h) (.through .done r)
  | sendBack {h : Hop} {err : RouterError} (first : h.first = true) :
    Becomes c r (.lost h err)
      (.next [.announce .failed h.exchange, .hand h.sender h.exchange, .release h.exchange]
        (r.setExchange h.exchange ((r.exchange h.exchange).returned err)))
  | strandWaiter {h : Hop} {err : RouterError} (later : h.first = false)
    (waits : (r.exchange h.exchange).waiting.get h.role = true) :
    Becomes c r (.lost h err)
      (.next [.announce .failed h.exchange, .wake h.exchange h.role, .release h.exchange]
        (r.setExchange h.exchange ((r.exchange h.exchange).stranded h.role err)))
  | strand {h : Hop} {err : RouterError} (later : h.first = false)
    (free : (r.exchange h.exchange).waiting.get h.role = false) :
    Becomes c r (.lost h err)
      (.next [.announce .failed h.exchange, .release h.exchange]
        (r.setExchange h.exchange ((r.exchange h.exchange).stranded h.role err)))
  | release (e : ExchangeId) : Becomes c r (.release e) (.through .done (r.releasePins e))
  | wake (e : ExchangeId) (role : Role) :
    Becomes c r (.wake e role)
      (.through .done (r.setExchange e ((r.exchange e).setToken role true)))
  /- Routing. -/
  | searches {h : Hop} {target : Reference} (turn : (r.exchange h.exchange).role = .consumer)
    (unpinned : (r.exchange h.exchange).destination = none)
    (asked : (r.exchange h.exchange).target = some target) :
    Becomes c r (.route h) (.next [.offer h target (r.choose target) none] r)
  | goesTo {h : Hop} {s : SlotId}
    (known : (r.exchange h.exchange).role = .consumer ∧
        (r.exchange h.exchange).destination = some s ∨
      (r.exchange h.exchange).role = .provider ∧ (r.exchange h.exchange).source = some s) :
    Becomes c r (.route h) (.next [.routeTo h s] r)
  | noWay {h : Hop} (err : RouterError)
    (unknown : (r.exchange h.exchange).role = .consumer ∧
        (r.exchange h.exchange).destination = none ∨
      (r.exchange h.exchange).role = .provider ∧ (r.exchange h.exchange).source = none) :
    Becomes c r (.route h) (.next [.lost h err] r)
  | noCandidate (h : Hop) (target : Reference) (denied : Option String) (err : RouterError) :
    Becomes c r (.offer h target [] denied) (.next [.lost h err] r)
  | passesOver (h : Hop) (target : Reference) (s : SlotId) (rest : List SlotId)
    (denied denied' : Option String) (authorization : Authorization) :
    Becomes c r (.offer h target (s :: rest) denied)
      (.next [.offer h target rest denied'] { r with authorization })
  | considers {h : Hop} {target : Reference} {s : SlotId} {rest : List SlotId}
    {denied : Option String} (authorization : Authorization)
    (available : (r.slot s).isAvailable = true)
    (admitted : r.config.enforceAuthorization = true → (r.admits h.exchange s).1 = true) :
    Becomes c r (.offer h target (s :: rest) denied)
      (.next [.choose h.exchange s r.flows, .offered h target s rest denied]
        { r with authorization })
  | pins {h : Hop} {target : Reference} {s : SlotId} {rest : List SlotId} {denied : Option String}
    {r' : Router} (f : Flow) (pinned : r.pin h.exchange s = (true, r')) :
    Becomes c r (.offered h target s rest denied)
      (.next [carryFrame f h s, .routed h] r')
  | cannotPin {h : Hop} {target : Reference} {s : SlotId} {rest : List SlotId}
    {denied : Option String} {r' : Router} (retired : r.pin h.exchange s = (false, r')) :
    Becomes c r (.offered h target s rest denied) (.next [.offer h target rest denied] r')
  | noFlow (h : Hop) (target : Reference) (s : SlotId) (rest : List SlotId)
    (denied : Option String) :
    Becomes c r (.offered h target s rest denied) (.next [.offer h target rest denied] r)
  | seeks {h : Hop} {s : SlotId} (present : r.isPresent s = true) :
    Becomes c r (.routeTo h s) (.next [.choose h.exchange s r.flows, .reaching h s] r)
  | gone {h : Hop} {s : SlotId} (err : RouterError) (absent : r.isPresent s = false) :
    Becomes c r (.routeTo h s) (.next [.lost h err] r)
  | reaches {h : Hop} {s : SlotId} (f : Flow) (chosen : c.reply = .chosen (some f)) :
    Becomes c r (.reaching h s) (.next [carryFrame f h s, .routed h] r)
  | noFlowBack {h : Hop} {s : SlotId} (err : RouterError) (none : ∀ f, c.reply ≠ .chosen (some f)) :
    Becomes c r (.reaching h s) (.next [.lost h err] r)
  | chosen {e : ExchangeId} {s : SlotId} {flows : List Flow} (f : Option Flow)
    (last : f = none → flows = []) :
    Becomes c r (.choose e s flows) (.through (.chosen f) r)
  | asks (e : ExchangeId) (s : SlotId) (f : Flow) (rest : List Flow) :
    Becomes c r (.choose e s (f :: rest))
      (.next [.call (.accepts (f.owner.getD "") e s), .asking e s f rest] r)
  | accepts (e : ExchangeId) (s : SlotId) (f : Flow) (rest : List Flow) :
    Becomes c r (.asking e s f rest) (.through (.chosen (some f)) r)
  | declines {e : ExchangeId} {s : SlotId} {f : Flow} {rest : List Flow}
    (refused : c.reply ≠ .answer true) :
    Becomes c r (.asking e s f rest) (.next [.choose e s rest] r)
  /- Deliveries. -/
  | deliver {s : SlotId} {e : ExchangeId} (alive : c.alive = true) :
    Becomes c r (.deliver s e) (.next [.hand s e] r)
  | notDelivered {s : SlotId} {e : ExchangeId} (gone : c.alive = false) :
    Becomes c r (.deliver s e) (.through (.refused .routerShutdown) r)
  | answers {s : SlotId} {e : ExchangeId}
    (waits : (r.exchange e).waiting.get (r.exchange e).role.opposite = true) :
    Becomes c r (.hand s e)
      (.next [.announce .delivered e, .wake e (r.exchange e).role.opposite]
        (r.setExchange e (r.exchange e).answered))
  | turnsOver {s : SlotId} {e : ExchangeId}
    (busy : (r.exchange e).waiting.get (r.exchange e).role.opposite = false) :
    Becomes c r (.hand s e)
      (.next [.process s e]
        (r.setExchange e ((r.exchange e).setWaiting (r.exchange e).role.opposite false)))
  | leaves {s : SlotId} {e : ExchangeId} (lane : Lane)
    (apart : ((r.slot s).deliversInline || r.config.syncDelivery) = false)
    (busy : (r.exchange e).waiting.get (r.exchange e).role.opposite = false) :
    Becomes c r (.hand s e)
      (.spawn lane [.process s e]
        (r.setExchange e ((r.exchange e).setWaiting (r.exchange e).role.opposite false)))
  | process (s : SlotId) (e : ExchangeId) :
    Becomes c r (.process s e)
      (.next [.announce .delivered e, .enter s e (r.exchange e).sends]
        (r.setExchange e (r.exchange e).turned))
  | calls {s : SlotId} {e : ExchangeId} {sends : Nat} {name : String}
    (owner : (r.slot s).owner = .endpoint name) :
    Becomes c r (.enter s e sends) (.next [.call (.process name s e), .handle s e sends] r)
  | posts {s : SlotId} {e : ExchangeId} {sends : Nat} {slot : Slot}
    (posted : (r.slot s).post? e = some slot) :
    Becomes c r (.enter s e sends) (.through .done (r.setSlot s slot))
  | notPosted {s : SlotId} {e : ExchangeId} {sends : Nat} (f : Failure)
    (deaf : (r.slot s).post? e = none) :
    Becomes c r (.enter s e sends) (.next [.yields (.failed f), .handle s e sends] r)
  | fails {s : SlotId} {e : ExchangeId} {sends : Nat} (f : Failure)
    (failed : c.reply = .failed f) (unsent : (r.exchange e).sends = sends)
    (arrived : (r.exchange e).inTransit = false) (active : (r.exchange e).status = .active) :
    Becomes c r (.handle s e sends)
      (.next [.announce .failed e, .dispatch s e, .yields .done]
        (r.setExchange e ((r.exchange e).fail f)))
  | handled {s : SlotId} {e : ExchangeId} {sends : Nat}
    (settled : ∀ f, c.reply = .failed f → ¬((r.exchange e).sends = sends ∧
      (r.exchange e).inTransit = false ∧ (r.exchange e).status = .active)) :
    Becomes c r (.handle s e sends) (.through .done r)
  /- Registrations and clients. -/
  | registered {name : String} {properties : Properties} {g : Registration}
    (known : r.registry.find? name = some g) :
    Becomes c r (.register name properties)
      (.next [.announceSlot .registered g.slot, .yields (.slot g.slot)]
        (r.modifySlot g.slot fun slot => { slot with properties }))
  | reserves {name : String} {properties : Properties} {g : Registration} {r' : Router}
    (unknown : r.registry.find? name = none) (reserved : r.reserve name properties = (g, r')) :
    Becomes c r (.register name properties)
      (.next [.call (.bind name g.slot), .bound name g] r')
  | confirms {name : String} {g : Registration} {registry : Registry}
    (confirmed : r.registry.confirm name g = (true, registry)) :
    Becomes c r (.bound name g)
      (.next [.announceSlot .registered g.slot, .yields (.slot g.slot)] { r with registry })
  | notConfirmed {name : String} {g : Registration} {registry : Registry}
    (given : r.registry.confirm name g = (false, registry)) :
    Becomes c r (.bound name g) (.through (.slot g.slot) { r with registry })
  | unregisters {name : String} {s : SlotId} {r' : Router}
    (removed : r.unregister name = some (s, r')) :
    Becomes c r (.unregister name)
      (.next [.announceSlot .unregistered s, .yields (.answer true)] r')
  | notRegistered (name : String) :
    Becomes c r (.unregister name) (.through (.answer false) r)
  | receives {s : SlotId} {deadline : Nat} {e : ExchangeId} {slot : Slot}
    (taken : (r.slot s).take? = some (e, slot)) :
    Becomes c r (.receive s deadline) (.through (.received (some e)) (r.setSlot s slot))
  | receivesNone (s : SlotId) (deadline : Nat) :
    Becomes c r (.receive s deadline) (.through (.received none) r)

variable {c : Context} {r : Router}

theorem isRefusal_eq_false {reply : Reply} (h : ∀ err, reply ≠ .refused err) :
    reply.isRefusal = false := by
  cases reply <;> first | rfl | exact absurd rfl (h _)

/-- A channel can be used as long as the router and the slot are there. -/
theorem checkChannel_ok {s : SlotId} :
    checkChannel c r s = .ok () ↔ c.alive = true ∧ r.isPresent s = true := by
  unfold checkChannel
  cases c.alive <;> cases r.isPresent s <;> simp

theorem becomes_mark {s : SlotId} {e : ExchangeId} {timeout : Option Nat} :
    Becomes c r (.mark s e timeout) (stepMark r s e timeout) := by
  unfold stepMark
  dsimp only
  split
  · rename_i ht
    exact .notMarked _ ht
  · rename_i ht
    exact .mark (by simpa using ht)

theorem becomes_marked {e : ExchangeId} {role : Role} {timeout : Option Nat} :
    Becomes c r (.marked e role timeout) (stepMarked c r e role timeout) := by
  unfold stepMarked
  split
  · rename_i err hc
    exact .unmark err hc
  · rename_i hc
    exact .wait _ (isRefusal_eq_false hc)

theorem becomes_waiting {e : ExchangeId} {role : Role} {deadline : Option Nat}
    (h : stepWaiting c r e role deadline ≠ .blocked) :
    Becomes c r (.waiting e role deadline) (stepWaiting c r e role deadline) := by
  unfold stepWaiting giveUp at h ⊢
  dsimp only [Exchange.takeWaiting] at h ⊢
  by_cases ht : (r.exchange e).token.get role = true
  · rw [if_pos ht]
    exact .takeToken ht
  · rw [if_neg ht] at h ⊢
    by_cases hd : deadline.any (· ≤ c.now) = true
    · rw [if_pos hd]
      split
      · rename_i hw
        exact .giveUp hw (by simpa using ht)
      · rename_i hw
        exact .waitOn (by simpa using hw)
    · rw [if_neg hd] at h
      exact absurd rfl h

theorem becomes_accept {s : SlotId} {e : ExchangeId} :
    Becomes c r (.accept s e) (stepAccept r s e) := by
  unfold stepAccept
  dsimp only
  split
  · rename_i err r' h
    exact .notAccepted err h
  · rename_i r' h
    exact .accept h

theorem becomes_routed {h : Hop} : Becomes c r (.routed h) (stepRouted c r h) := by
  unfold stepRouted
  split
  · rename_i err hc
    exact .refused hc
  · rename_i hc
    split
    · rename_i ht
      exact .ended (isRefusal_eq_false hc) ht
    · rename_i ht
      exact .passed (isRefusal_eq_false hc) (by simpa using ht)

theorem becomes_lost {h : Hop} {err : RouterError} :
    Becomes c r (.lost h err) (stepLost r h err) := by
  unfold stepLost
  by_cases hf : h.first = true
  · rw [if_pos hf]
    exact .sendBack hf
  · rw [if_neg hf]
    have hw : ((if (r.exchange h.exchange).status.isTerminal then r.exchange h.exchange
        else (r.exchange h.exchange).fail (.router err))).waiting =
        (r.exchange h.exchange).waiting := by
      split <;> rfl
    simp only [strand, Exchange.takeWaiting, hw]
    split
    · rename_i ht
      exact .strandWaiter (by simpa using hf) ht
    · rename_i ht
      exact .strand (by simpa using hf) (by simpa using ht)

theorem becomes_route {h : Hop} : Becomes c r (.route h) (stepRoute r h) := by
  unfold stepRoute
  dsimp only
  split
  · rename_i hr hd
    split
    · rename_i ht
      exact .searches hr hd ht
    · exact .noWay _ (.inl ⟨hr, hd⟩)
  · rename_i hr hd
    exact .goesTo (.inl ⟨hr, hd⟩)
  · rename_i hr
    split
    · rename_i hs
      exact .goesTo (.inr ⟨hr, hs⟩)
    · rename_i hs
      exact .noWay _ (.inr ⟨hr, hs⟩)

theorem becomes_offer {h : Hop} {target : Reference} {candidates : List SlotId}
    {denied : Option String} :
    Becomes c r (.offer h target candidates denied) (stepOffer r h target candidates denied) := by
  unfold stepOffer
  split
  · exact .noCandidate ..
  · split
    · exact .passesOver _ _ _ _ _ _ r.authorization
    · rename_i ha
      simp only [Bool.not_eq_true', Bool.not_eq_false] at ha
      by_cases he : r.config.enforceAuthorization = true
      · simp only [he, if_true, Router.admits]
        split
        · rename_i admitted
          exact .considers _ ha fun _ => admitted
        · exact .passesOver ..
      · simp only [he, Bool.false_eq_true, if_false, if_true]
        exact .considers r.authorization ha fun enforced => absurd enforced he

theorem becomes_offered {h : Hop} {target : Reference} {s : SlotId} {rest : List SlotId}
    {denied : Option String} :
    Becomes c r (.offered h target s rest denied) (stepOffered c r h target s rest denied) := by
  unfold stepOffered
  split
  · rename_i f hc
    rcases hp : r.pin h.exchange s with ⟨_ | _, r'⟩
    · exact .cannotPin hp
    · exact .pins f hp
  · exact .noFlow ..

theorem becomes_choose {e : ExchangeId} {s : SlotId} {flows : List Flow} :
    Becomes c r (.choose e s flows) (stepChoose r e s flows) := by
  unfold stepChoose
  split
  · exact .chosen none fun _ => rfl
  · split
    · exact .chosen _ nofun
    · exact .asks ..

theorem becomes_hand {s : SlotId} {e : ExchangeId} : Becomes c r (.hand s e) (stepHand r s e) := by
  unfold stepHand
  dsimp only [Exchange.takeWaiting]
  by_cases hw : (r.exchange e).waiting.get (r.exchange e).role.opposite = true
  · rw [if_pos hw]
    exact .answers hw
  · rw [if_neg hw]
    have hb := Bool.eq_false_of_not_eq_true hw
    split
    · exact .turnsOver hb
    · rename_i apart
      exact .leaves _ (eq_false_of_ne_true apart) hb

theorem becomes_enter {s : SlotId} {e : ExchangeId} {sends : Nat} :
    Becomes c r (.enter s e sends) (stepEnter r s e sends) := by
  unfold stepEnter
  split
  · rename_i name ho
    exact .calls ho
  · split
    · rename_i slot hp
      exact .posts hp
    · rename_i hp
      exact .notPosted _ hp

theorem becomes_handle {s : SlotId} {e : ExchangeId} {sends : Nat} :
    Becomes c r (.handle s e sends) (stepHandle c r s e sends) := by
  unfold stepHandle
  split
  · rename_i f hc
    dsimp only
    split
    · rename_i hx
      exact .fails f hc hx.1 hx.2.1 hx.2.2
    · rename_i hx
      exact .handled fun _ _ => hx
  · rename_i hc
    exact .handled fun f hf => absurd hf (hc f)

theorem becomes_register {name : String} {properties : Properties} :
    Becomes c r (.register name properties) (stepRegister r name properties) := by
  unfold stepRegister
  split
  · rename_i g hg
    exact .registered hg
  · rename_i hg
    exact .reserves hg rfl

theorem becomes_receive {s : SlotId} {deadline : Nat} (h : stepReceive c r s deadline ≠ .blocked) :
    Becomes c r (.receive s deadline) (stepReceive c r s deadline) := by
  unfold stepReceive at h ⊢
  rcases ht : (r.slot s).take? with _ | ⟨e, slot⟩
  · rw [ht] at h
    by_cases hd : deadline ≤ c.now ∨ !c.alive ∨ !r.isPresent s
    · rw [if_pos hd]
      exact .receivesNone ..
    · exact absurd (if_neg hd) h
  · exact .receives ht

theorem becomes_send {s : SlotId} {e : ExchangeId} :
    Becomes c r (.send s e) ((Frame.send s e).step c r) := by
  rcases hc : checkChannel c r s with err | _
  · simp only [step, hc]
    exact .notSent hc
  · simp only [step, hc]
    exact .send hc

theorem becomes_sendSync {s : SlotId} {e : ExchangeId} {timeout : Option Nat} :
    Becomes c r (.sendSync s e timeout) ((Frame.sendSync s e timeout).step c r) := by
  rcases hc : checkChannel c r s with err | _
  · simp only [step, hc]
    exact .notSentSync hc
  · simp only [step, hc]
    exact .sendSync hc

/-- A step that does not have to wait is one of the cases. -/
theorem becomes_step (f : Frame) (hb : f.step c r ≠ .blocked) : Becomes c r f (f.step c r) := by
  cases f with
  | call call => exact absurd rfl hb
  | yields reply => exact .yields reply
  | announce event e => exact .announce ..
  | notify event e ls =>
    cases ls with
    | nil => exact .notified ..
    | cons l ls => exact .notify ..
  | announceSlot event s => exact .announceSlot ..
  | notifySlot event s ls =>
    cases ls with
    | nil => exact .slotNotified ..
    | cons l ls => exact .notifySlot ..
  | send s e => exact becomes_send
  | sendSync s e timeout => exact becomes_sendSync
  | mark s e timeout => exact becomes_mark
  | marked e role timeout => exact becomes_marked
  | waiting e role deadline => exact becomes_waiting hb
  | woken e role => exact .woken ..
  | dispatch s e =>
    simp only [step]
    split
    · rename_i hs
      exact .closed hs
    · rename_i hs
      exact .dispatch (by simpa using hs)
  | accept s e => exact becomes_accept
  | sent h => exact .sent h
  | routed h => exact becomes_routed
  | lost h err => exact becomes_lost
  | release e => exact .release e
  | wake e role => exact .wake ..
  | route h => exact becomes_route
  | offer h target candidates denied => exact becomes_offer
  | offered h target s rest denied => exact becomes_offered
  | routeTo h s =>
    simp only [step]
    split
    · rename_i hs
      exact .seeks hs
    · rename_i hs
      exact .gone _ (by simpa using hs)
  | reaching h s =>
    simp only [step, stepReaching]
    split
    · rename_i chosen
      exact .reaches _ chosen
    · rename_i none
      exact .noFlowBack _ none
  | choose e s flows => exact becomes_choose
  | asking e s f rest =>
    simp only [step, stepAsking]
    split
    · exact .accepts ..
    · rename_i refused
      exact .declines refused
  | deliver s e =>
    simp only [step]
    split
    · rename_i ha
      exact .deliver ha
    · rename_i ha
      exact .notDelivered (by simpa using ha)
  | hand s e => exact becomes_hand
  | process s e => exact .process s e
  | enter s e sends => exact becomes_enter
  | handle s e sends => exact becomes_handle
  | register name properties => exact becomes_register
  | bound name g =>
    simp only [step, stepBound]
    rcases hc : r.registry.confirm name g with ⟨_ | _, registry⟩
    · exact .notConfirmed hc
    · exact .confirms hc
  | unregister name =>
    simp only [step, stepUnregister]
    rcases hu : r.unregister name with _ | ⟨s, r'⟩
    · exact .notRegistered name
    · exact .unregisters hu
  | receive s deadline => exact becomes_receive hb

end Frame

/-- The router after a step. -/
def Outcome.router (r : Router) : Outcome → Router
  | .blocked => r
  | .next _ r | .through _ r | .spawn _ _ r => r

namespace Machine

/-- The machine after a step of a task: what comes of the top frame goes above the others. -/
def settle (m : Machine) (t : Nat) (rest : List Frame) : Outcome → Machine
  | .blocked => m
  | .next frames router =>
    { m with router }.setTask t
      { m.task t with frames := frames ++ rest, reply := .done, started := true }
  | .through reply router =>
    { m with router }.setTask t { m.task t with frames := rest, reply, started := true }
  | .spawn lane frames router =>
    let m := { m with router }.setTask t
      { m.task t with frames := rest, reply := .done, started := true }
    { m with tasks := (m.tasks.add { lane := lane, frames := frames }).2 }

/-- A task advances by the step of its top frame. -/
theorem exists_step {m m' : Machine} {t : Nat} (hm : m.advance? t = some m') :
    ∃ f rest, (m.task t).frames = f :: rest ∧
      f.step ⟨m.routerAlive, m.now, (m.task t).reply⟩ m.router ≠ .blocked ∧
      m' = m.settle t rest (f.step ⟨m.routerAlive, m.now, (m.task t).reply⟩ m.router) := by
  unfold advance? at hm
  dsimp only at hm
  split at hm
  · cases hm
  · rename_i f rest hf
    refine ⟨f, rest, hf, fun ho => ?_, ?_⟩
    · rw [ho] at hm
      cases hm
    · split at hm
      · cases hm
      · rename_i ho
        rw [ho]
        exact (Option.some.inj hm).symm
      · rename_i ho
        rw [ho]
        exact (Option.some.inj hm).symm
      · rename_i ho
        rw [ho]
        exact (Option.some.inj hm).symm

/-- What becomes of the top frame of a task that advances. -/
theorem exists_becomes {m m' : Machine} {t : Nat} (hm : m.advance? t = some m') :
    ∃ f rest o, (m.task t).frames = f :: rest ∧
      Frame.Becomes ⟨m.routerAlive, m.now, (m.task t).reply⟩ m.router f o ∧
      m' = m.settle t rest o := by
  obtain ⟨f, rest, hf, go, hm'⟩ := exists_step hm
  exact ⟨f, rest, _, hf, Frame.becomes_step f go, hm'⟩

end Machine

end Engine

end MessageRouter
