import MessageRouter.Proofs.Closing
import MessageRouter.Proofs.Script
import MessageRouter.Proofs.Sends

/-!
# Conversations

The accepted sends of an exchange are meant to be a conversation: the consumer opens it, the
provider answers, and the consumer closes what the answer has left open.  `Run.conversation_iff`
says when they are: as long as no send is accepted between the moment at which a consumer that
waits is given its answer and the moment at which it takes the exchange back.
-/

namespace MessageRouter.Engine

/-! ## Conversations -/

/-- At most three sends, the latest first: the consumer opens the exchange; the provider answers;
and if it has left the exchange active, the consumer closes it through the same slot. -/
def Conversation : List Sending → Prop
  | [] => True
  | [a] => a.state.AtRest ∧ a.state.Opens
  | [b, a] => Conversation [a] ∧ b.state.AtRest ∧ b.state.Answers b.sender
  | [c, b, a] => Conversation [b, a] ∧ b.state.status = .active ∧ c.state.AtRest ∧
    c.state.Closes c.sender ∧ c.sender = a.sender
  | _ => False

theorem Conversation.tail {a : Sending} {l : List Sending} (h : Conversation (a :: l)) :
    Conversation l := by
  match l with
  | [] => trivial
  | [_] | [_, _] => exact h.1
  | _ :: _ :: _ :: _ => exact h.elim

/-! ## Where a conversation stands -/

namespace Frame

/-- The frame is on the way to give a party its answer, or to let it take the exchange back. -/
def returns (role : Role) : Frame → Bool
  | .wake _ role' | .woken _ role' => role' == role
  | _ => false

end Frame

/-- How many answers a party has been given that it has not taken yet. -/
def handed (role : Role) (x : Exchange) (D : Multiset Frame) : Nat :=
  (x.token.get role).toNat + count (Frame.returns role) D

/-- Where a conversation stands that is not over, from its accepted sends. -/
inductive Phase (x : Exchange) (handed : Nat) : List Sending → Prop
  | fresh (role : x.role = .consumer) (source : x.source = none) (arrived : x.inTransit = false)
    (alone : x.waiting.provider = false) (taken : handed = 0) : Phase x handed []
  | opened {a : Sending} (role : x.role = .consumer) (source : x.source = some a.sender)
    (sent : x.inTransit = true) (alone : x.waiting.provider = false) (taken : handed = 0) :
    Phase x handed [a]
  | asked {a : Sending} (role : x.role = .provider) (source : x.source = some a.sender)
    (arrived : x.inTransit = false) (taken : handed = 0) : Phase x handed [a]
  | answered {a b : Sending} (active : b.state.status = .active) (role : x.role = .provider)
    (source : x.source = some a.sender) (sent : x.inTransit = true) (taken : handed = 0) :
    Phase x handed [b, a]
  | handedOver {a b : Sending} (active : b.state.status = .active) (role : x.role = .provider)
    (source : x.source = some a.sender) (arrived : x.inTransit = false) (given : handed = 1) :
    Phase x handed [b, a]
  | returned {a b : Sending} (active : b.state.status = .active) (role : x.role = .consumer)
    (source : x.source = some a.sender) (arrived : x.inTransit = false) (taken : handed = 0) :
    Phase x handed [b, a]

/-- An exchange is over, or its conversation stands somewhere and the provider has not been given
any answer. -/
def Stands (x : Exchange) (D : Multiset Frame) (l : List Sending) : Prop :=
  x.completed = true ∨ handed .provider x D = 0 ∧ Phase x (handed .consumer x D) l

section

variable {c : Context} {e : ExchangeId} {role : Role} {d : Deed} {f : Frame}
  {x x' : Exchange} {fs : List Frame} {N D D' : Multiset Frame} {l : List Sending}

theorem Phase.congr {n : Nat} (h : Phase x n l) (role : x'.role = x.role)
    (source : x'.source = x.source) (inTransit : x'.inTransit = x.inTransit)
    (alone : x.role = .consumer → x.waiting.provider = false → x'.waiting.provider = false) :
    Phase x' n l := by
  cases h with
  | fresh hr hs ht ha hn =>
    exact .fresh (role.trans hr) (source.trans hs) (inTransit.trans ht) (alone hr ha) hn
  | opened hr hs ht ha hn =>
    exact .opened (role.trans hr) (source.trans hs) (inTransit.trans ht) (alone hr ha) hn
  | asked hr hs ht hn => exact .asked (role.trans hr) (source.trans hs) (inTransit.trans ht) hn
  | answered hb hr hs ht hn =>
    exact .answered hb (role.trans hr) (source.trans hs) (inTransit.trans ht) hn
  | handedOver hb hr hs ht hn =>
    exact .handedOver hb (role.trans hr) (source.trans hs) (inTransit.trans ht) hn
  | returned hb hr hs ht hn =>
    exact .returned hb (role.trans hr) (source.trans hs) (inTransit.trans ht) hn

theorem Phase.le_one {n : Nat} (h : Phase x n l) : n ≤ 1 := by
  cases h <;> omega

/-- What leaves the turn and the answers alone leaves the conversation where it stands. -/
theorem Stands.congr (h : Stands x D l) (completed : x'.completed = x.completed)
    (role : x'.role = x.role) (source : x'.source = x.source)
    (inTransit : x'.inTransit = x.inTransit)
    (alone : x.role = .consumer → x.waiting.provider = false → x'.waiting.provider = false)
    (same : ∀ r, handed r x' D' = handed r x D) : Stands x' D' l := by
  refine h.imp (fun hc => completed.trans hc) fun ⟨hp, phase⟩ => ?_
  rw [same, same]
  exact ⟨hp, phase.congr role source inTransit alone⟩

theorem handed_cons (role : Role) (x : Exchange) (f : Frame) (N : Multiset Frame) :
    handed role x (f ::ₘ N) = handed role x N + (f.returns role).toNat := by
  rw [handed, handed, count_cons, Nat.add_assoc]

theorem handed_add {fs : List Frame} (h : ∀ f ∈ fs, f.returns role = false) (x : Exchange)
    (N : Multiset Frame) : handed role x (fs + N) = handed role x N := by
  rw [handed, handed, count_quiet h]

theorem handed_eq_zero : handed role x D = 0 ↔
    x.token.get role = false ∧ count (Frame.returns role) D = 0 := by
  rw [handed, Nat.add_eq_zero_iff]
  cases x.token.get role <;> simp

/-- A party is given at most one answer at a time. -/
theorem Stands.le_one (h : Stands x D l) (going : x.completed = false) : handed role x D ≤ 1 := by
  obtain ⟨hp, phase⟩ := h.resolve_left fun hc => Bool.false_ne_true (going.symm.trans hc)
  cases role with
  | consumer => exact phase.le_one
  | provider => omega

/-- An answer that is on its way, or is being taken, is the only one. -/
theorem Stands.alone (h : Stands x (f ::ₘ N) l) (going : x.completed = false)
    (hf : f.returns role = true) : x.token.get role = false ∧ count (Frame.returns role) N = 0 := by
  have : handed role x (f ::ₘ N) ≤ 1 := h.le_one going
  rw [handed_cons, hf, Bool.toNat_true] at this
  exact handed_eq_zero.1 (by omega)

/-- Frames on which no answer is given or taken come and go. -/
theorem Stands.quiet (h : Stands x (f ::ₘ N) l) (hf : ∀ r, f.returns r = false)
    (hfs : ∀ r, ∀ g ∈ fs, g.returns r = false) (completed : x'.completed = x.completed)
    (role : x'.role = x.role) (source : x'.source = x.source)
    (inTransit : x'.inTransit = x.inTransit) (token : x'.token = x.token)
    (alone : x.role = .consumer → x.waiting.provider = false → x'.waiting.provider = false) :
    Stands x' (fs + N) l := by
  refine h.congr completed role source inTransit alone fun r => ?_
  rw [handed_add (hfs r), handed_cons, hf r, handed, handed, token]
  rfl

/-- A party that waits takes its answer, and takes the exchange back next. -/
theorem Stands.takesToken {deadline : Option Nat} (h : Stands x (.waiting e role deadline ::ₘ N) l)
    (token : x.token.get role = true) :
    Stands (x.setToken role false) (([.woken e role] : List Frame) + N) l := by
  refine h.congr rfl rfl rfl rfl (fun _ ha => ha) fun r => ?_
  by_cases hr : role = r
  · simp [handed, Frame.returns, Exchange.setToken, hr, hr ▸ token]
    omega
  · simp [handed, Frame.returns, Exchange.setToken, PerRole.get_set, hr]

/-- An answer that reaches the party it is for is left there to be taken. -/
theorem Stands.givesToken (h : Stands x (.wake e role ::ₘ N) l) :
    Stands (x.setToken role true) N l := by
  by_cases hc : x.completed = true
  · exact .inl hc
  · obtain ⟨token, none⟩ := h.alone (eq_false_of_ne_true hc) (beq_self_eq_true role)
    refine h.congr rfl rfl rfl rfl (fun _ ha => ha) fun r => ?_
    by_cases hr : role = r
    · simp [handed, Frame.returns, Exchange.setToken, hr, hr ▸ token, hr ▸ none]
    · simp [handed, Frame.returns, Exchange.setToken, PerRole.get_set, hr]

/-- It is the consumer who takes an exchange back that goes on, when it has got its answer. -/
theorem Stands.takesBack (h : Stands x (.woken e role ::ₘ N) l) : Stands { x with role } N l := by
  by_cases hc : x.completed = true
  · exact .inl hc
  · obtain ⟨token, none⟩ := h.alone (eq_false_of_ne_true hc) (beq_self_eq_true role)
    obtain ⟨hp, phase⟩ := h.resolve_left hc
    rw [handed_cons] at hp
    cases role with
    | provider => simp [Frame.returns] at hp
    | consumer =>
      have phase : Phase x 1 l := by
        rwa [handed_cons, handed_eq_zero.2 ⟨token, none⟩] at phase
      have taken : handed .consumer { x with role := .consumer } N = 0 :=
        handed_eq_zero.2 ⟨token, none⟩
      refine .inr ⟨hp, ?_⟩
      rw [taken]
      cases phase with
      | handedOver active hr hs ha => exact .returned active rfl hs ha rfl
      | fresh _ _ _ _ taken | opened _ _ _ _ taken | answered _ _ _ _ taken
        | returned _ _ _ _ taken => all_goals cases taken
      | asked _ _ _ taken => cases taken

/-- Only the consumer waits for an answer while the exchange goes on, so it is the one to get it. -/
theorem Stands.answers {s : SlotId} (h : Stands x (.hand s e ::ₘ N) l) (sent : x.inTransit = true)
    (waits : x.waiting.get x.role.opposite = true) :
    Stands x.answered (([.wake e x.role.opposite] : List Frame) + N) l := by
  refine h.imp id fun ⟨hp, phase⟩ => ?_
  have hadd (r : Role) : handed r x.answered (([.wake e x.role.opposite] : List Frame) + N) =
      handed r x (.hand s e ::ₘ N) + (x.role.opposite == r).toNat := by
    simp [handed, Frame.returns, Exchange.answered, Exchange.setWaiting, Nat.add_assoc]
  rw [hadd, hadd]
  cases phase with
  | opened hr hs _ alone =>
    rw [hr] at waits
    exact absurd (alone.symm.trans waits) Bool.false_ne_true
  | answered active hr hs _ taken =>
    rw [hr, hp, taken]
    exact ⟨rfl, .handedOver active hr hs rfl rfl⟩
  | fresh hr hs ha | asked hr hs ha | handedOver active hr hs ha | returned active hr hs ha =>
    all_goals exact absurd (ha.symm.trans sent) Bool.false_ne_true

/-- An exchange that is on its way turns over to the party it reaches. -/
theorem Stands.turnsOver {s : SlotId} (h : Stands x (.process s e ::ₘ N) l)
    (sent : x.inTransit = true) :
    Stands x.turned (([.enter s e x.sends] : List Frame) + N) l := by
  refine h.imp id fun ⟨hp, phase⟩ => ?_
  have same (r : Role) : handed r x.turned (([.enter s e x.sends] : List Frame) + N) =
      handed r x (.process s e ::ₘ N) := by
    simp [handed, Frame.returns, Exchange.turned]
  rw [same, same, hp]
  cases phase with
  | opened hr hs _ alone taken => exact ⟨rfl, .asked (congrArg Role.opposite hr) hs rfl taken⟩
  | answered active hr hs _ taken =>
    exact ⟨rfl, .returned active (congrArg Role.opposite hr) hs rfl taken⟩
  | fresh hr hs ha | asked hr hs ha | handedOver active hr hs ha | returned active hr hs ha =>
    all_goals exact absurd (ha.symm.trans sent) Bool.false_ne_true

/-- The work on a duty moves a conversation on, unless it is a send that is accepted. -/
theorem Work.stands (w : Work c x e f x' fs) (custody : InCustody x (f ::ₘ N))
    (h : Stands x (f ::ₘ N) l) :
    (∃ s, f = .accept s e ∧ x' = x.sentBy s) ∨ Stands x' (fs + N) l := by
  cases w with
  | accept s e allowed => exact .inl ⟨s, rfl, rfl⟩
  | sendBack | strandWaiter | strand => all_goals exact .inr (.inl rfl)
  | takeToken e deadline token => exact .inr (h.takesToken token)
  | wake e role =>
    rw [Multiset.coe_nil, zero_add]
    exact .inr h.givesToken
  | woken e role =>
    rw [Multiset.coe_nil, zero_add]
    exact .inr h.takesBack
  | answers s e waits =>
    exact .inr (h.answers (custody.inTransit (Multiset.mem_cons_self ..) rfl) waits)
  | process s e => exact .inr (h.turnsOver (custody.inTransit (Multiset.mem_cons_self ..) rfl))
  | ends subject mayEnd =>
    right
    refine h.quiet (fun r => ?_) (by simp) rfl rfl rfl rfl rfl fun _ ha => ha
    cases f <;> first | rfl | cases mayEnd
  | loses err hop =>
    right
    refine h.quiet (fun r => ?_) (by simp [Frame.returns]) rfl rfl rfl rfl rfl fun _ ha => ha
    cases f <;> first | rfl | cases hop
  | pins target rest denied carrier | reaches carrier =>
    all_goals
      right
      obtain rfl | ⟨name, rfl⟩ := Frame.eq_of_isCarrier carrier <;>
        exact h.quiet (fun _ => rfl) (by simp [Frame.returns]) rfl rfl rfl rfl rfl fun _ ha => ha
  | mark s e timeout active =>
    right
    refine h.quiet (fun _ => rfl) (by simp [Frame.returns]) rfl rfl rfl rfl rfl fun hr ha => ?_
    simp only [Exchange.setWaiting, hr]
    exact ha
  | unmark e role timeout refused | @giveUp e role deadline waits empty =>
    all_goals
      right
      refine h.quiet (fun _ => rfl) (by simp [Frame.returns]) rfl rfl rfl rfl rfl fun hr ha => ?_
      cases role
      · exact ha
      · rfl
  | _ =>
    right
    exact h.quiet (fun _ => rfl) (by simp [Frame.returns]) rfl rfl rfl rfl rfl fun _ ha => ha

/-- A turn moves a conversation on, unless it is a send that is accepted. -/
theorem Turn.stands (t : Turn true e d x D x' D') (custody : InCustody x D)
    (h : Stands x D l) :
    (∃ c s, d = .work c (.accept s e) ∧ x' = x.sentBy s) ∨ Stands x' D' l := by
  cases t with
  | idle | elsewhere | elsewhereAnswer => exact .inr h
  | work w =>
    refine (w.stands custody h).imp_left ?_
    rintro ⟨s, rfl, rfl⟩
    exact ⟨_, s, rfl, rfl⟩
  | send | sendSync =>
    all_goals
      refine .inr (h.congr rfl rfl rfl rfl (fun _ ha => ha) fun r => ?_)
      rw [handed_cons]
      rfl
  | deliver s wild => cases wild
  | delivers name s N same =>
    refine .inr (h.congr rfl rfl rfl rfl (fun _ ha => ha) fun r => ?_)
    simp [handed, Frame.returns]
  | answer name s delivered N same =>
    refine .inr (h.congr rfl rfl rfl rfl (fun _ ha => ha) fun r => ?_)
    simp [handed, Frame.returns]
  | refuse name s err N same undelivered =>
    refine .inr (h.congr rfl rfl rfl rfl (fun _ ha => ha) fun r => ?_)
    simp [handed, Frame.returns]
  | create p => exact .inr (h.congr rfl rfl rfl rfl (fun _ ha => ha) fun r => rfl)
  | change c changed =>
    have same := (Exchange.change_ok changed).1
    refine .inr (h.congr same.completed same.role same.source same.inTransit ?_ fun r => ?_)
    · rw [same.waiting]
      exact fun _ ha => ha
    · rw [handed, handed, same.token]

/-- What becomes of an exchange when a send of it comes up for acceptance. -/
theorem Turn.of_accept {tame : Bool} {s : SlotId}
    (t : Turn tame e (.work c (.accept s e)) x D x' D') :
    x' = x ∨ x.checkSend s = .ok () ∧ x' = x.sentBy s ∧ ∀ r, handed r x' D' = handed r x D := by
  cases t with
  | idle idle => cases idle
  | elsewhere other => exact .inl rfl
  | work w =>
    cases w with
    | ends => exact .inl rfl
    | accept s e allowed =>
      refine .inr ⟨allowed, rfl, fun r => ?_⟩
      simp [handed, Frame.returns, Exchange.sentBy]
    | loses err hop => cases hop

/-- An accepted send continues the conversation, unless the consumer has been given its answer and
has not taken the exchange back. -/
theorem Stands.accept {s : SlotId} (h : Stands x D l) (allowed : x.checkSend s = .ok ())
    (same : ∀ r, handed r (x.sentBy s) D' = handed r x D) (conversation : Conversation l) :
    handed .consumer x D = 0 ∧ Conversation (⟨s, x⟩ :: l) ∧ Stands (x.sentBy s) D' (⟨s, x⟩ :: l) ∨
      handed .consumer x D ≠ 0 ∧ ¬Conversation (⟨s, x⟩ :: l) := by
  obtain ⟨rest, turn⟩ := Exchange.checkSend_ok.1 allowed
  obtain ⟨hp, phase⟩ := h.resolve_left fun hc => Bool.false_ne_true (rest.going.symm.trans hc)
  have stands {l : List Sending} (h : x.status.isTerminal = true ∨
      Phase (x.sentBy s) (handed .consumer x D) l) : Stands (x.sentBy s) D' l := by
    refine h.imp_right fun phase => ?_
    rw [same, same]
    exact ⟨hp, phase⟩
  cases phase with
  | fresh hr hs ha alone taken =>
    rcases turn with opens | answers | closes
    · refine .inl ⟨taken, ⟨rest, opens⟩, stands (.inr (.opened hr ?_ rfl alone taken))⟩
      simp [Exchange.sentBy, hs]
    · exact absurd (answers.turn.symm.trans hr) (by decide)
    · exact absurd (closes.sender.symm.trans hs) (Option.some_ne_none _)
  | opened hr hs ht => exact absurd (rest.arrived.symm.trans ht) Bool.false_ne_true
  | @asked a hr hs ha taken =>
    rcases turn with opens | answers | closes
    · exact absurd (opens.turn.symm.trans hr) (by decide)
    · refine .inl ⟨taken, ⟨conversation, rest, answers⟩, stands ?_⟩
      by_cases hterminal : x.status.isTerminal = true
      · exact .inl hterminal
      · refine .inr (.answered ?_ hr (by simp [Exchange.sentBy, hs]) rfl taken)
        cases hstatus : x.status <;> simp_all [Status.isTerminal]
    · exact absurd (closes.turn.symm.trans hr) (by decide)
  | answered _ hr hs ht => exact absurd (rest.arrived.symm.trans ht) Bool.false_ne_true
  | handedOver _ hr hs ha given =>
    refine .inr ⟨by omega, fun h => ?_⟩
    exact absurd (h.2.2.2.1.turn.symm.trans hr) (by decide)
  | @returned a b active hr hs ha taken =>
    rcases turn with opens | answers | closes
    · exact absurd (opens.fresh.symm.trans hs) (Option.some_ne_none _).symm
    · exact absurd (answers.turn.symm.trans hr) (by decide)
    · have sender : s = a.sender := Option.some.inj (closes.sender.symm.trans hs)
      exact .inl ⟨taken, ⟨conversation, active, rest, closes, sender⟩,
        stands (.inl closes.terminal)⟩

end

/-! ## Whole runs -/

namespace Machine

variable {m : Machine} {e : ExchangeId} {role : Role}

/-- A party has been given its answer, and it has not taken the exchange back yet. -/
def HandedOver (m : Machine) (e : ExchangeId) (role : Role) : Prop :=
  (m.router.exchange e).token.get role = true ∨
    ∃ t, .wake e role ∈ (m.task t).frames ∨ .woken e role ∈ (m.task t).frames

theorem handedOver_iff :
    m.HandedOver e role ↔ handed role (m.router.exchange e) (m.dutiesFor e) ≠ 0 := by
  rw [Ne, handed_eq_zero, not_and_or, Bool.not_eq_false]
  refine or_congr_right ?_
  rw [← Ne, ← Nat.pos_iff_ne_zero, count_pos]
  constructor
  · rintro ⟨t, hf | hf⟩
    all_goals
      exact ⟨_, Multiset.mem_filter.2 ⟨mem_duties hf (fun _ h => by cases h), beq_self_eq_true _⟩,
        beq_self_eq_true _⟩
  · rintro ⟨f, hf, hreturns⟩
    obtain ⟨hduty, habout⟩ := Multiset.mem_filter.1 hf
    obtain ⟨t, hmem | ⟨h, err, rfl, -⟩⟩ := exists_frame_of_mem hduty
    · cases f with
      | wake e' role' =>
        obtain rfl : role' = role := beq_iff_eq.1 hreturns
        obtain rfl : e' = e := Option.some.inj (beq_iff_eq.1 habout)
        exact ⟨t, .inl hmem⟩
      | woken e' role' =>
        obtain rfl : role' = role := beq_iff_eq.1 hreturns
        obtain rfl : e' = e := Option.some.inj (beq_iff_eq.1 habout)
        exact ⟨t, .inr hmem⟩
      | _ => cases hreturns
    · cases hreturns

end Machine

/-- No send of an exchange was accepted while its consumer had an answer that it had not taken. -/
def AnswersTaken (e : ExchangeId) (h : History) : Prop :=
  ∀ p ∈ h, (p.1.accepted? e p.2).isSome = true → ¬p.1.HandedOver e .consumer

theorem answersTaken_cons {e : ExchangeId} {h : History} {m : Machine} {mv : Move} :
    AnswersTaken e ((m, mv) :: h) ↔
      ((m.accepted? e mv).isSome = true → ¬m.HandedOver e .consumer) ∧ AnswersTaken e h :=
  List.forall_mem_cons

/-- What is known of an exchange and its sends after the moves of a history. -/
structure Conversing (e : ExchangeId) (h : History) (x : Exchange) (D : Multiset Frame) : Prop where
  custody : InCustody x D
  conversation : Conversation (sendings e h) ↔ AnswersTaken e h
  stands : Conversation (sendings e h) → Stands x D (sendings e h)

theorem Conversing.move {h : History} {m m' : Machine} {mv : Move} {e : ExchangeId}
    (conversing : Conversing e h (m.router.exchange e) (m.dutiesFor e)) (hm : m.move? mv = some m')
    (t : Turn true e (m.deed mv) (m.router.exchange e) (m.dutiesFor e) (m'.router.exchange e)
      (m'.dutiesFor e)) :
    Conversing e ((m, mv) :: h) (m'.router.exchange e) (m'.dutiesFor e) := by
  obtain ⟨custody, conversation, stands⟩ := conversing
  suffices h' : (Conversation (sendings e ((m, mv) :: h)) ↔ AnswersTaken e ((m, mv) :: h)) ∧
      (Conversation (sendings e ((m, mv) :: h)) →
        Stands (m'.router.exchange e) (m'.dutiesFor e) (sendings e ((m, mv) :: h))) from
    ⟨t.inCustody custody, h'.1, h'.2⟩
  rcases ha : m.accepted? e mv with _ | a
  · have hsendings : sendings e ((m, mv) :: h) = sendings e h := by simp [sendings, ha]
    rw [hsendings, answersTaken_cons, ha]
    refine ⟨by simpa using conversation, fun hc => ?_⟩
    rcases t.stands custody (stands hc) with ⟨c, s, hd, hx⟩ | stands'
    · have same := Machine.exchange_of_not_accepted hm hd ha
      have : (m.router.exchange e).sends = (m.router.exchange e).sends + 1 :=
        congrArg Exchange.sends (same.symm.trans hx)
      omega
    · exact stands'
  · have hsendings : sendings e ((m, mv) :: h) = a :: sendings e h := by simp [sendings, ha]
    obtain ⟨⟨c, hd⟩, hstate, allowed, hx⟩ := Machine.accepted?_eq_some hm ha
    obtain ⟨s, x⟩ := a
    dsimp only at hstate allowed hx hd
    subst hstate
    rw [hsendings, answersTaken_cons, ha, ← conversation, Machine.handedOver_iff]
    by_cases hc : Conversation (sendings e h)
    · have same : ∀ r, handed r ((m.router.exchange e).sentBy s) (m'.dutiesFor e) =
          handed r (m.router.exchange e) (m.dutiesFor e) := by
        rw [hd] at t
        rcases t.of_accept with same | ⟨-, hx', same⟩
        · have hsends := congrArg Exchange.sends (same.symm.trans hx)
          simp only [Exchange.sentBy] at hsends
          omega
        · rwa [hx'] at same
      rw [hx]
      rcases (stands hc).accept allowed same hc with ⟨taken, hc', stands'⟩ | ⟨given, hc'⟩
      · exact ⟨by simp [hc, hc', taken], fun _ => stands'⟩
      · exact ⟨by simp [hc', given], fun h => absurd h hc'⟩
    · have hc' : ¬Conversation (⟨s, m.router.exchange e⟩ :: sendings e h) := fun h => hc h.tail
      exact ⟨by simp [hc, hc'], fun h => absurd h hc'⟩

variable {config : Config} {h : History} {m : Machine}

theorem Run.conversing (run : Run config h m) (tame : Tame h) (e : ExchangeId) :
    Conversing e h (m.router.exchange e) (m.dutiesFor e) := by
  obtain ⟨r, hr, p⟩ := run
  refine p.turns (P := fun h x D => Conversing e h x D) e (Machine.stacked_ofRouter r)
    (fun _ => tame) ?_ fun h m m' mv conversing hm t => conversing.move hm t
  rw [Machine.dutiesFor_ofRouter, Machine.ofRouter, exchange_start hr]
  have none : AnswersTaken e [] := fun p hp => by cases hp
  exact ⟨Nat.le_refl _, ⟨fun _ => none, fun _ => trivial⟩,
    fun _ => .inr ⟨rfl, .fresh rfl rfl rfl rfl rfl⟩⟩

/-- The accepted sends of an exchange are a conversation if and only if none of them was accepted
while the consumer had an answer that it had not taken; and every other send is refused. -/
theorem Run.conversation_iff (run : Run config h m) (tame : Tame h) (e : ExchangeId) :
    (Conversation (sendings e h) ↔ AnswersTaken e h) ∧ m.AnswersSends e :=
  ⟨(run.conversing tame e).conversation, m.answersSends e⟩

/-- The consumer sends the exchange, the provider answers, and the consumer closes it. -/
def Cue.roundTrip : List Cue :=
  asking .inOut ++ answering 1 ++
    [operate (.change ⟨0⟩ (.status .done)), request 0 (.send ⟨1⟩ ⟨0⟩), runs 0]

theorem Run.conversation_iff_roundTrip : ∃ h m, Run {} h m ∧ Tame h ∧
    (sendings ⟨0⟩ h).map (·.state.role) = [.consumer, .provider, .consumer] ∧
    (Conversation (sendings ⟨0⟩ h) ↔ AnswersTaken ⟨0⟩ h) ∧ m.AnswersSends ⟨0⟩ := by
  obtain ⟨h, m, p, hq⟩ := Path.exists_of_enact .usual Cue.roundTrip
    (fun p => p.1.all (fun q => q.1.isTame q.2) &&
      (sendings ⟨0⟩ p.1).map (·.state.role) == [.consumer, .provider, .consumer]) (by rfl)
  simp only [Bool.and_eq_true, beq_iff_eq, List.all_eq_true] at hq
  obtain ⟨tame, roles⟩ := hq
  exact ⟨h, m, p.run, tame, roles, p.run.conversation_iff tame ⟨0⟩⟩

/-- The consumer waits, and the provider answers twice before the consumer is back at work. -/
def Cue.twoAnswers : List Cue :=
  awaiting .inOut ++ answering 1 ++ [request 1 (.send ⟨0⟩ ⟨0⟩), runs 1]

/-- The last of three sends is the consumer's. -/
theorem Conversation.role {a b c : Sending} (h : Conversation [c, b, a]) :
    c.state.role = .consumer :=
  h.2.2.2.1.turn

/-- Both answers are accepted. -/
theorem Run.conversation_twoAnswers : ∃ h m, Run {} h m ∧ Tame h ∧
    ¬Conversation (sendings ⟨0⟩ h) := by
  obtain ⟨h, m, p, hq⟩ := Path.exists_of_enact .usual Cue.twoAnswers
    (fun p => p.1.all (fun q => q.1.isTame q.2) &&
      (sendings ⟨0⟩ p.1).map (·.state.role) == [.provider, .provider, .consumer]) (by rfl)
  simp only [Bool.and_eq_true, beq_iff_eq, List.all_eq_true] at hq
  obtain ⟨tame, roles⟩ := hq
  refine ⟨h, m, p.run, tame, fun hc => ?_⟩
  match hl : sendings ⟨0⟩ h with
  | [c, b, a] =>
    rw [hl] at roles hc
    exact absurd (hc.role.symm.trans (List.cons.inj roles).1) (by decide)
  | [] | [_] | [_, _] | _ :: _ :: _ :: _ :: _ =>
    simp [hl] at roles

end MessageRouter.Engine
