import MessageRouter.Proofs.Effects
import MessageRouter.Proofs.RouterState
import MessageRouter.Proofs.Tasks

/-!
# Sends that are accepted and sends that are refused

A send is accepted in one step.  Whoever has made a send that is not accepted hears of it:
`Machine.refused_of_return`.
-/

namespace MessageRouter.Engine

/-! ## Accepted sends -/

/-- A send that was accepted: the slot through which the exchange was sent, and its state then. -/
structure Sending where
  sender : SlotId
  state : Exchange

/-- The send of an exchange that is accepted in a move. -/
def Machine.accepted? (m : Machine) (e : ExchangeId) (mv : Move) : Option Sending :=
  match m.deed mv with
  | .work _ (.accept s e') =>
    if e' = e ∧ (m.router.accept e s).1.isOk then some ⟨s, m.router.exchange e⟩ else none
  | _ => none

/-- The accepted sends of an exchange, the latest first. -/
def sendings (e : ExchangeId) (h : History) : List Sending :=
  h.filterMap fun p => p.1.accepted? e p.2

namespace Machine

variable {m m' : Machine} {mv : Move} {e : ExchangeId} {a : Sending} {s : SlotId} {t : Nat}

theorem deed_advance {f : Frame} {rest : List Frame} (hf : (m.task t).frames = f :: rest) :
    m.deed (.advance t) = .work ⟨m.routerAlive, m.now, (m.task t).reply⟩ f := by
  rw [deed, hf]

/-- A task works on a frame in a move in which that is done. -/
theorem exists_advance {c : Context} {f : Frame} (hd : m.deed mv = .work c f) :
    ∃ t rest, mv = .advance t ∧ (m.task t).frames = f :: rest := by
  cases mv with
  | advance t =>
    rcases hf : (m.task t).frames with _ | ⟨g, rest⟩
    · rw [deed, hf] at hd
      cases hd
    · rw [deed_advance hf] at hd
      cases hd
      exact ⟨t, rest, rfl, hf⟩
  | answer t reply =>
    simp only [deed] at hd
    split at hd <;> cases hd
  | _ => cases hd

/-- What becomes of an exchange in a step that accepts it, or does not. -/
theorem exchange_of_accept {c : Context} (hm : m.move? mv = some m')
    (hd : m.deed mv = .work c (.accept s e)) :
    ((m.router.accept e s).1.isOk = true ∧ (m.router.exchange e).checkSend s = .ok () ∧
        m'.router.exchange e = (m.router.exchange e).sentBy s) ∨
      (m.router.accept e s).1.isOk = false ∧ m'.router.exchange e = m.router.exchange e := by
  obtain ⟨t, rest, rfl, hf⟩ := exists_advance hd
  obtain ⟨f, rest', o, hf', b, rfl⟩ := exists_becomes hm
  obtain ⟨rfl, rfl⟩ := List.cons.inj (hf.symm.trans hf')
  cases b with
  | accept accepted =>
    obtain ⟨allowed, ⟨-, rfl⟩ | ⟨-, -, rfl⟩⟩ := Router.accept_ok accepted
    all_goals exact .inl ⟨by rw [accepted]; rfl, allowed, Router.exchange_setExchange_self ..⟩
  | notAccepted err refused =>
    refine .inr ⟨by rw [refused]; rfl, ?_⟩
    obtain rfl | ⟨-, rfl⟩ := Router.accept_error refused <;> rfl

/-- An accepted send was allowed, and the exchange is in transit after it. -/
theorem accepted?_eq_some (hm : m.move? mv = some m') (ha : m.accepted? e mv = some a) :
    (∃ c, m.deed mv = .work c (.accept a.sender e)) ∧ a.state = m.router.exchange e ∧
      a.state.checkSend a.sender = .ok () ∧ m'.router.exchange e = a.state.sentBy a.sender := by
  unfold accepted? at ha
  split at ha
  · rename_i c s e' hd
    simp only [Option.ite_none_right_eq_some, Option.some.injEq] at ha
    obtain ⟨⟨rfl, hok⟩, rfl⟩ := ha
    rcases exchange_of_accept hm hd with ⟨-, allowed, hx⟩ | ⟨hno, -⟩
    · exact ⟨⟨c, hd⟩, rfl, allowed, hx⟩
    · exact absurd (hno.symm.trans hok) Bool.false_ne_true
  · cases ha

/-- A send that is not accepted leaves the exchange as it was. -/
theorem exchange_of_not_accepted {c : Context} (hm : m.move? mv = some m')
    (hd : m.deed mv = .work c (.accept s e)) (ha : m.accepted? e mv = none) :
    m'.router.exchange e = m.router.exchange e := by
  rcases exchange_of_accept hm hd with ⟨hok, -⟩ | ⟨-, hx⟩
  · simp [accepted?, hd, hok] at ha
  · exact hx

end Machine

/-! ## Sends that come back -/

namespace Frame

/-- The send that begins with a frame: its slot and its exchange. -/
def sendOf? : Frame → Option (SlotId × ExchangeId)
  | .send s e | .sendSync s e _ | .dispatch s e => some (s, e)
  | _ => none

/-- A send that waits for the other party. -/
def isSync : Frame → Bool
  | .sendSync .. => true
  | _ => false

/-- What a send has below the frames that pass the exchange on: a mark, if it waits for the other
party. -/
def Marks (g : Frame) (e : ExchangeId) : List Frame → Prop
  | [] => g.isSync = false
  | [.marked e' _ _] => e' = e ∧ g.isSync = true
  | _ => False

/-- The frames of a send that begins with `g` and has not been accepted yet, or that has been
refused. -/
inductive Attempt (g : Frame) (s : SlotId) (e : ExchangeId) (reply : Reply) : List Frame → Prop
  | begins (send : g.sendOf? = some (s, e)) : Attempt g s e reply [g]
  | mark (timeout : Option Nat) (sync : g.isSync = true) : Attempt g s e reply [.mark s e timeout]
  | dispatch {below : List Frame} (marks : g.Marks e below) :
    Attempt g s e reply (.dispatch s e :: below)
  | accept {below : List Frame} (marks : g.Marks e below) :
    Attempt g s e reply (.accept s e :: below)
  | refused {below : List Frame} (marks : below = [] ∨ g.Marks e below)
    (refused : reply.isRefusal = true) : Attempt g s e reply below

variable {c : Context} {r : Router} {s : SlotId} {e : ExchangeId} {f g : Frame} {o : Outcome}
  {below : List Frame}

theorem Marks.cases (h : g.Marks e below) :
    below = [] ∧ g.isSync = false ∨
      g.isSync = true ∧ ∃ role timeout, below = [.marked e role timeout] := by
  unfold Marks at h
  split at h
  · exact .inl ⟨rfl, h⟩
  · exact .inr ⟨h.2, _, _, by rw [h.1]⟩
  · cases h

/-- A send is accepted in the work on a frame. -/
def IsAccepted (r : Router) (s : SlotId) (e : ExchangeId) (f : Frame) : Prop :=
  ∃ r', f = .accept s e ∧ r.accept e s = (.ok (), r')

/-- A send is accepted, or it goes on, or it is refused. -/
theorem Becomes.attempt (b : Becomes c r f o) (h : Attempt g s e c.reply (f :: below)) :
    f.IsAccepted r s e ∨ Attempt g s e o.reply (o.above ++ below) := by
  cases h with
  | begins send =>
    cases b with
    | send usable =>
      cases send
      exact .inr (.dispatch rfl)
    | sendSync usable =>
      cases send
      exact .inr (.mark _ rfl)
    | dispatch isOpen =>
      cases send
      exact .inr (.accept rfl)
    | closed | notSent | notSentSync => all_goals exact .inr (.refused (.inl rfl) rfl)
    | _ => cases send
  | mark timeout sync =>
    cases b with
    | mark active => exact .inr (.dispatch ⟨rfl, sync⟩)
    | notMarked => exact .inr (.refused (.inl rfl) rfl)
  | dispatch marks =>
    cases b with
    | dispatch isOpen => exact .inr (.accept marks)
    | closed closed => exact .inr (.refused (.inr marks) rfl)
  | accept marks =>
    cases b with
    | accept accepted => exact .inl ⟨_, rfl, accepted⟩
    | notAccepted err refused => exact .inr (.refused (.inr marks) rfl)
  | refused marks refused =>
    obtain ⟨none, -⟩ | ⟨-, role, timeout, one⟩ :=
      Marks.cases (marks.resolve_left (List.cons_ne_nil _ _))
    · cases none
    · cases one
      cases b with
      | unmark err refused => exact .inr (.refused (.inl rfl) rfl)
      | wait deadline sent => exact absurd (sent.symm.trans refused) Bool.false_ne_true

theorem Attempt.marks {reply : Reply} (h : Attempt g s e reply (.accept s e :: below)) :
    g.Marks e below := by
  cases h with
  | begins send => cases send
  | accept marks => exact marks
  | refused marks =>
    rcases marks with none | marks
    · cases none
    · cases below <;> cases marks

theorem Attempt.ne_call {reply : Reply} {c : Call} : ¬Attempt g s e reply (.call c :: below) := by
  rintro (send | _ | _ | _ | ⟨marks, -⟩)
  · cases send
  · rcases marks with none | marks
    · cases none
    · cases below <;> cases marks

end Frame

namespace Machine

variable {m m' : Machine} {mv : Move} {e : ExchangeId} {s : SlotId} {t : Nat} {g : Frame}
  {rest : List Frame}

/-- On a task a send is being tried, or it has just been refused. -/
def Attempts (m : Machine) (t : Nat) (g : Frame) (s : SlotId) (e : ExchangeId)
    (rest : List Frame) : Prop :=
  ∃ above, (m.task t).frames = above ++ rest ∧ Frame.Attempt g s e (m.task t).reply above

/-- The task makes a move in which its send is accepted. -/
def Accepts (m : Machine) (t : Nat) (s : SlotId) (e : ExchangeId) (mv : Move) : Prop :=
  mv = .advance t ∧ ∃ a, m.accepted? e mv = some a ∧ a.sender = s

theorem accepts_of_isAccepted {f : Frame} {below : List Frame}
    (hf : (m.task t).frames = f :: below) (h : f.IsAccepted m.router s e) :
    m.Accepts t s e (.advance t) := by
  obtain ⟨r, rfl, ok⟩ := h
  refine ⟨rfl, ⟨s, m.router.exchange e⟩, ?_, rfl⟩
  simp only [accepted?, deed_advance hf, ok, true_and]
  rfl

theorem not_accepts_of_frames {f : Frame} {below : List Frame}
    (hf : (m.task t).frames = f :: below) (h : ¬f.IsAccepted m.router s e) :
    ¬m.Accepts t s e mv := by
  rintro ⟨rfl, a, ha, rfl⟩
  unfold accepted? at ha
  split at ha
  · rename_i c s' e' hd
    simp only [Option.ite_none_right_eq_some, Option.some.injEq] at ha
    obtain ⟨⟨rfl, hok⟩, rfl⟩ := ha
    rw [deed_advance hf] at hd
    cases hd
    rcases hr : m.router.accept e' s' with ⟨_ | _, r⟩
    · rw [hr] at hok
      cases hok
    · exact h ⟨r, rfl, hr⟩
  · cases ha

theorem Attempts.move (h : m.Attempts t g s e rest) (hm : m.move? mv = some m')
    (under : rest.length < (m.task t).frames.length) :
    m.Accepts t s e mv ∨ m'.Attempts t g s e rest := by
  obtain ⟨above, hf, attempt⟩ := h
  cases above with
  | nil => exact absurd under (by rw [hf]; exact Nat.lt_irrefl _)
  | cons f below =>
    have call : ∀ c, f ≠ .call c := fun c hc => (hc ▸ attempt : Frame.Attempt ..).ne_call
    rcases work_of_move hm hf call with ⟨hsame, -⟩ | ⟨rfl, o, b, frames, reply, -⟩
    · exact .inr ⟨f :: below, hsame ▸ hf, hsame ▸ attempt⟩
    · rcases b.attempt attempt with accepted | attempt
      · exact .inl (accepts_of_isAccepted hf accepted)
      · exact .inr ⟨_, frames.trans (List.append_assoc ..).symm, reply ▸ attempt⟩

theorem Attempts.path {h : History} (attempts : m.Attempts t g s e rest) (p : Path m h m')
    (under : ∀ q ∈ h, rest.length < (q.1.task t).frames.length) :
    (∃ q ∈ h, q.1.Accepts t s e q.2) ∨ m'.Attempts t g s e rest := by
  induction p with
  | nil => exact .inr attempts
  | cons p hm ih =>
    rcases ih fun q hq => under q (List.mem_cons_of_mem _ hq) with ⟨q, hq, ha⟩ | attempts
    · exact .inl ⟨q, List.mem_cons_of_mem _ hq, ha⟩
    · exact (attempts.move hm (under _ List.mem_cons_self)).imp_left fun ha =>
        ⟨_, List.mem_cons_self, ha⟩

theorem attempts_of_sendOf? {f : Frame} (hf : (m.task t).frames = f :: rest)
    (send : f.sendOf? = some (s, e)) : m.Attempts t f s e rest :=
  ⟨[f], hf, .begins send⟩

/-- A send that has come back without being accepted was refused. -/
theorem Attempts.refused_of_return (attempts : m.Attempts t g s e rest)
    (through : (m.task t).frames.length ≤ rest.length) :
    (m.task t).reply.isRefusal = true := by
  obtain ⟨above, hf, attempt⟩ := attempts
  have habove : above = [] := by
    rw [hf, List.length_append] at through
    exact List.eq_nil_of_length_eq_zero (by omega)
  subst habove
  cases attempt with
  | refused mark refused => exact refused

end Machine

/-- Whoever sends an exchange hears of it when the send is not accepted. -/
def Machine.AnswersSends (m : Machine) (e : ExchangeId) : Prop :=
  ∀ t f rest s, (m.task t).frames = f :: rest → f.sendOf? = some (s, e) →
    ∀ h m', Path m h m' → (∀ q ∈ h, rest.length < (q.1.task t).frames.length) →
      (m'.task t).frames.length ≤ rest.length →
        (∃ q ∈ h, q.1.Accepts t s e q.2) ∨ (m'.task t).reply.isRefusal = true

theorem Machine.answersSends (m : Machine) (e : ExchangeId) : m.AnswersSends e :=
  fun _t _f _rest _s hf hsend _h _m' p under through =>
    ((attempts_of_sendOf? hf hsend).path p under).imp_right fun attempts =>
      attempts.refused_of_return through

end MessageRouter.Engine
