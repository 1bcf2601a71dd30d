import MessageRouter.Proofs.Refusals
import MessageRouter.Proofs.Waiting

/-!
# A sender that waits

A sender that waits is marked, claimed by whoever brings the exchange back, given a token and
released.  As long as nobody else sends the exchange in the same role, marks, claims, tokens and
releases balance, in whatever order the tasks take their steps: `Rendezvous` is kept by every
turn.  So the sender comes back with an answer if and only if it was claimed, and nothing is left
behind: `Run.handover`.
-/

namespace MessageRouter.Engine

namespace Deed

variable (e : ExchangeId) (role : Role) (s : SlotId) (x : Exchange)

/-- A sender is marked as waiting. -/
def marks : Deed → Bool
  | .work _ (.mark _ e' _) => e' == e && x.role == role && !x.status.isTerminal
  | _ => false

/-- The mark of a sender is taken back: its send was refused. -/
def unmarks : Deed → Bool
  | .work c (.marked e' role' _) => e' == e && role' == role && c.reply.isRefusal
  | _ => false

/-- An exchange is delivered to a slot. -/
def hands : Deed → Bool
  | .work _ (.hand s' e') => e' == e && s' == s
  | _ => false

/-- An exchange is delivered to a slot, and the other party waits for it. -/
def releases : Deed → Bool
  | .work _ (.hand s' e') => e' == e && s' == s && x.waiting.get x.role.opposite
  | _ => false

/-- An exchange is handed to the owner of a slot. -/
def processes : Deed → Bool
  | .work _ (.process s' e') => e' == e && s' == s
  | _ => false

end Deed

namespace Frame

/-- The frame belongs to a sender that waits. -/
def attends (role : Role) : Frame → Bool
  | .marked _ role' _ | .waiting _ role' _ | .woken _ role' => role' == role
  | _ => false

/-- The sender has taken its token. -/
def isWoken (role : Role) : Frame → Bool
  | .woken _ role' => role' == role
  | _ => false

/-- The owner of a slot is about to get an exchange. -/
def isProcess (s : SlotId) : Frame → Bool
  | .process s' _ => s' == s
  | _ => false

theorem attends_of_isWoken {role : Role} {f : Frame} (h : f.isWoken role = true) :
    f.attends role = true := by
  cases f <;> first | exact h | cases h

end Frame

section

variable {c : Context} {tame : Bool} {e : ExchangeId} {role : Role} {s : SlotId} {d : Deed}
  {f : Frame} {x x' : Exchange} {fs : List Frame} {n : Nat} {N D D' : Multiset Frame}
  {deeds : List (Exchange × Deed)}

theorem countP_cons_toNat {α : Type} (p : α → Bool) (a : α) (l : List α) :
    (a :: l).countP p = l.countP p + (p a).toNat := by
  rw [List.countP_cons]
  cases p a <;> rfl

/-! ## Deliveries -/

/-- Every delivery to a slot has found the other party waiting, or the owner of the slot has got
the exchange or is about to get it; `n` owners were about to get it before. -/
def Balanced (e : ExchangeId) (s : SlotId) (n : Nat) (deeds : List (Exchange × Deed))
    (D : Multiset Frame) : Prop :=
  n + (deeds.countP fun p => p.2.hands e s) =
    (deeds.countP fun p => p.2.releases e s p.1) + (deeds.countP fun p => p.2.processes e s) +
      count (Frame.isProcess s) D

/-- A delivery releases the other party or puts down the owner of the slot, and never both. -/
theorem Work.hands (w : Work c x e f x' fs) (s : SlotId) (N : Multiset Frame) :
    count (Frame.isProcess s) (f ::ₘ N) + ((Deed.work c f).hands e s).toNat =
      ((Deed.work c f).releases e s x).toNat + ((Deed.work c f).processes e s).toNat +
        count (Frame.isProcess s) (fs + N) := by
  cases w with
  | ends subject mayEnd =>
    cases f with
    | send | sendSync | mark | dispatch | accept | enter | handle | routed =>
      all_goals simp [Frame.isProcess, Deed.hands, Deed.releases, Deed.processes]
    | _ => cases mayEnd
  | loses err hop =>
    cases f with
    | route | offer | offered | routeTo | reaching =>
      all_goals simp [Frame.isProcess, Deed.hands, Deed.releases, Deed.processes]
    | _ => cases hop
  | pins target rest denied carrier | reaches carrier =>
    all_goals
      obtain rfl | ⟨name, rfl⟩ := Frame.eq_of_isCarrier carrier <;>
        simp [Frame.isProcess, Deed.hands, Deed.releases, Deed.processes]
  | answers s' e waits =>
    simp [Frame.isProcess, Deed.hands, Deed.releases, Deed.processes, waits, Nat.add_comm]
  | turnsOver s' e busy =>
    simp [Frame.isProcess, Deed.hands, Deed.releases, Deed.processes, busy, Nat.add_comm]
  | process s' e =>
    simp [Frame.isProcess, Deed.hands, Deed.releases, Deed.processes, Nat.add_comm]
  | _ => simp [Frame.isProcess, Deed.hands, Deed.releases, Deed.processes]

/-- A turn keeps the balance of the deliveries. -/
theorem Turn.balanced (t : Turn tame e d x D x' D') (h : Balanced e s n deeds D) :
    Balanced e s n ((x, d) :: deeds) D' := by
  unfold Balanced at *
  simp only [countP_cons_toNat]
  have same (count_eq : count (Frame.isProcess s) D' = count (Frame.isProcess s) D)
      (hands : d.hands e s = false) (releases : d.releases e s x = false)
      (processes : d.processes e s = false) :
      n + ((deeds.countP fun p => p.2.hands e s) + (d.hands e s).toNat) =
        (deeds.countP fun p => p.2.releases e s p.1) + (d.releases e s x).toNat +
          ((deeds.countP fun p => p.2.processes e s) + (d.processes e s).toNat) +
            count (Frame.isProcess s) D' := by
    simp only [count_eq, hands, releases, processes, Bool.toNat_false]
    omega
  cases t with
  | idle idle =>
    cases d with
    | work c f => cases f <;> first | exact same rfl rfl rfl rfl | cases idle
    | answer c refused => cases idle
    | other => exact same rfl rfl rfl rfl
  | @elsewhere c f x D other =>
    have hne {e' : ExchangeId} (he : f.subject = some e') : (e' == e) = false :=
      beq_eq_false_iff_ne.2 fun h' => other (he.trans (congrArg some h'))
    refine same rfl ?_ ?_ ?_ <;> cases f <;> first | rfl | simp only [Deed.hands, Deed.releases,
      Deed.processes, hne rfl, Bool.false_and]
  | elsewhereAnswer | create | change => all_goals exact same rfl rfl rfl rfl
  | @work _ _ _ _ _ N w paired =>
    have := w.hands s N
    omega
  | send | sendSync | deliver | delivers | answer | refuse =>
    all_goals exact same (by simp [Frame.isProcess]) rfl rfl rfl

/-! ## Marks and tokens -/

/-- What a step does to a mark, it does by a claim. -/
theorem Work.marked (w : Work c x e f x' fs) (attends : f.attends role = false)
    (marks : (Deed.work c f).marks e role x = false) :
    (x'.waiting.get role).toNat + ((Deed.work c f).claims e role x).toNat =
      (x.waiting.get role).toNat := by
  cases w with
  | ends subject mayEnd =>
    cases f with
    | send | sendSync | mark | dispatch | accept | enter | handle | routed =>
      all_goals simp [Deed.claims]
    | _ => cases mayEnd
  | loses err hop =>
    cases f with
    | route | offer | offered | routeTo | reaching => all_goals simp [Deed.claims]
    | _ => cases hop
  | mark s e timeout active =>
    have hne : x.role ≠ role := by simpa [Deed.marks, active] using marks
    simp [Deed.claims, Exchange.setWaiting, PerRole.get_set, hne]
  | unmark | giveUp =>
    all_goals simp_all [Frame.attends, Deed.claims, Exchange.setWaiting, PerRole.get_set]
  | @strandWaiter h err later waits | @strand h err later free =>
    all_goals
      by_cases hr : h.role = role
      · simp_all [Deed.claims, Exchange.stranded]
      · simp [Deed.claims, Exchange.stranded, PerRole.get_set, hr]
  | answers s e waits =>
    by_cases hr : x.role.opposite = role
    · simp [Deed.claims, Exchange.answered, Exchange.setWaiting, hr, hr ▸ waits]
    · simp [Deed.claims, Exchange.answered, Exchange.setWaiting, PerRole.get_set, hr]
  | turnsOver s e busy =>
    by_cases hr : x.role.opposite = role
    · simp [Deed.claims, hr, hr ▸ busy]
    · simp [Deed.claims, hr]
  | sendBack first => simp [Deed.claims, Exchange.returned, Exchange.fail, first]
  | takeToken | wake | accept | process | fails => all_goals rfl
  | _ => simp [Deed.claims]

/-- A token is given by a wake. -/
theorem Work.token (w : Work c x e f x' fs) (attends : f.attends role = false) :
    x'.token.get role = (x.token.get role || (Deed.work c f).wakes e role) := by
  cases w with
  | ends subject mayEnd =>
    cases f with
    | send | sendSync | mark | dispatch | accept | enter | handle | routed =>
      all_goals simp [Deed.wakes]
    | _ => cases mayEnd
  | loses err hop =>
    cases f with
    | route | offer | offered | routeTo | reaching => all_goals simp [Deed.wakes]
    | _ => cases hop
  | @takeToken e role' deadline token =>
    have hne : role' ≠ role := by simpa [Frame.attends] using attends
    simp [Deed.wakes, Exchange.setToken, PerRole.get_set, hne]
  | wake e role' =>
    by_cases hr : role' = role
    · simp [Deed.wakes, Exchange.setToken, hr]
    · simp [Deed.wakes, Exchange.setToken, PerRole.get_set, hr]
  | strandWaiter later | strand later => all_goals simp [Deed.wakes]
  | _ => simp [Deed.wakes, Exchange.setWaiting, Exchange.sentBy, Exchange.returned, Exchange.fail,
      Exchange.answered, Exchange.turned]

/-- Only a mark brings a sender that waits. -/
theorem Work.attends (w : Work c x e f x' fs) (attends : f.attends role = false)
    (marks : (Deed.work c f).marks e role x = false) : ∀ g ∈ fs, g.attends role = false := by
  cases w with
  | mark s e timeout active =>
    have hne : x.role ≠ role := by simpa [Deed.marks, active] using marks
    simp [Frame.attends, hne]
  | pins target rest denied carrier | reaches carrier =>
    all_goals
      obtain rfl | ⟨name, rfl⟩ := Frame.eq_of_isCarrier carrier <;> simp [Frame.attends]
  | wait | takeToken | waitOn => all_goals simpa [Frame.attends] using attends
  | _ => simp [Frame.attends]

/-- The senders that wait in a role, `n` in number, are each marked until they are claimed; whoever
claims one is about to wake it, and who wakes it gives it a token, which it takes. -/
structure Rendezvous (e : ExchangeId) (role : Role) (n : Nat) (deeds : List (Exchange × Deed))
    (x : Exchange) (D : Multiset Frame) : Prop where
  attends : count (Frame.attends role) D = n
  marked : (x.waiting.get role).toNat + (deeds.countP fun p => p.2.claims e role p.1) = n
  claimed : (deeds.countP fun p => p.2.claims e role p.1) =
    (deeds.countP fun p => p.2.wakes e role) + count (Frame.isWake role) D
  woken : (deeds.countP fun p => p.2.wakes e role) =
    (x.token.get role).toNat + count (Frame.isWoken role) D

namespace Rendezvous

/-- A deed that has nothing to do with senders that wait. -/
theorem congr (h : Rendezvous e role n deeds x D) (waiting : x'.waiting = x.waiting)
    (token : x'.token = x.token)
    (same : ∀ p : Frame → Bool, p = Frame.attends role ∨ p = Frame.isWake role ∨
      p = Frame.isWoken role → count p D' = count p D)
    (claims : d.claims e role x = false) (wakes : d.wakes e role = false) :
    Rendezvous e role n ((x, d) :: deeds) x' D' := by
  obtain ⟨attends, marked, claimed, woken⟩ := h
  constructor
  case attends => rw [same _ (.inl rfl), attends]
  case marked =>
    rw [countP_cons_toNat, waiting]
    simpa [claims] using marked
  case claimed =>
    rw [countP_cons_toNat, countP_cons_toNat, same _ (.inr (.inl rfl))]
    simpa [claims, wakes] using claimed
  case woken =>
    rw [countP_cons_toNat, same _ (.inr (.inr rfl)), token]
    simpa [wakes] using woken

end Rendezvous

theorem Work.rendezvous (w : Work c x e f x' fs) (attends : f.attends role = false)
    (marks : (Deed.work c f).marks e role x = false) (one : n ≤ 1)
    (h : Rendezvous e role n deeds x (f ::ₘ N)) :
    Rendezvous e role n ((x, .work c f) :: deeds) x' (fs + N) := by
  have hfs := w.attends attends marks
  have woken {g : Frame} (hg : g.attends role = false) : g.isWoken role = false := by
    refine eq_false_of_ne_true fun hw => ?_
    rw [Frame.attends_of_isWoken hw] at hg
    cases hg
  have hmarked := w.marked attends marks
  have hclaimed := w.claimed role N
  have htoken := w.token attends
  -- A wake finds no token: nobody else has been claimed.
  have empty (hk : (Deed.work c f).wakes e role = true) : x.token.get role = false := by
    have hpos : 0 < count (Frame.isWake role) (f ::ₘ N) := by
      refine count_pos.2 ⟨f, Multiset.mem_cons_self .., ?_⟩
      cases f <;> first | cases hk | skip
      exact (Bool.and_eq_true_iff.1 hk).2
    refine eq_false_of_ne_true fun ht => ?_
    have := h.marked
    have := h.claimed
    have := h.woken
    rw [ht, Bool.toNat_true] at this
    omega
  obtain ⟨hattends, hmark, hclaim, hwoken⟩ := h
  constructor
  case attends =>
    rw [count_quiet hfs]
    rwa [count_cons, attends, Bool.toNat_false, Nat.add_zero] at hattends
  case marked =>
    rw [countP_cons_toNat]
    dsimp only
    omega
  case claimed =>
    rw [countP_cons_toNat, countP_cons_toNat]
    dsimp only
    omega
  case woken =>
    rw [countP_cons_toNat, count_quiet fun g hg => woken (hfs g hg), hwoken, htoken, count_cons,
      woken attends, Bool.toNat_false, Nat.add_zero]
    dsimp only
    cases hk : (Deed.work c f).wakes e role with
    | false => simp
    | true =>
      rw [empty hk]
      simp [Nat.add_comm]

/-- A sender that waits goes on waiting, takes its token, or comes back. -/
theorem Work.rendezvous_of_attends (w : Work c x e f x' fs) (attends : f.attends role = true)
    (h : Rendezvous e role n deeds x (f ::ₘ N)) :
    Rendezvous e role n ((x, .work c f) :: deeds) x' (fs + N) ∨ fs = [] := by
  cases w with
  | unmark | giveUp | woken => all_goals exact .inr rfl
  | wait | waitOn =>
    all_goals
      refine .inl (h.congr rfl rfl ?_ rfl rfl)
      rintro p (rfl | rfl | rfl) <;> simp [Frame.attends, Frame.isWake, Frame.isWoken]
  | @takeToken e role' deadline token =>
    obtain rfl : role' = role := by simpa [Frame.attends] using attends
    obtain ⟨attends, marked, claimed, woken⟩ := h
    refine .inl ⟨?_, ?_, ?_, ?_⟩
    · simpa [Frame.attends] using attends
    · rw [countP_cons_toNat]
      exact marked
    · rw [countP_cons_toNat, countP_cons_toNat]
      simpa [Frame.isWake, Deed.claims, Deed.wakes] using claimed
    · rw [countP_cons_toNat]
      simp [Frame.isWoken, Deed.wakes, token, Exchange.setToken] at woken ⊢
      omega
  | ends subject mayEnd => cases f <;> first | cases attends | cases mayEnd
  | loses err hop => cases f <;> first | cases attends | cases hop
  | _ => cases attends

/-- A turn keeps the balance of the senders that wait, or one of them comes back. -/
theorem Turn.rendezvous (t : Turn tame e d x D x' D') (marks : d.marks e role x = false)
    (one : n ≤ 1) (h : Rendezvous e role n deeds x D) :
    Rendezvous e role n ((x, d) :: deeds) x' D' ∨
      ∃ c f, d = .work c f ∧ f.attends role = true ∧ D = f ::ₘ D' ∧ Work c x e f x' [] := by
  cases t with
  | idle idle =>
    have : d.claims e role x = false ∧ d.wakes e role = false := by
      cases d with
      | work c f => cases f <;> first | exact ⟨rfl, rfl⟩ | cases idle
      | answer c refused => cases idle
      | other => exact ⟨rfl, rfl⟩
    exact .inl (h.congr rfl rfl (fun _ _ => rfl) this.1 this.2)
  | elsewhere other =>
    obtain ⟨-, hc, -, hk⟩ := Deed.eq_false_of_subject other
    exact .inl (h.congr rfl rfl (fun _ _ => rfl) hc hk)
  | elsewhereAnswer other => exact .inl (h.congr rfl rfl (fun _ _ => rfl) rfl rfl)
  | @work c f x x' fs N w paired =>
    cases attends : f.attends role with
    | false => exact .inl (w.rendezvous attends marks one h)
    | true =>
      refine (w.rendezvous_of_attends attends h).imp_right fun none => ?_
      subst none
      exact ⟨c, f, rfl, attends, by rw [Multiset.coe_nil, zero_add], w⟩
  | create p => exact .inl (h.congr rfl rfl (fun _ _ => rfl) rfl rfl)
  | change c changed =>
    have same := (Exchange.change_ok changed).1
    exact .inl (h.congr same.waiting same.token (fun _ _ => rfl) rfl rfl)
  | send | sendSync | deliver | delivers | answer | refuse =>
    all_goals
      refine .inl (h.congr rfl rfl ?_ rfl rfl)
      rintro p (rfl | rfl | rfl) <;> simp [Frame.attends, Frame.isWake, Frame.isWoken]

/-! ## The end of a wait -/

/-- Nobody waits in a role, and nobody who has waited is still owed anything. -/
structure Idle (role : Role) (x : Exchange) (D : Multiset Frame) : Prop where
  nobody : count (Frame.attends role) D = 0
  empty : x.token.get role = false
  unowed : count (Frame.isWake role) D = 0

/-- A sender has come back with an answer: it was claimed and woken once if the answer came in
time, and not at all if it did not, and nothing is left of its wait. -/
structure Returned (e : ExchangeId) (role : Role) (b : Bool) (deeds : List (Exchange × Deed))
    (x : Exchange) (D : Multiset Frame) : Prop where
  claimed : (deeds.countP fun p => p.2.claims e role p.1) = b.toNat
  woken : (deeds.countP fun p => p.2.wakes e role) = b.toNat
  unmarked : x.waiting.get role = false
  idle : Idle role x D

theorem count_isWoken (h : count (Frame.attends role) D = 0) :
    count (Frame.isWoken role) D = 0 :=
  Multiset.countP_eq_zero.2 fun f hf hw =>
    Multiset.countP_eq_zero.1 h f hf (Frame.attends_of_isWoken hw)

/-- The mark of a sender begins a wait, if it leaves somebody who waits. -/
theorem Work.rendezvous_of_mark {timeout : Option Nat} (w : Work c x e (.mark s e timeout) x' fs)
    (h : Idle x.role x (.mark s e timeout ::ₘ N))
    (waits : 0 < count (Frame.attends x.role) (fs + N)) :
    Rendezvous e x.role 1 [] x' (fs + N) := by
  obtain ⟨nobody, empty, unowed⟩ := h
  simp only [count_cons, Frame.attends, Frame.isWake, Bool.toNat_false, Nat.add_zero]
    at nobody unowed
  cases w with
  | ends subject mayEnd =>
    rw [count_nil_add, nobody] at waits
    cases waits
  | mark s e timeout active =>
    constructor <;>
      simp [Frame.attends, Frame.isWake, Frame.isWoken, Exchange.setWaiting, nobody, unowed, empty,
        count_isWoken nobody]
  | loses err hop => cases hop

theorem attends_cons (h : count (Frame.attends role) (f ::ₘ N) = 1)
    (attends : f.attends role = true) : count (Frame.attends role) N = 0 := by
  rw [count_cons, attends, Bool.toNat_true] at h
  omega

/-- A sender that gives up while it is marked has not been claimed. -/
theorem Rendezvous.givenUp (h : Rendezvous e role 1 deeds x (f ::ₘ N))
    (attends : f.attends role = true) (waits : x.waiting.get role = true)
    (claims : d.claims e role x = false) (wakes : d.wakes e role = false) :
    Returned e role false ((x, d) :: deeds) (x.setWaiting role false) N := by
  obtain ⟨one, marked, claimed, woken⟩ := h
  rw [waits, Bool.toNat_true] at marked
  rw [count_cons] at claimed
  refine ⟨?_, ?_, ?_, attends_cons one attends, ?_, ?_⟩
  · rw [countP_cons_toNat]
    simp only [claims, Bool.toNat_false]
    omega
  · rw [countP_cons_toNat]
    simp only [wakes, Bool.toNat_false]
    omega
  · exact PerRole.get_set_self ..
  · refine eq_false_of_ne_true fun ht => ?_
    have ht : x.token.get role = true := ht
    rw [ht, Bool.toNat_true] at woken
    omega
  · omega

/-- A sender that has taken its token was claimed and woken. -/
theorem Rendezvous.answered (h : Rendezvous e role 1 deeds x (.woken e role ::ₘ N))
    (waiting : x'.waiting = x.waiting) (token : x'.token = x.token)
    (claims : d.claims e role x = false) (wakes : d.wakes e role = false) :
    Returned e role true ((x, d) :: deeds) x' N := by
  obtain ⟨one, marked, claimed, woken⟩ := h
  have hw : Frame.isWoken role (.woken e role) = true := beq_self_eq_true role
  rw [count_cons] at claimed
  rw [count_cons, hw, Bool.toNat_true] at woken
  refine ⟨?_, ?_, ?_, attends_cons one (Frame.attends_of_isWoken hw), ?_, ?_⟩
  · rw [countP_cons_toNat]
    simp only [claims, Bool.toNat_false, Bool.toNat_true]
    omega
  · rw [countP_cons_toNat]
    simp only [wakes, Bool.toNat_false, Bool.toNat_true]
    omega
  · rw [waiting]
    refine eq_false_of_ne_true fun ht => ?_
    rw [ht, Bool.toNat_true] at marked
    omega
  · rw [token]
    refine eq_false_of_ne_true fun ht => ?_
    rw [ht, Bool.toNat_true] at woken
    omega
  · omega

theorem Returned.rendezvous {b : Bool} (h : Returned e role b deeds x D) :
    Rendezvous e role 0 [] x D where
  attends := h.idle.nobody
  marked := by simp [h.unmarked]
  claimed := by simp [h.idle.unowed]
  woken := by simp [h.idle.empty, count_isWoken h.idle.nobody]

theorem Rendezvous.idle (h : Rendezvous e role 0 deeds x D) : Idle role x D := by
  obtain ⟨nobody, marked, claimed, woken⟩ := h
  refine ⟨nobody, eq_false_of_ne_true fun ht => ?_, by omega⟩
  rw [ht, Bool.toNat_true] at woken
  omega

/-- A sender whose send is not refused comes back with an answer. -/
theorem Work.returned (w : Work c x e f x' []) (attends : f.attends role = true)
    (unmarks : (Deed.work c f).unmarks e role = false)
    (h : Rendezvous e role 1 deeds x (f ::ₘ N)) :
    ∃ b, Returned e role b ((x, .work c f) :: deeds) x' N := by
  cases w with
  | unmark e role' timeout refused =>
    obtain rfl : role' = role := by simpa [Frame.attends] using attends
    simp [Deed.unmarks, refused] at unmarks
  | @giveUp e role' deadline waits =>
    obtain rfl : role' = role := by simpa [Frame.attends] using attends
    exact ⟨false, h.givenUp attends waits rfl rfl⟩
  | woken e role' =>
    obtain rfl : role' = role := by simpa [Frame.attends] using attends
    exact ⟨true, h.answered rfl rfl rfl rfl⟩
  | ends subject mayEnd => cases f <;> first | cases attends | cases mayEnd
  | _ => cases attends

/-- Whoever sends an exchange in a role when nobody waits in it, and is not refused, leaves nothing
to the next one. -/
theorem Turn.sole (t : Turn tame e d x D x' D')
    (marks : d.marks e role x = true → count (Frame.attends role) D = 0)
    (unmarks : d.unmarks e role = false) (h : ∃ n ≤ 1, ∃ deeds, Rendezvous e role n deeds x D) :
    ∃ n ≤ 1, ∃ deeds, Rendezvous e role n deeds x' D' := by
  obtain ⟨n, one, deeds, balance⟩ := h
  by_cases hm : d.marks e role x = true
  · obtain rfl : 0 = n := (marks hm).symm.trans balance.attends
    cases d with
    | work c f =>
      cases f with
      | mark s e' timeout =>
        simp only [Deed.marks, Bool.and_eq_true, beq_iff_eq, Bool.not_eq_true'] at hm
        obtain ⟨⟨rfl, rfl⟩, active⟩ := hm
        cases t with
        | idle nothing => cases nothing
        | elsewhere other => exact absurd rfl other
        | @work _ _ _ _ fs N w paired =>
          by_cases waits : 0 < count (Frame.attends x.role) (fs + N)
          · exact ⟨1, Nat.le_refl 1, [], w.rendezvous_of_mark balance.idle waits⟩
          · cases w with
            | ends =>
              refine ⟨0, Nat.zero_le 1, _, balance.congr (d := .other) rfl rfl ?_ rfl rfl⟩
              rintro p (rfl | rfl | rfl) <;> simp [Frame.attends, Frame.isWake, Frame.isWoken]
            | mark => simp [Frame.attends] at waits
            | loses err hop => cases hop
      | _ => cases hm
    | _ => cases hm
  · rcases t.rendezvous (eq_false_of_ne_true hm) one balance with
      balance' | ⟨c, f, rfl, attends, rfl, w⟩
    · exact ⟨n, one, _, balance'⟩
    · have := balance.attends
      rw [count_cons, attends, Bool.toNat_true] at this
      obtain rfl : n = 1 := by omega
      obtain ⟨b, returned⟩ := w.returned attends unmarks balance
      exact ⟨0, Nat.zero_le 1, _, returned.rendezvous⟩

/-- A sender that comes back was refused, or it was claimed and woken if it has its answer. -/
theorem Turn.returned {r : Router} {o : Outcome}
    (t : Turn tame e (.work c f) (r.exchange e) D x' D') (b : Frame.Becomes c r f o)
    (attends : f.attends role = true) (about : f.subject = some e) (through : o.above = [])
    (h : Rendezvous e role 1 deeds (r.exchange e) D) :
    o.reply.isRefusal = true ∨ ∃ answer, o.reply = .answer answer ∧
      Returned e role answer ((r.exchange e, .work c f) :: deeds) x' D' := by
  cases t with
  | idle idle => cases f <;> first | cases attends | cases idle
  | elsewhere other => exact absurd about other
  | @work _ _ _ _ fs N w paired =>
    cases b with
    | unmark => exact .inl rfl
    | @giveUp e' role' deadline waits empty =>
      obtain rfl : e' = e := Option.some.inj about
      obtain rfl : role' = role := by simpa [Frame.attends] using attends
      refine .inr ⟨false, rfl, ?_⟩
      cases w with
      | giveUp =>
        rw [Multiset.coe_nil, zero_add]
        exact h.givenUp attends waits rfl rfl
      | takeToken _ _ token => exact absurd (empty.symm.trans token) Bool.false_ne_true
      | waitOn _ _ claimed => exact absurd (claimed.symm.trans waits) Bool.false_ne_true
      | ends _ mayEnd => cases mayEnd
      | loses _ hop => cases hop
    | woken e' role' =>
      obtain rfl : e' = e := Option.some.inj about
      obtain rfl : role' = role := by simpa [Frame.attends] using attends
      refine .inr ⟨true, rfl, ?_⟩
      cases w with
      | woken =>
        rw [Multiset.coe_nil, zero_add]
        exact h.answered rfl rfl rfl rfl
      | ends _ mayEnd => cases mayEnd
      | loses _ hop => cases hop
    | wait | takeToken | waitOn => all_goals cases through
    | _ => cases attends

end

/-! ## Blocked tasks -/

namespace Frame

variable {c : Context} {r : Router} {f : Frame} {o : Outcome} {e : ExchangeId} {role : Role}

/-- A frame of a sender that waits gives way to the next one, until the sender comes back. -/
theorem Becomes.attends (b : Becomes c r f o) (attends : f.attends role = true)
    (about : f.subject = some e) :
    o.above = [] ∨ ∃ g, o.above = [g] ∧ g.attends role = true ∧ g.subject = some e := by
  cases b with
  | unmark | giveUp | woken => all_goals exact .inl rfl
  | wait | takeToken | waitOn => all_goals exact .inr ⟨_, rfl, attends, about⟩
  | _ => cases attends

end Frame

namespace Machine

variable {m m' m₁ : Machine} {mv : Move} {e : ExchangeId} {role : Role} {s : SlotId} {t : Nat}
  {g : Frame} {rest : List Frame} {h : History}

/-- A task waits in a send of an exchange. -/
def Blocked (m : Machine) (t : Nat) (e : ExchangeId) (role : Role) (rest : List Frame) : Prop :=
  ∃ above f, (m.task t).frames = above ++ f :: rest ∧ f.attends role = true ∧ f.subject = some e

/-- A task that waits has something to do for its exchange. -/
theorem Blocked.attends (h : m.Blocked t e role rest) :
    0 < count (Frame.attends role) (m.dutiesFor e) := by
  obtain ⟨above, f, hf, attends, about⟩ := h
  have hmem : f ∈ m.duties := by
    refine mem_duties (t := t) (by simp [hf]) fun h he => ?_
    rw [he] at attends
    cases attends
  exact count_pos.2 ⟨f, Multiset.mem_filter.2 ⟨hmem, by simp [Frame.isAbout, about]⟩, attends⟩

/-- A task that waits goes on waiting, or its sender comes back. -/
theorem Blocked.move (h : m.Blocked t e role rest) (hm : m.move? mv = some m') :
    m'.Blocked t e role rest ∨ mv = .advance t ∧
      ∃ f o, (m.task t).frames = f :: rest ∧ f.attends role = true ∧ f.subject = some e ∧
        Frame.Becomes ⟨m.routerAlive, m.now, (m.task t).reply⟩ m.router f o ∧ o.above = [] ∧
          (m'.task t).frames = rest ∧ (m'.task t).reply = o.reply := by
  obtain ⟨above, f, hf, attends, about⟩ := h
  cases above with
  | cons a above =>
    obtain ⟨above', hf'⟩ := frames_of_move hm hf
    exact .inl ⟨above' ++ above, f, hf'.trans (List.append_assoc ..).symm, attends, about⟩
  | nil =>
    rcases work_of_move hm hf (fun c hc => by rw [hc] at attends; cases attends) with
      ⟨hsame, -⟩ | ⟨rfl, o, b, hf', hr, -⟩
    · exact .inl ⟨[], f, hsame ▸ hf, attends, about⟩
    · rcases b.attends attends about with none | ⟨g, some, attends', about'⟩
      · exact .inr ⟨rfl, f, o, hf, attends, about, b, none, by rw [hf', none]; rfl, hr⟩
      · exact .inl ⟨[], g, by rw [hf', some]; rfl, attends', about'⟩

/-- What is known of a task that waits in a send, or that has come back from it. -/
inductive Meets (m : Machine) (h : History) (t : Nat) (e : ExchangeId) (role : Role)
    (rest : List Frame) : Prop
  | waits (blocked : m.Blocked t e role rest)
    (balance : Rendezvous e role 1 (deedsOf e h) (m.router.exchange e) (m.dutiesFor e))
  | refused (frames : (m.task t).frames = rest) (refused : (m.task t).reply.isRefusal = true)
  | returned (b : Bool) (frames : (m.task t).frames = rest) (answer : (m.task t).reply = .answer b)
    (returned : Returned e role b (deedsOf e h) (m.router.exchange e) (m.dutiesFor e))

theorem Meets.move (meets : m.Meets h t e role rest) (stacked : m.Stacked)
    (hm : m.move? mv = some m') (under : rest.length < (m.task t).frames.length)
    (sole : (m.deed mv).marks e role (m.router.exchange e) = false) :
    m'.Meets ((m, mv) :: h) t e role rest := by
  cases meets with
  | refused frames | returned b frames =>
    all_goals exact absurd under (by rw [frames]; exact Nat.lt_irrefl _)
  | waits blocked balance =>
    have turn := turn_of_move stacked (fun h : false = true => by cases h) hm e
    rcases blocked.move hm with blocked' | ⟨rfl, f, o, hf, attends, about, b, through, hf', hr⟩
    · refine .waits blocked' ((turn.rendezvous sole (Nat.le_refl 1) balance).resolve_right ?_)
      rintro ⟨c, f, -, attends, hD, -⟩
      have := balance.attends
      rw [hD] at this
      exact absurd blocked'.attends (by rw [attends_cons this attends]; exact Nat.lt_irrefl 0)
    · rw [deed_advance hf] at turn
      rcases turn.returned b attends about through balance with refused | ⟨b, answer, returned⟩
      · exact .refused hf' (hr ▸ refused)
      · refine .returned b hf' (hr.trans answer) ?_
        rwa [deedsOf, List.map_cons, deed_advance hf]

/-- A send that waits and is accepted is passed on. -/
theorem Attempts.passes (attempts : m.Attempts t g s e rest) (hm : m.move? mv = some m')
    (under : rest.length < (m.task t).frames.length) (accepts : m.Accepts t s e mv) :
    m'.Passes t g e rest := by
  obtain ⟨above, hf, attempt⟩ := attempts
  obtain _ | ⟨f, below⟩ := above
  · exact absurd under (by rw [hf]; exact Nat.lt_irrefl _)
  have accepted : f.IsAccepted m.router s e := by
    by_contra hn
    exact not_accepts_of_frames hf hn accepts
  obtain ⟨r, rfl, ok⟩ := accepted
  rcases work_of_move hm hf (fun c hc => by cases hc) with ⟨-, other⟩ | ⟨-, o, b, hf', -, -⟩
  · exact absurd accepts.1 other
  · cases b with
    | accept => exact ⟨_, hf'.trans (List.append_assoc ..).symm, .passes [_] rfl attempt.marks⟩
    | notAccepted err refused => cases ok.symm.trans refused

end Machine

namespace Path

variable {m m' : Machine} {e : ExchangeId} {role : Role} {s : SlotId} {t : Nat}
  {g : Frame} {rest : List Frame} {h : History}

theorem passes (p : Path m h m') (attempts : m.Attempts t g s e rest)
    (under : ∀ q ∈ h, rest.length < (q.1.task t).frames.length)
    (accepted : ∃ q ∈ h, q.1.Accepts t s e q.2) : m'.Passes t g e rest := by
  induction p with
  | nil =>
    obtain ⟨q, hq, -⟩ := accepted
    cases hq
  | @cons h _ _ _ p hm ih =>
    obtain ⟨under₁, under⟩ := List.forall_mem_cons.1 under
    obtain ⟨q, hq, accepts⟩ := accepted
    by_cases before : ∃ q ∈ h, q.1.Accepts t s e q.2
    · exact (ih under before).move hm under₁
    · have attempts := (attempts.path p under).resolve_left before
      rcases List.mem_cons.1 hq with rfl | hq
      · exact attempts.passes hm under₁ accepts
      · exact absurd ⟨q, hq, accepts⟩ before

theorem meets (p : Path m h m') (meets : m.Meets [] t e role rest) (stacked : m.Stacked)
    (under : ∀ q ∈ h, rest.length < (q.1.task t).frames.length)
    (sole : ∀ q ∈ h, (q.1.deed q.2).marks e role (q.1.router.exchange e) = false) :
    m'.Meets h t e role rest := by
  induction p with
  | nil => exact meets
  | cons p hm ih =>
    obtain ⟨under₁, under⟩ := List.forall_mem_cons.1 under
    obtain ⟨sole₁, sole⟩ := List.forall_mem_cons.1 sole
    have stacked := p.induct stacked fun _ _ _ hs hm => hs.move hm
    exact (ih under sole).move stacked hm under₁ sole₁

end Path

namespace Machine

variable {m m' : Machine} {e : ExchangeId} {role : Role} {s : SlotId} {t : Nat}
  {rest : List Frame} {timeout : Option Nat}

/-- A task that is about to mark its sender meets nobody, if nobody waits. -/
theorem meets_of_mark (stacked : m.Stacked) (frames : (m.task t).frames = .mark s e timeout :: rest)
    (turn : (m.router.exchange e).role = role)
    (idle : Idle role (m.router.exchange e) (m.dutiesFor e))
    (hm : m.move? (.advance t) = some m') : m'.Meets [] t e role rest := by
  have life := turn_of_move stacked (fun h : false = true => by cases h) hm e
  rw [deed_advance frames] at life
  subst turn
  rcases work_of_move hm frames (fun c hc => by cases hc) with ⟨-, other⟩ | ⟨-, o, b, hf, hr, -⟩
  · exact absurd rfl other
  cases b with
  | notMarked => exact .refused hf (hr ▸ rfl)
  | mark active =>
    have blocked : m'.Blocked t e (m.router.exchange e).role rest :=
      ⟨[_], _, hf, by simp [Frame.attends], rfl⟩
    refine .waits blocked ?_
    have waits := blocked.attends
    generalize m'.router.exchange e = x', m'.dutiesFor e = D' at life waits ⊢
    generalize hx : m.router.exchange e = x, hD : m.dutiesFor e = D at life idle waits
    cases life with
    | idle nothing => cases nothing
    | elsewhere other => exact absurd rfl other
    | work w => exact w.rendezvous_of_mark idle waits

end Machine

/-- When all sends of an exchange that wait in a role were accepted, one after the other, nothing is
left of them when the next one begins. -/
theorem Run.idle {config : Config} {h : History} {m : Machine} (run : Run config h m)
    {e : ExchangeId} {role : Role}
    (sole : ∀ q ∈ h, (q.1.deed q.2).marks e role (q.1.router.exchange e) = true →
      count (Frame.attends role) (q.1.dutiesFor e) = 0)
    (heard : ∀ q ∈ h, (q.1.deed q.2).unmarks e role = false)
    (nobody : count (Frame.attends role) (m.dutiesFor e) = 0) :
    Idle role (m.router.exchange e) (m.dutiesFor e) := by
  have balance : ∃ n ≤ 1, ∃ deeds,
      Rendezvous e role n deeds (m.router.exchange e) (m.dutiesFor e) := by
    obtain ⟨r, hr, p⟩ := run
    refine p.turns (P := fun h x D =>
      (∀ q ∈ h, (q.1.deed q.2).marks e role (q.1.router.exchange e) = true →
        count (Frame.attends role) (q.1.dutiesFor e) = 0) →
      (∀ q ∈ h, (q.1.deed q.2).unmarks e role = false) →
      ∃ n ≤ 1, ∃ deeds, Rendezvous e role n deeds x D) e
      (Machine.stacked_ofRouter r) (fun h : false = true => by cases h) ?_ ?_ sole heard
    · rw [Machine.dutiesFor_ofRouter, Machine.ofRouter, exchange_start hr]
      refine fun _ _ => ⟨0, Nat.zero_le 1, [], rfl, ?_, rfl, ?_⟩ <;> cases role <;> rfl
    · intro h m m' mv ih hm turn sole heard
      obtain ⟨sole₁, sole⟩ := List.forall_mem_cons.1 sole
      obtain ⟨heard₁, heard⟩ := List.forall_mem_cons.1 heard
      exact turn.sole sole₁ heard₁ (ih sole heard)
  obtain ⟨n, -, deeds, balance⟩ := balance
  obtain rfl : 0 = n := nobody.symm.trans balance.attends
  exact balance.idle

/-- A sender is marked when nobody waits in its role and nothing is left of those that did, which is
so by `Run.idle` if they came one after the other and none was refused.  As long as it waits and is
alone in its role, marks, claims, wakes and tokens balance.
When it comes back after its send was accepted, it has its answer if it was claimed and has waited
in vain if it was not, and nobody is owed anything.  All the while every delivery has released a
party that waits or has been handed to the owner of its slot, or is about to be. -/
theorem Run.handover {config : Config} {h₀ h : History} {m₀ m₁ m : Machine} {t : Nat} {s : SlotId}
    {e : ExchangeId} {timeout : Option Nat} {rest : List Frame} {role : Role}
    (run : Run config h₀ m₀) (frames : (m₀.task t).frames = .mark s e timeout :: rest)
    (turn : (m₀.router.exchange e).role = role)
    (idle : Idle role (m₀.router.exchange e) (m₀.dutiesFor e))
    (start : m₀.move? (.advance t) = some m₁) (p : Path m₁ h m)
    (under : ∀ q ∈ h, rest.length < (q.1.task t).frames.length)
    (sole : ∀ q ∈ h, (q.1.deed q.2).marks e role (q.1.router.exchange e) = false) :
    (∀ s', Balanced e s' (count (Frame.isProcess s') (m₁.dutiesFor e)) (deedsOf e h)
      (m.dutiesFor e)) ∧
    (rest.length < (m.task t).frames.length →
      Rendezvous e role 1 (deedsOf e h) (m.router.exchange e) (m.dutiesFor e)) ∧
    ((m.task t).frames.length ≤ rest.length → (∃ q ∈ h, q.1.Accepts t s e q.2) →
      ∃ b, (m.task t).reply = .answer b ∧
        Returned e role b (deedsOf e h) (m.router.exchange e) (m.dutiesFor e)) := by
  have stacked := run.stacked.move start
  have meets := p.meets (Machine.meets_of_mark run.stacked frames turn idle start) stacked
    under sole
  refine ⟨fun s' => ?_, fun waits => ?_, fun through accepted => ?_⟩
  · exact p.turns (P := fun h _ D => Balanced e s' _ (deedsOf e h) D) e stacked
      (fun h : false = true => by cases h) (by simp [Balanced, deedsOf])
      fun _ _ _ _ balanced _ turn => turn.balanced balanced
  · cases meets with
    | waits blocked balance => exact balance
    | refused frames | returned b frames =>
      all_goals exact absurd waits (by rw [frames]; exact Nat.lt_irrefl _)
  · have attempts : m₀.Attempts t (.sendSync s e timeout) s e rest :=
      ⟨[_], frames, .mark timeout rfl⟩
    have attempts := (attempts.move start (by rw [frames]; exact Nat.lt_succ_self _)).resolve_left
      (Machine.not_accepts_of_frames frames fun ⟨_, h, _⟩ => by cases h)
    obtain ⟨above, hf, passing⟩ := p.passes attempts under accepted
    cases meets with
    | waits blocked balance =>
      obtain ⟨above, f, hf, -⟩ := blocked
      rw [hf, List.length_append, List.length_cons] at through
      omega
    | returned b frames answer returned => exact ⟨b, answer, returned⟩
    | refused frames refused =>
      obtain rfl : above = [] := List.append_left_eq_self.1 (hf.symm.trans frames)
      rcases passing.hears with ⟨-, b, answer⟩ | ⟨sync, -⟩
      · rw [answer] at refused
        cases refused
      · cases sync

/-- The consumer has been asked to wait for the provider, and is about to be marked. -/
def Cue.asked : List Cue :=
  opening .inOnly ++ [request 0 (.sendSync ⟨1⟩ ⟨0⟩ none), advance 0]

/-- The exchange comes to the provider, which ends it while the consumer waits. -/
def Cue.ending : List Cue :=
  [runs 0, runs 1, operate (.change ⟨0⟩ (.status .done)), request 1 (.send ⟨0⟩ ⟨0⟩), runs 1, runs 0]

def Reply.isYes : Reply → Bool
  | .answer b => b
  | _ => false

/-- The task of the consumer is about to mark it. -/
def Machine.isMarking (m : Machine) : Bool :=
  match (m.task 0).frames with
  | [.mark s e none, .call .application] => s == ⟨1⟩ && e == ⟨0⟩
  | _ => false

theorem Machine.frames_of_isMarking {m : Machine} (h : m.isMarking = true) :
    (m.task 0).frames = [.mark ⟨1⟩ ⟨0⟩ none, .call .application] := by
  unfold isMarking at h
  split at h
  · rename_i hf
    simp only [Bool.and_eq_true, beq_iff_eq] at h
    rw [hf, h.1, h.2]
  · cases h

/-- A send of the client is accepted on the task of the consumer. -/
def Machine.acceptsAsked (m : Machine) (mv : Move) : Bool :=
  match mv with
  | .advance 0 => (m.accepted? ⟨0⟩ mv).any fun a => a.sender == ⟨1⟩
  | _ => false

theorem Machine.accepts_of_acceptsAsked {m : Machine} {mv : Move} (h : m.acceptsAsked mv = true) :
    m.Accepts 0 ⟨1⟩ ⟨0⟩ mv := by
  unfold acceptsAsked at h
  split at h
  · obtain ⟨a, ha, hs⟩ := (Option.any_eq_true ..).1 h
    exact ⟨rfl, a, ha, beq_iff_eq.1 hs⟩
  · cases h

theorem Run.handover_ending : ∃ h₀ m₀ m₁ h m, Run {} h₀ m₀ ∧
    (m₀.task 0).frames = [.mark ⟨1⟩ ⟨0⟩ none, .call .application] ∧
    (m₀.router.exchange ⟨0⟩).role = .consumer ∧
    Idle .consumer (m₀.router.exchange ⟨0⟩) (m₀.dutiesFor ⟨0⟩) ∧
    m₀.move? (.advance 0) = some m₁ ∧ Path m₁ h m ∧
    (∀ q ∈ h, 1 < (q.1.task 0).frames.length) ∧
    (∀ q ∈ h, (q.1.deed q.2).marks ⟨0⟩ .consumer (q.1.router.exchange ⟨0⟩) = false) ∧
    (m.task 0).frames.length ≤ 1 ∧ (∃ q ∈ h, q.1.Accepts 0 ⟨1⟩ ⟨0⟩ q.2) ∧
    (m.task 0).reply = .answer true ∧
      Returned ⟨0⟩ .consumer true (deedsOf ⟨0⟩ h) (m.router.exchange ⟨0⟩) (m.dutiesFor ⟨0⟩) := by
  obtain ⟨h₀, m₀, p₀, hq⟩ := Path.exists_of_enact .usual Cue.asked
    (fun p => p.2.isMarking && (p.2.router.exchange ⟨0⟩).role == .consumer &&
      decide (count (Frame.attends .consumer) (p.2.dutiesFor ⟨0⟩) = 0) &&
      !(p.2.router.exchange ⟨0⟩).token.get .consumer &&
      decide (count (Frame.isWake .consumer) (p.2.dutiesFor ⟨0⟩) = 0) &&
      (p.2.move? (.advance 0)).any fun m₁ => (m₁.enact [] Cue.ending).any fun q =>
        q.1.all (fun q => decide (1 < (q.1.task 0).frames.length) &&
          !(q.1.deed q.2).marks ⟨0⟩ .consumer (q.1.router.exchange ⟨0⟩)) &&
        decide ((q.2.task 0).frames.length ≤ 1) && (q.2.task 0).reply.isYes &&
          q.1.any fun q => q.1.acceptsAsked q.2) (by rfl)
  simp only [Bool.and_eq_true, decide_eq_true_eq, beq_iff_eq, Bool.not_eq_true'] at hq
  obtain ⟨⟨⟨⟨⟨marking, turn⟩, nobody⟩, empty⟩, unowed⟩, hq⟩ := hq
  obtain ⟨m₁, start, hq⟩ := (Option.any_eq_true ..).1 hq
  obtain ⟨⟨h, m⟩, hplay, hq⟩ := (Option.any_eq_true ..).1 hq
  simp only [Bool.and_eq_true, List.all_eq_true, List.any_eq_true, decide_eq_true_eq,
    Bool.not_eq_true'] at hq
  obtain ⟨⟨⟨all, through⟩, yes⟩, q, hmem, accepts⟩ := hq
  have frames := Machine.frames_of_isMarking marking
  have idle : Idle .consumer (m₀.router.exchange ⟨0⟩) (m₀.dutiesFor ⟨0⟩) := ⟨nobody, empty, unowed⟩
  have p : Path m₁ h m := Path.nil.enact hplay
  have under := fun q hq => (all q hq).1
  have sole := fun q hq => (all q hq).2
  have accepted : ∃ q ∈ h, q.1.Accepts 0 ⟨1⟩ ⟨0⟩ q.2 :=
    ⟨q, hmem, Machine.accepts_of_acceptsAsked accepts⟩
  obtain ⟨b, answer, returned⟩ :=
    (p₀.run.handover frames turn idle start p under sole).2.2 through accepted
  obtain rfl : b = true := by
    rwa [answer] at yes
  exact ⟨h₀, m₀, m₁, h, m, p₀.run, frames, turn, idle, start, p, under, sole, through, accepted,
    answer, returned⟩

end MessageRouter.Engine
