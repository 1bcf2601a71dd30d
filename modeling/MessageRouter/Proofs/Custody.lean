import MessageRouter.Proofs.SendRules
import MessageRouter.Proofs.Turns

/-!
# Who has an exchange

While an exchange is in transit at most one duty carries it, and nobody carries it otherwise.
All else that is known about the parts of a dispatch rests on this.
-/

namespace MessageRouter.Engine

/-- How many duties are of a kind. -/
def count (p : Frame → Bool) (D : Multiset Frame) : Nat := D.countP fun f => p f

section Count

variable (p : Frame → Bool) (f : Frame) (fs : List Frame) (N : Multiset Frame)

@[simp] theorem count_cons : count p (f ::ₘ N) = count p N + (p f).toNat := by
  unfold count
  rw [Multiset.countP_cons]
  cases p f <;> rfl

@[simp] theorem count_nil_add : count p (([] : List Frame) + N) = count p N := by
  rw [Multiset.coe_nil, zero_add]

@[simp] theorem count_cons_add :
    count p ((f :: fs : List Frame) + N) = count p ((fs : Multiset Frame) + N) + (p f).toNat := by
  rw [← Multiset.cons_coe, Multiset.cons_add, count_cons]

theorem count_pos {p : Frame → Bool} {N : Multiset Frame} :
    0 < count p N ↔ ∃ f ∈ N, p f = true :=
  Multiset.countP_pos

theorem count_eq_zero {p : Frame → Bool} {N : Multiset Frame} :
    count p N = 0 ↔ ∀ f ∈ N, p f = false := by
  simp [count, Multiset.countP_eq_zero]

end Count

namespace Frame

/-- The exchange is on its way, and it is the business of this frame. -/
def carries : Frame → Bool
  | .sent _ | .lost _ _ | .route _ | .offer .. | .offered .. | .routeTo .. | .reaching ..
  | .deliver .. | .hand .. | .process .. => true
  | .call (.carry _ _ _ delivered) => !delivered
  | _ => false

theorem carries_of_hop? {f : Frame} {h : Hop} (hf : f.hop? = some h) : f.carries = true := by
  cases f <;> first | rfl | cases hf

end Frame

/-- At most one duty carries an exchange, and only as long as it is in transit. -/
def InCustody (x : Exchange) (D : Multiset Frame) : Prop :=
  count Frame.carries D ≤ x.inTransit.toNat

namespace InCustody

variable {x : Exchange} {f g : Frame} {D N : Multiset Frame}

/-- Nobody carries an exchange that is at rest. -/
theorem carries_eq_false (custody : InCustody x D) (arrived : x.inTransit = false) (hg : g ∈ D) :
    g.carries = false := by
  rw [InCustody, arrived, Bool.toNat_false, Nat.le_zero] at custody
  exact count_eq_zero.1 custody g hg

theorem inTransit (custody : InCustody x D) (hg : g ∈ D) (carries : g.carries = true) :
    x.inTransit = true := by
  by_contra arrived
  have := custody.carries_eq_false (eq_false_of_ne_true arrived) hg
  exact Bool.false_ne_true (this.symm.trans carries)

/-- Beside a duty that carries the exchange no other does. -/
theorem alone (custody : InCustody x (f ::ₘ N)) (hf : f.carries = true) (hg : g ∈ N) :
    g.carries = false := by
  have hle := Bool.toNat_le x.inTransit
  rw [InCustody, count_cons, hf, Bool.toNat_true] at custody
  exact count_eq_zero.1 (by omega) g hg

end InCustody

section

attribute [local simp] Frame.carries Exchange.setWaiting Exchange.setToken Exchange.sentBy
  Exchange.returned Exchange.fail Exchange.stranded Exchange.answered Exchange.turned

theorem Work.inCustody {c : Context} {x x' : Exchange} {e : ExchangeId} {f : Frame}
    {fs : List Frame} {N : Multiset Frame} (w : Work c x e f x' fs) (h : InCustody x (f ::ₘ N)) :
    InCustody x' (fs + N) := by
  unfold InCustody at *
  have hx := Bool.toNat_le x.inTransit
  cases w
  case loses err hop =>
    have := Frame.carries_of_hop? hop
    simp_all
  case accept allowed =>
    have := (Exchange.checkSend_ok.1 allowed).1.arrived
    simp_all
  case pins target rest denied carrier | reaches carrier =>
    obtain rfl | ⟨name, rfl⟩ := Frame.eq_of_isCarrier carrier <;> simp_all
  all_goals
    simp at h ⊢
    try omega

/-- A flow that keeps its contract does not carry an exchange any more that it has passed on. -/
theorem Turn.inCustody {e : ExchangeId} {d : Deed} {x x' : Exchange} {D D' : Multiset Frame}
    (t : Turn true e d x D x' D') (h : InCustody x D) : InCustody x' D' := by
  cases t with
  | idle | elsewhere | elsewhereAnswer => exact h
  | work w => exact w.inCustody h
  | send | sendSync => simpa [InCustody] using h
  | deliver s wild => cases wild
  | delivers name s N same => simpa [InCustody] using h
  | answer name s delivered N same =>
    simp [InCustody] at h ⊢
    omega
  | refuse name s err N same undelivered =>
    simp [InCustody, undelivered rfl] at h ⊢
    omega
  | create p => exact h
  | change c changed =>
    unfold InCustody
    rw [(Exchange.change_ok changed).1.inTransit]
    exact h

end

end MessageRouter.Engine
