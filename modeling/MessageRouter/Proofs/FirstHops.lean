import MessageRouter.Proofs.Conversation

/-!
# First hops

Until an exchange is sent for the first time it is the consumer's, nobody has been given an
answer, and nothing is pinned.  `Outset` says what remains of this as long as the dispatch of the
first send has the exchange.  Behind it stand two lemmas about single turns: `Work.aside` about
the duties that do not carry the exchange, and `Work.aloft` about those that do.
-/

namespace MessageRouter

namespace Engine

namespace Frame

/-- The exchange is about to be handed to the owner of a slot. -/
def isEnter : Frame → Bool
  | .enter .. => true
  | _ => false

/-- The hop of a dispatch that has not looked yet where the exchange goes. -/
def setsOut? : Frame → Option Hop
  | .sent h | .route h => some h
  | _ => none

theorem aloft?_of_setsOut? {f : Frame} {h : Hop} (hf : f.setsOut? = some h) :
    f.aloft? = some h := by
  cases f <;> first | exact hf | cases hf

theorem carries_of_mayEnd {f : Frame} (hf : f.mayEnd = true) : f.carries = false := by
  cases f <;> first | rfl | cases hf

theorem returns_of_hop? {f : Frame} {h : Hop} (hf : f.hop? = some h) (r : Role) :
    f.returns r = false := by
  cases f <;> first | rfl | cases hf

end Frame

variable {c : Context} {e : ExchangeId} {d : Deed} {f g : Frame} {x x' : Exchange}
  {fs : List Frame} {N D D' : Multiset Frame}

/-- One duty takes the place of another one that carried an exchange as far. -/
inductive Frame.Follows : Frame → Frame → Prop
  | same (f : Frame) : Follows f f
  | delivers (name : String) (h : Hop) (s : SlotId) (e : ExchangeId) :
    Follows (.call (.carry name h s false)) (.deliver s e)
  | refused (name : String) (h : Hop) (s : SlotId) (err : RouterError) :
    Follows (.call (.carry name h s false)) (.lost h err)

namespace Frame.Follows

theorem aloft (a : g.Follows f) {h : Hop} (hf : f.aloft? = some h) : g.aloft? = some h := by
  cases a with
  | same => exact hf
  | delivers => cases hf
  | refused => exact hf

theorem setsOut (a : g.Follows f) {h : Hop} (hf : f.setsOut? = some h) : g.setsOut? = some h := by
  cases a with
  | same => exact hf
  | delivers | refused => all_goals cases hf

end Frame.Follows

/-- What happens to an exchange while it stays as far on its way as it was: other duties come and
go, and answers are only taken. -/
structure Aside (x : Exchange) (D : Multiset Frame) (x' : Exchange) (D' : Multiset Frame) :
    Prop where
  role : x'.role = x.role
  source : x'.source = x.source
  destination : x'.destination = x.destination
  target : x'.target = x.target ∨ x.source = none ∧ x'.target.isSome = true
  sends : x'.sends = x.sends
  inTransit : x'.inTransit = x.inTransit
  duties : ∀ f ∈ D', f.carries = true ∨ f.isEnter = true → ∃ g ∈ D, g.Follows f
  answers : ∀ r, handed r x' D' ≤ handed r x D

namespace Aside

/-- Nothing happens to the exchange itself. -/
theorem of_duties (duties : ∀ f ∈ D', f.carries = true ∨ f.isEnter = true → ∃ g ∈ D, g.Follows f)
    (answers : ∀ r, handed r x D' ≤ handed r x D) : Aside x D x D' :=
  ⟨rfl, rfl, rfl, .inl rfl, rfl, rfl, duties, answers⟩

theorem refl (x : Exchange) (D : Multiset Frame) : Aside x D x D :=
  .of_duties (fun f hf _ => ⟨f, hf, .same f⟩) fun _ => le_rfl

/-- Duties that have nothing to do with the way of the exchange replace one. -/
theorem of_quiet (role : x'.role = x.role) (source : x'.source = x.source)
    (destination : x'.destination = x.destination) (target : x'.target = x.target)
    (sends : x'.sends = x.sends) (inTransit : x'.inTransit = x.inTransit)
    (quiet : ∀ g ∈ fs, g.carries = false ∧ g.isEnter = false)
    (answers : ∀ r, handed r x' (fs + N) ≤ handed r x (f ::ₘ N)) :
    Aside x (f ::ₘ N) x' (fs + N) where
  role := role
  source := source
  destination := destination
  target := .inl target
  sends := sends
  inTransit := inTransit
  answers := answers
  duties g hg kind := by
    rcases Multiset.mem_add.1 hg with hg | hg
    · rw [(quiet g hg).1, (quiet g hg).2] at kind
      rcases kind with hc | he
      · cases hc
      · cases he
    · exact ⟨g, Multiset.mem_cons_of_mem hg, .same g⟩

end Aside

/-- What a duty that does not carry the exchange may do with it: accept a send, let a party that
has waited take it back, or leave it as far on its way as it was. -/
theorem Work.aside (w : Work c x e f x' fs) (hf : f.carries = false) :
    (∃ s, f = .accept s e ∧ x.checkSend s = .ok () ∧ x' = x.sentBy s ∧
        fs = [.sent ⟨s, e, x.source.isNone, x.status.isTerminal, x.role⟩]) ∨
      (∃ role, f = .woken e role ∧ x' = { x with role } ∧ fs = []) ∨
      ∀ N, Aside x (f ::ₘ N) x' (fs + N) := by
  cases w with
  | accept s e allowed => exact .inl ⟨s, rfl, allowed, rfl, rfl⟩
  | woken e role => exact .inr (.inl ⟨role, rfl, rfl, rfl⟩)
  | ends subject mayEnd =>
    refine .inr (.inr fun N => .of_quiet rfl rfl rfl rfl rfl rfl (by simp) fun r => ?_)
    rw [handed_cons, Multiset.coe_nil, zero_add]
    omega
  | loses err hop =>
    rw [Frame.carries_of_hop? hop] at hf
    cases hf
  | @takeToken e role deadline token =>
    refine .inr (.inr fun N => .of_quiet rfl rfl rfl rfl rfl rfl
      (by simp [Frame.carries, Frame.isEnter]) fun r => ?_)
    by_cases hr : role = r
    · simp +arith [handed, Frame.returns, Exchange.setToken, hr, hr ▸ token]
    · simp [handed, Frame.returns, Exchange.setToken, PerRole.get_set, hr, beq_false_of_ne hr]
  | wake e role =>
    refine .inr (.inr fun N => .of_quiet rfl rfl rfl rfl rfl rfl (by simp) fun r => ?_)
    by_cases hr : role = r
    · simp +arith [handed, Frame.returns, Exchange.setToken, hr]
    · simp [handed, Frame.returns, Exchange.setToken, PerRole.get_set, hr]
  | sent | sendBack | strandWaiter | strand | searches | goesTo | passesOver | considers | pins
    | noFlow | seeks | reaches | deliver | notDelivered | answers | turnsOver | process =>
    all_goals cases hf
  | _ =>
    refine .inr (.inr fun N => .of_quiet rfl rfl rfl rfl rfl rfl
      (by simp [Frame.carries, Frame.isEnter]) fun r => ?_)
    simp [handed, Frame.returns, Exchange.setWaiting, Exchange.fail]

/-- A turn works on a duty, or it leaves the exchange as far on its way as it was. -/
theorem Turn.aside (t : Turn true e d x D x' D') :
    (∃ c f N, ∃ fs : List Frame, d = .work c f ∧ D = f ::ₘ N ∧ D' = fs + N ∧
        Work c x e f x' fs) ∨
      Aside x D x' D' := by
  cases t with
  | idle | elsewhere | elsewhereAnswer => all_goals exact .inr (.refl x D)
  | work w => exact .inl ⟨_, _, _, _, rfl, rfl, rfl, w⟩
  | send | sendSync =>
    all_goals
      refine .inr (.of_duties (fun g hg kind => ?_) fun r => by simp [handed_cons, Frame.returns])
      rcases Multiset.mem_cons.1 hg with rfl | hg
      · rcases kind with hc | he
        · cases hc
        · cases he
      · exact ⟨g, hg, .same g⟩
  | deliver s wild => cases wild
  | delivers name s N same =>
    refine .inr (.of_duties (fun g hg kind => ?_) fun r => by simp [handed_cons, Frame.returns])
    simp only [Multiset.mem_cons] at hg
    rcases hg with rfl | rfl | hg
    · exact ⟨_, Multiset.mem_cons_self .., .delivers ..⟩
    · rcases kind with hc | he
      · cases hc
      · cases he
    · exact ⟨g, Multiset.mem_cons_of_mem hg, .same g⟩
  | answer name s delivered N same =>
    exact .inr (.of_duties (fun g hg _ => ⟨g, Multiset.mem_cons_of_mem hg, .same g⟩)
      fun r => by simp [handed_cons, Frame.returns])
  | refuse name s err N same undelivered =>
    cases undelivered rfl
    refine .inr (.of_duties (fun g hg _ => ?_) fun r => by simp [handed_cons, Frame.returns])
    rcases Multiset.mem_cons.1 hg with rfl | hg
    · exact ⟨_, Multiset.mem_cons_self .., .refused ..⟩
    · exact ⟨g, Multiset.mem_cons_of_mem (Multiset.mem_cons_of_mem hg), .same g⟩
  | create p =>
    exact .inr ⟨rfl, rfl, rfl, .inl rfl, rfl, rfl, fun g hg _ => ⟨g, hg, .same g⟩, fun _ => le_rfl⟩
  | change c changed =>
    have same := (Exchange.change_ok changed).1
    refine .inr ⟨same.role, same.source, same.destination, Exchange.target_of_change changed,
      same.sends, same.inTransit, fun g hg _ => ⟨g, hg, .same g⟩, fun r => ?_⟩
    rw [handed, handed, same.token]

/-- What a duty that carries an exchange makes of it: the exchange keeps its source, target and
sends, and as long as it does not arrive it is still on the same hop. -/
structure Forwards (x : Exchange) (f : Frame) (x' : Exchange) (fs : List Frame) : Prop where
  source : x'.source = x.source
  target : x'.target = x.target
  sends : x'.sends = x.sends
  aloft : ∀ g ∈ fs, ∀ h, g.aloft? = some h → f.aloft? = some h ∧ x'.role = x.role
  setsOut : ∀ g ∈ fs, ∀ h, g.setsOut? = some h → f.setsOut? = some h ∧ x' = x
  answers : (∀ r N, handed r x' (fs + N) = handed r x (f ::ₘ N)) ∨
    ∀ g ∈ fs, g.carries = false ∧ g.isEnter = false

namespace Forwards

/-- A dispatch goes on to its next stage. -/
theorem of_hop {h : Hop} (hf : f.aloft? = some h) (hg : g.aloft? = some h)
    (setsOut : ∀ h, g.setsOut? = some h → f.setsOut? = some h)
    (returns : ∀ r, f.returns r = false ∧ g.returns r = false) : Forwards x f x [g] where
  source := rfl
  target := rfl
  sends := rfl
  aloft g' hg' h' ha := by
    obtain rfl := List.mem_singleton.1 hg'
    exact ⟨hf.trans (hg.symm.trans ha), rfl⟩
  setsOut g' hg' h' ho := by
    obtain rfl := List.mem_singleton.1 hg'
    exact ⟨setsOut h' ho, rfl⟩
  answers := .inl fun r N => by
    rw [handed_add (fun g' hg' => List.mem_singleton.1 hg' ▸ (returns r).2), handed_cons,
      (returns r).1]
    rfl

/-- The exchange is not in the hands of a dispatch any more. -/
theorem of_landed (landed : ∀ g ∈ fs, g.aloft? = none) (source : x'.source = x.source)
    (target : x'.target = x.target) (sends : x'.sends = x.sends)
    (answers : (∀ r N, handed r x' (fs + N) = handed r x (f ::ₘ N)) ∨
      ∀ g ∈ fs, g.carries = false ∧ g.isEnter = false) : Forwards x f x' fs where
  source := source
  target := target
  sends := sends
  aloft g hg h ha := by
    rw [landed g hg] at ha
    cases ha
  setsOut g hg h ho := by
    have ha := Frame.aloft?_of_setsOut? ho
    rw [landed g hg] at ha
    cases ha
  answers := answers

end Forwards

theorem Work.forwards (w : Work c x e f x' fs) (hf : f.carries = true) : Forwards x f x' fs := by
  have pair {f g : Frame} {P : Frame → Prop} (hf : P f) (hg : P g) : ∀ g' ∈ [f, g], P g' :=
    List.forall_mem_cons.2 ⟨hf, List.forall_mem_singleton.2 hg⟩
  have single {f : Frame} {P : Frame → Prop} (hf : P f) : ∀ g ∈ [f], P g :=
    List.forall_mem_singleton.2 hf
  cases w with
  | sent h => exact .of_hop rfl rfl (fun _ h => h) fun _ => ⟨rfl, rfl⟩
  | searches | goesTo | passesOver | considers | noFlow | seeks =>
    all_goals exact .of_hop rfl rfl (fun _ h => by cases h) fun _ => ⟨rfl, rfl⟩
  | loses err hop =>
    exact .of_hop (Frame.aloft?_of_routing? (Frame.routing?_of_hop? hop)) rfl
      (fun _ h => by cases h) fun r => ⟨Frame.returns_of_hop? hop r, rfl⟩
  | pins target rest denied carrier | reaches carrier =>
    all_goals
      obtain rfl | ⟨name, rfl⟩ := Frame.eq_of_isCarrier carrier
      · exact .of_landed (pair rfl rfl) rfl rfl rfl
          (.inl fun r N => by simp [handed, Frame.returns])
      · exact ⟨rfl, rfl, rfl, pair (fun _ ha => ⟨ha, rfl⟩) (fun _ ha => by cases ha),
          pair (fun _ ho => by cases ho) (fun _ ho => by cases ho),
          .inl fun r N => by simp [handed, Frame.returns]⟩
  | strandWaiter later waits =>
    exact .of_landed (pair rfl rfl) (x.source_stranded ..) (x.target_stranded ..)
      (x.sends_stranded ..) (.inr (pair ⟨rfl, rfl⟩ ⟨rfl, rfl⟩))
  | strand later free =>
    exact .of_landed (single rfl) (x.source_stranded ..) (x.target_stranded ..)
      (x.sends_stranded ..) (.inr (single ⟨rfl, rfl⟩))
  | answers s e waits => exact .of_landed (single rfl) rfl rfl rfl (.inr (single ⟨rfl, rfl⟩))
  | sendBack first =>
    exact .of_landed (pair rfl rfl) rfl rfl rfl
      (.inl fun r N => by simp [handed, Frame.returns, Exchange.returned, Exchange.fail])
  | notDelivered s e gone =>
    exact .of_landed (fun g hg => by cases hg) rfl rfl rfl
      (.inl fun r N => by simp [handed, Frame.returns])
  | deliver | turnsOver | process =>
    all_goals
      exact .of_landed (single rfl) rfl rfl rfl
        (.inl fun r N => by simp [handed, Frame.returns, Exchange.turned])
  | ends subject mayEnd =>
    rw [Frame.carries_of_mayEnd mayEnd] at hf
    cases hf
  | _ => cases hf

/-! ## The outset -/

/-- What is known of an exchange until the dispatch of its first send is through with it. -/
structure Outset (x : Exchange) (D : Multiset Frame) : Prop where
  started : x.inTransit = true → x.source.isSome = true
  fresh : x.source = none → x.role = .consumer ∧ x.destination = none ∧ ∀ r, handed r x D = 0
  first : ∀ f ∈ D, ∀ h, f.aloft? = some h → h.first = true →
    x.source = some h.sender ∧ x.role = .consumer ∧ x.target.isSome = true ∧
      ∀ r, handed r x D = 0
  unpinned : ∀ f ∈ D, ∀ h, f.setsOut? = some h → h.first = true → x.destination = none

namespace Outset

/-- Nothing changes as long as the exchange stays as far as it was; a first send has its target. -/
theorem aside (h : Outset x D) (aside : Aside x D x' D') : Outset x' D' where
  started := by
    rw [aside.inTransit, aside.source]
    exact h.started
  fresh hs := by
    obtain ⟨role, destination, none⟩ := h.fresh (aside.source.symm.trans hs)
    exact ⟨aside.role.trans role, aside.destination.trans destination, fun r =>
      Nat.le_zero.1 (none r ▸ aside.answers r)⟩
  first f hf hop ha hfirst := by
    obtain ⟨g, hg, follows⟩ := aside.duties f hf (.inl (Frame.carries_of_aloft? ha))
    obtain ⟨source, role, target, none⟩ := h.first g hg hop (follows.aloft ha) hfirst
    refine ⟨aside.source.trans source, aside.role.trans role, ?_, fun r =>
      Nat.le_zero.1 (none r ▸ aside.answers r)⟩
    rcases aside.target with same | ⟨unsent, -⟩
    · exact same ▸ target
    · exact absurd (source.symm.trans unsent) (Option.some_ne_none _)
  unpinned f hf hop ho hfirst := by
    have hc := Frame.carries_of_aloft? (Frame.aloft?_of_setsOut? ho)
    obtain ⟨g, hg, follows⟩ := aside.duties f hf (.inl hc)
    exact aside.destination.trans (h.unpinned g hg hop (follows.setsOut ho) hfirst)

theorem work (w : Work c x e f x' fs) (sound : Sound x (f ::ₘ N)) (h : Outset x (f ::ₘ N)) :
    Outset x' (fs + N) := by
  by_cases hf : f.carries = true
  · -- the exchange is on its way, so it has a source, and no other duty carries it
    obtain ⟨source, target, -, aloft, setsOut, answers⟩ := w.forwards hf
    have others : ∀ g ∈ N, g.aloft? = none := fun g hg => sound.aloft?_eq_none hf hg
    have some := h.started (sound.custody.inTransit (Multiset.mem_cons_self ..) hf)
    have mem {g : Frame} {hop : Hop} (hg : g ∈ (fs + N : Multiset Frame))
        (ha : g.aloft? = .some hop) : g ∈ fs := by
      rcases Multiset.mem_add.1 hg with hg | hg
      · exact hg
      · rw [others g hg] at ha
        cases ha
    refine ⟨fun _ => source ▸ some, fun hs => ?_, fun g hg hop ha hfirst => ?_,
      fun g hg hop ho hfirst => ?_⟩
    · rw [← source, hs] at some
      cases some
    · obtain ⟨hfa, role⟩ := aloft g (mem hg ha) hop ha
      obtain ⟨source', role', target', none⟩ :=
        h.first f (Multiset.mem_cons_self ..) hop hfa hfirst
      refine ⟨source.trans source', role.trans role', target ▸ target', fun r => ?_⟩
      rcases answers with same | quiet
      · rw [same, none]
      · have := (quiet g (mem hg ha)).1
        rw [Frame.carries_of_aloft? ha] at this
        cases this
    · obtain ⟨hfo, rfl⟩ := setsOut g (mem hg (Frame.aloft?_of_setsOut? ho)) hop ho
      exact h.unpinned f (Multiset.mem_cons_self ..) hop hfo hfirst
  · rcases w.aside (eq_false_of_ne_true hf) with ⟨s, rfl, allowed, rfl, rfl⟩ |
      ⟨role, rfl, rfl, rfl⟩ | aside
    · obtain ⟨rest, turn⟩ := Exchange.checkSend_ok.1 allowed
      have others : ∀ g ∈ N, g.aloft? = none := fun g hg =>
        Frame.aloft?_eq_none_of_carries
          (sound.custody.carries_eq_false rest.arrived (Multiset.mem_cons_of_mem hg))
      have same (r : Role) (h : Hop) : handed r (x.sentBy s) (([.sent h] : List Frame) + N) =
          handed r x (.accept s e ::ₘ N) := by
        simp [Engine.handed, Frame.returns, Exchange.sentBy]
      refine ⟨fun _ => rfl, fun hs => (by cases hs), fun g hg hop ha hfirst => ?_,
        fun g hg hop ho hfirst => ?_⟩
      · rcases Multiset.mem_add.1 hg with hg | hg
        · obtain rfl := List.mem_singleton.1 hg
          cases ha
          have hs : x.source = none := Option.isNone_iff_eq_none.1 hfirst
          obtain ⟨role, -, none⟩ := h.fresh hs
          rcases turn with opens | answers | closes
          · refine ⟨by simp [Exchange.sentBy, hs], role, opens.target, fun r => ?_⟩
            rw [same, none]
          · exact absurd (answers.turn.symm.trans role) (by decide)
          · exact absurd (closes.sender.symm.trans hs) (Option.some_ne_none _)
        · rw [others g hg] at ha
          cases ha
      · rcases Multiset.mem_add.1 hg with hg | hg
        · obtain rfl := List.mem_singleton.1 hg
          cases ho
          exact (h.fresh (Option.isNone_iff_eq_none.1 hfirst)).2.1
        · have := others g hg
          rw [Frame.aloft?_of_setsOut? ho] at this
          cases this
    · -- whoever takes the exchange back has been given an answer before
      have given : 0 < handed role x (.woken e role ::ₘ N) := by
        rw [handed_cons]
        simp [Frame.returns]
      have taken : ¬∀ r, handed r x (.woken e role ::ₘ N) = 0 := fun none => by
        rw [none role] at given
        exact Nat.lt_irrefl 0 given
      rw [Multiset.coe_nil, zero_add]
      exact ⟨h.started, fun hs => absurd (h.fresh hs).2.2 taken,
        fun g hg hop ha hfirst =>
          absurd (h.first g (Multiset.mem_cons_of_mem hg) hop ha hfirst).2.2.2 taken,
        fun g hg => h.unpinned g (Multiset.mem_cons_of_mem hg)⟩
    · exact h.aside (aside N)

theorem turn (t : Turn true e d x D x' D') (sound : Sound x D) (h : Outset x D) :
    Outset x' D' := by
  rcases t.aside with ⟨c, f, N, fs, rfl, rfl, rfl, w⟩ | aside
  · exact work w sound h
  · exact h.aside aside

end Outset

theorem outset_start : Outset default 0 :=
  ⟨fun h => (by cases h), fun _ => ⟨rfl, rfl, fun r => by cases r <;> rfl⟩,
    fun f hf => absurd hf (Multiset.notMem_zero f), fun f hf => absurd hf (Multiset.notMem_zero f)⟩

/-- In a tame run a first send finds the exchange as it was created. -/
theorem Run.outset {config : Config} {h : History} {m : Machine} (run : Run config h m)
    (tame : Tame h) (e : ExchangeId) : Outset (m.router.exchange e) (m.dutiesFor e) :=
  (run.turns (P := fun x D => Sound x D ∧ Outset x D) e (fun _ => tame) ⟨sound_start, outset_start⟩
    fun _ _ _ _ _ ⟨sound, outset⟩ t => ⟨t.sound sound, outset.turn t sound⟩).2

end Engine

end MessageRouter
