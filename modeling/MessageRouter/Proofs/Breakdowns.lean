import MessageRouter.Proofs.Tidings
import MessageRouter.Proofs.Verdicts

/-!
# How an exchange breaks down

An exchange breaks down when a send of it finds no way or an endpoint fails while it processes it.
This is raised as a failure every time: also if the exchange had ended without an error before, and
once more if the reply to a failure finds no way either.  `Run.told_failed` says what listeners are
told.
-/

namespace MessageRouter.Engine

/-- How an exchange breaks down. -/
inductive Breakdown where
  /-- A first send found no way. -/
  | returned
  /-- A later send found no way. -/
  | stranded
  /-- A later send found no way of an exchange that had ended without an error. -/
  | settled
  /-- An endpoint or a client failed to take the exchange. -/
  | broken
  deriving DecidableEq

namespace Deed

/-- How an exchange breaks down in a deed. -/
def breakdown? (e : ExchangeId) (x : Exchange) : Deed → Option Breakdown
  | .work _ (.lost h _) =>
    if h.exchange = e then
      some (if h.first then .returned
        else if x.status.isTerminal && x.error.isNone then .settled
        else .stranded)
    else none
  | .work c (.handle _ e' sends) =>
    if e' = e ∧ c.reply.isFailed ∧ x.sends = sends ∧ x.inTransit = false ∧ x.status = .active then
      some .broken
    else none
  | _ => none

theorem isSome_breakdown? (e : ExchangeId) (r : Router) (d : Deed) :
    (d.breakdown? e (r.exchange e)).isSome = d.raises .failed e r := by
  cases d with
  | work c f =>
    cases f with
    | lost h err => by_cases he : h.exchange = e <;> simp [breakdown?, raises, he]
    | handle s e' sends =>
      by_cases he : e' = e
      · subst he
        rw [breakdown?, raises, Bool.eq_iff_iff]
        split <;> simp_all
      · simp [breakdown?, raises, he]
    | accept | hand | process => all_goals simp [breakdown?, raises]
    | _ => rfl
  | _ => rfl

end Deed

/-- How an exchange has broken down, the latest first. -/
def breakdowns (e : ExchangeId) (h : History) : List Breakdown :=
  h.filterMap fun q => (q.1.deed q.2).breakdown? e (q.1.router.exchange e)

theorem breakdowns_cons (e : ExchangeId) (m : Machine) (mv : Move) (h : History) :
    breakdowns e ((m, mv) :: h) =
      ((m.deed mv).breakdown? e (m.router.exchange e)).toList ++ breakdowns e h := by
  rw [breakdowns, List.filterMap_cons]
  cases (m.deed mv).breakdown? e (m.router.exchange e) <;> rfl

/-- A failure is raised every time that an exchange breaks down. -/
theorem length_breakdowns (e : ExchangeId) (h : History) :
    (breakdowns e h).length = raised .failed e h := by
  induction h with
  | nil => rfl
  | cons q h ih =>
    rw [breakdowns_cons, raised_cons, List.length_append, ih, ← Deed.isSome_breakdown?,
      Nat.add_comm]
    cases (q.1.deed q.2).breakdown? e (q.1.router.exchange e) <;> rfl

/-! ## What breaks down and what does not -/

section

variable {tame : Bool} {c : Context} {e : ExchangeId} {d : Deed} {f : Frame} {x x' : Exchange}
  {fs : List Frame} {N D D' : Multiset Frame} {b : Breakdown} {L : List Breakdown}

/-- What happens to an exchange that breaks down when a task works on a frame. -/
inductive Breaks (x x' : Exchange) : Frame → List Frame → Breakdown → Prop
  | returned {h : Hop} {err : RouterError} {fs : List Frame} (first : h.first = true)
    (blamed : x'.status = .error ∧ x'.error.isSome = true) (source : x'.source = x.source)
    (completed : x'.completed = true) (landed : ∀ g ∈ fs, g.aloft? = none) :
    Breaks x x' (.lost h err) fs .returned
  | stranded {h : Hop} {err : RouterError} {fs : List Frame} (later : h.first = false)
    (blamed : x'.status = .error ∧ x'.error.isSome = true) (source : x'.source = x.source)
    (completed : x'.completed = true) (landed : ∀ g ∈ fs, g.aloft? = none) :
    Breaks x x' (.lost h err) fs .stranded
  | settled {h : Hop} {err : RouterError} {fs : List Frame} (later : h.first = false)
    (ended : x.status.isTerminal = true) (innocent : x.error = none)
    (status : x'.status = x.status) (error : x'.error = none) (source : x'.source = x.source)
    (completed : x'.completed = true) (landed : ∀ g ∈ fs, g.aloft? = none) :
    Breaks x x' (.lost h err) fs .settled
  | broken {s : SlotId} {e : ExchangeId} {sends : Nat} (arrived : x.inTransit = false)
    (active : x.status = .active) (blamed : x'.status = .error ∧ x'.error.isSome = true)
    (source : x'.source = x.source) :
    Breaks x x' (.handle s e sends) [.dispatch s e] .broken

theorem Breaks.strand {h : Hop} {err : RouterError} (failed : x.Failed) (later : h.first = false)
    (landed : ∀ g ∈ fs, g.aloft? = none) :
    Breaks x (x.stranded h.role err) (.lost h err) fs
      (if x.status.isTerminal && x.error.isNone then .settled else .stranded) := by
  have source := x.source_stranded h.role err
  rcases ht : x.status.isTerminal with _ | _
  · rw [Bool.false_and, if_neg Bool.false_ne_true]
    refine .stranded later ?_ source rfl landed
    simp [Exchange.stranded, ht, Exchange.fail]
  · have status : (x.stranded h.role err).status = x.status := by simp [Exchange.stranded, ht]
    have error : (x.stranded h.role err).error = x.error := by simp [Exchange.stranded, ht]
    rcases hx : x.error with _ | failure
    · exact .settled later ht hx status (error.trans hx) source rfl landed
    · refine .stranded later ⟨status.trans (failed _ hx), ?_⟩ source rfl landed
      rw [error, hx]
      rfl

/-- The work on a frame in which an exchange breaks down.  That an endpoint has failed is not all:
somebody has to take note of it. -/
theorem Work.breaks (w : Work c x e f x' fs) (failed : x.Failed)
    (hb : (Deed.work c f).breakdown? e x = some b) (noted : b = .broken → x'.status = .error) :
    Breaks x x' f fs b := by
  cases w with
  | @sendBack h err first =>
    obtain rfl : Breakdown.returned = b := by simpa [Deed.breakdown?, first] using hb
    exact .returned first ⟨rfl, rfl⟩ rfl rfl (by simp [Frame.aloft?, Frame.routing?])
  | @strandWaiter h err later | @strand h err later =>
    all_goals
      obtain rfl : (if x.status.isTerminal && x.error.isNone then Breakdown.settled
          else .stranded) = b := by
        simpa only [Deed.breakdown?, later, if_true, Bool.false_eq_true, if_false,
          Option.some.injEq] using hb
      exact .strand failed later (by simp [Frame.aloft?, Frame.routing?])
  | fails s f failed unsent arrived active =>
    obtain rfl : Breakdown.broken = b := by
      simpa [Deed.breakdown?, failed, Reply.isFailed, unsent, arrived, active] using hb
    exact .broken arrived active ⟨rfl, rfl⟩ rfl
  | ends subject mayEnd =>
    cases f with
    | handle s e' sends =>
      simp only [Deed.breakdown?, Option.ite_none_right_eq_some, Option.some.injEq] at hb
      obtain ⟨⟨-, -, -, -, active⟩, hb⟩ := hb
      rw [noted hb.symm] at active
      cases active
    | lost => cases mayEnd
    | _ => cases hb
  | loses err hop => cases f <;> cases hop <;> cases hb
  | _ => cases hb

/-- A turn in which an exchange breaks down. -/
theorem Turn.breaks (t : Turn tame e d x D x' D') (failed : x.Failed)
    (hb : d.breakdown? e x = some b) (noted : b = .broken → x'.status = .error) :
    ∃ (f : Frame) (fs : List Frame) (N : Multiset Frame), D = f ::ₘ N ∧ D' = fs + N ∧
      Breaks x x' f fs b := by
  cases t with
  | @work c f x x' fs N w paired => exact ⟨f, fs, N, rfl, rfl, w.breaks failed hb noted⟩
  | idle idle =>
    cases d with
    | work c f => cases f <;> first | cases hb | cases idle
    | _ => cases hb
  | @elsewhere c f x D other =>
    cases f with
    | lost h err =>
      have : h.exchange ≠ e := fun he => other (congrArg some he)
      simp [Deed.breakdown?, this] at hb
    | handle s e' sends =>
      have : e' ≠ e := fun he => other (congrArg some he)
      simp [Deed.breakdown?, this] at hb
    | _ => cases hb
  | _ => cases hb

/-- What stays so of an exchange as long as it does not break down. -/
structure Steady (x x' : Exchange) : Prop where
  verdict : x.status.isTerminal = true → x'.status = x.status ∧ x'.error = x.error
  completed : x.completed = true → x'.completed = true
  source : x.source.isSome = true → x'.source.isSome = true

theorem Steady.refl (x : Exchange) : Steady x x := ⟨fun _ => ⟨rfl, rfl⟩, id, id⟩

theorem Work.steady (w : Work c x e f x' fs) (hb : (Deed.work c f).breakdown? e x = none) :
    Steady x x' := by
  cases w with
  | accept s e allowed =>
    refine ⟨fun _ => ⟨rfl, rfl⟩, fun ended => ?_, fun _ => rfl⟩
    cases (Exchange.checkSend_ok.1 allowed).1.going.symm.trans ended
  | sendBack | strandWaiter | strand => all_goals simp [Deed.breakdown?] at hb
  | fails s f failed unsent arrived active =>
    simp [Deed.breakdown?, failed, Reply.isFailed, unsent, arrived, active] at hb
  | _ => exact ⟨fun _ => ⟨rfl, rfl⟩, id, id⟩

theorem Turn.steady (t : Turn tame e d x D x' D') (hb : d.breakdown? e x = none) : Steady x x' := by
  cases t with
  | work w => exact w.steady hb
  | create p => exact ⟨fun ended => (by cases ended), id, id⟩
  | change c changed =>
    obtain ⟨same, going⟩ := Exchange.change_ok changed
    refine ⟨fun ended => ?_, fun ended => same.completed.trans ended, fun sent => ?_⟩
    · cases going.symm.trans ended
    · rw [same.source, sent]
  | _ => exact .refl x

/-! ## What listeners are told of -/

/-- What has broken down has ended, and it has failed unless it had ended without an error. -/
structure Ruined (L : List Breakdown) (x : Exchange) : Prop where
  failed : x.Failed
  ended : L ≠ [] → x.status.isTerminal = true
  blamed : L ≠ [] → .settled ∉ L → x.error.isSome = true

theorem Breaks.ruined (h : Breaks x x' f fs b) (failed : x'.Failed) : Ruined (b :: L) x' := by
  have of_blamed (blamed : x'.status = .error ∧ x'.error.isSome = true) : Ruined (b :: L) x' := by
    refine ⟨failed, fun _ => ?_, fun _ _ => blamed.2⟩
    rw [blamed.1]
    rfl
  cases h with
  | returned first blamed => exact of_blamed blamed
  | stranded later blamed => exact of_blamed blamed
  | broken arrived active blamed => exact of_blamed blamed
  | settled later ended innocent status =>
    exact ⟨failed, fun _ => status ▸ ended, fun _ unsettled => absurd List.mem_cons_self unsettled⟩

theorem Turn.failed (t : Turn tame e d x D x' D') (h : x.Failed) : x'.Failed := by
  rcases t.keepsVerdict h with ⟨err, -, rfl⟩ | ⟨-, -, failed⟩
  · exact fun _ _ => rfl
  · exact failed

theorem Turn.ruined (t : Turn tame e d x D x' D') (h : Ruined L x)
    (noted : d.breakdown? e x = some .broken → x'.status = .error) :
    Ruined ((d.breakdown? e x).toList ++ L) x' := by
  have failed := t.failed h.failed
  rcases hb : d.breakdown? e x with _ | b
  · have steady := t.steady hb
    refine ⟨failed, fun some => ?_, fun some unsettled => ?_⟩
    · rw [(steady.verdict (h.ended some)).1]
      exact h.ended some
    · rw [(steady.verdict (h.ended some)).2]
      exact h.blamed some unsettled
  · obtain ⟨f, fs, N, -, -, breaks⟩ := t.breaks h.failed hb fun is => noted (is ▸ hb)
    exact breaks.ruined failed

/-! ## How often an exchange breaks down -/

namespace Frame

/-- The exchange has been handed to a slot, which has not dealt with it yet. -/
def visits : Frame → Bool
  | .enter .. | .handle .. => true
  | _ => false

end Frame

/-- Whoever has an exchange got it with a send. -/
def Visited (x : Exchange) (D : Multiset Frame) : Prop :=
  x.inTransit = true ∨ 0 < count Frame.visits D → x.source.isSome = true

/-- An exchange comes to a slot only while it is in transit. -/
theorem Work.visited (w : Work c x e f x' fs) (custody : InCustody x (f ::ₘ N))
    (h : Visited x (f ::ₘ N)) : Visited x' (fs + N) := by
  cases w with
  | accept => exact fun _ => rfl
  | process s e => exact fun _ => h (.inl (custody.inTransit (Multiset.mem_cons_self ..) rfl))
  | enters s e sends => exact fun _ => h (.inr (by simp [Frame.visits]))
  | strandWaiter | strand =>
    all_goals
      rw [Visited, Exchange.source_stranded]
      exact fun having => h (.inr (by simpa [Frame.visits, Exchange.stranded] using having))
  | pins target rest denied carrier | reaches carrier =>
    all_goals
      obtain rfl | ⟨name, rfl⟩ := Frame.eq_of_isCarrier carrier <;>
        exact fun having => h (by simpa [Frame.visits] using having)
  | loses | ends =>
    all_goals
      refine fun having => h (having.imp_right fun visiting => ?_)
      rw [count_cons]
      exact Nat.lt_of_lt_of_le (by simpa [Frame.visits] using visiting) (Nat.le_add_right ..)
  | answers =>
    exact fun having => h (.inr (by simpa [Frame.visits, Exchange.answered] using having))
  | fails => exact fun _ => h (.inr (by simp [Frame.visits]))
  | _ =>
    exact fun having => h (by simpa [Frame.visits, Exchange.setWaiting, Exchange.setToken,
      Exchange.returned, Exchange.fail] using having)

theorem Turn.visited (t : Turn tame e d x D x' D') (custody : InCustody x D) (h : Visited x D) :
    Visited x' D' := by
  cases t with
  | work w => exact w.visited custody h
  | change c changed =>
    have same := (Exchange.change_ok changed).1
    rw [Visited, same.inTransit, same.source]
    exact h
  | idle | elsewhere | elsewhereAnswer | create => exact h
  | _ => simpa [Visited, Frame.visits] using h

/-- How an exchange stands that has broken down as `L` says. -/
inductive Standing (x : Exchange) (D : Multiset Frame) : List Breakdown → Prop
  | well : Standing x D []
  | broken (sent : x.source.isSome = true)
    (later : ∀ f ∈ D, ∀ h, f.aloft? = some h → h.first = false) : Standing x D [.broken]
  | ended {L : List Breakdown} (known : L ∈ [[.returned], [.stranded], [.stranded, .broken]])
    (completed : x.completed = true) (landed : ∀ f ∈ D, f.aloft? = none) : Standing x D L
  | settled (innocent : x.error = none) (completed : x.completed = true)
    (landed : ∀ f ∈ D, f.aloft? = none) : Standing x D [.settled]

/-- A hop that is under way was under way before, or it has just been accepted. -/
theorem Work.aloft (w : Work c x e f x' fs) :
    ∀ h ∈ fs.filterMap Frame.aloft?,
      f.aloft? = some h ∨ h.first = x.source.isNone ∧ x.completed = false := by
  cases w with
  | accept s e allowed =>
    have going := (Exchange.checkSend_ok.1 allowed).1.going
    simp [Frame.aloft?, Frame.routing?, going]
  | pins target rest denied carrier | reaches carrier =>
    all_goals
      obtain rfl | ⟨name, rfl⟩ := Frame.eq_of_isCarrier carrier <;>
        simp [Frame.aloft?, Frame.routing?]
  | loses err hop =>
    intro h' hh'
    obtain rfl : h' = _ := by simpa [Frame.aloft?, Frame.routing?] using hh'
    exact .inl (Frame.aloft?_of_routing? (Frame.routing?_of_hop? hop))
  | _ => simp [Frame.aloft?, Frame.routing?]

theorem Turn.aloft (t : Turn true e d x D x' D') {g : Frame} {h : Hop} (hg : g ∈ D')
    (hh : g.aloft? = some h) :
    (∃ f ∈ D, f.aloft? = some h) ∨ h.first = x.source.isNone ∧ x.completed = false := by
  cases t with
  | idle | elsewhere | elsewhereAnswer | create | change => exact .inl ⟨g, hg, hh⟩
  | @work c f x x' fs N w paired =>
    rcases Multiset.mem_add.1 hg with hg | hg
    · exact (w.aloft h (List.mem_filterMap.2 ⟨g, hg, hh⟩)).imp_left fun hf =>
        ⟨f, Multiset.mem_cons_self .., hf⟩
    · exact .inl ⟨g, Multiset.mem_cons_of_mem hg, hh⟩
  | send | sendSync =>
    all_goals
      rcases Multiset.mem_cons.1 hg with rfl | hg
      · cases hh
      · exact .inl ⟨g, hg, hh⟩
  | deliver s wild => cases wild
  | delivers name s N same =>
    simp only [Multiset.mem_cons] at hg
    rcases hg with rfl | rfl | hg
    · cases hh
    · cases hh
    · exact .inl ⟨g, Multiset.mem_cons_of_mem hg, hh⟩
  | answer => exact .inl ⟨g, Multiset.mem_cons_of_mem hg, hh⟩
  | refuse name s err N same undelivered =>
    cases undelivered rfl
    rcases Multiset.mem_cons.1 hg with rfl | hg
    · exact .inl ⟨_, Multiset.mem_cons_self .., hh⟩
    · exact .inl ⟨g, Multiset.mem_cons_of_mem (Multiset.mem_cons_of_mem hg), hh⟩

/-- Nobody looks a way any more for an exchange that is over and has landed. -/
theorem Turn.landed (t : Turn true e d x D x' D') (completed : x.completed = true)
    (landed : ∀ f ∈ D, f.aloft? = none) : ∀ f ∈ D', f.aloft? = none := by
  intro g hg
  by_contra hne
  obtain ⟨h, hh⟩ := Option.ne_none_iff_exists'.1 hne
  rcases t.aloft hg hh with ⟨f, hf, hf'⟩ | ⟨-, going⟩
  · cases (landed f hf).symm.trans hf'
  · cases completed.symm.trans going

/-- An exchange that does not break down stands as it stood. -/
theorem Turn.standing_of_steady (t : Turn true e d x D x' D') (ruined : Ruined L x)
    (h : Standing x D L) (hb : d.breakdown? e x = none) : Standing x' D' L := by
  have steady := t.steady hb
  cases h with
  | well => exact .well
  | broken sent later =>
    refine .broken (steady.source sent) fun g hg h hh => ?_
    rcases t.aloft hg hh with ⟨f, hf, hf'⟩ | ⟨first, -⟩
    · exact later f hf h hf'
    · rw [first, Option.isNone_eq_false_iff.2 sent]
  | ended known completed landed =>
    exact .ended known (steady.completed completed) (t.landed completed landed)
  | settled innocent completed landed =>
    refine .settled ?_ (steady.completed completed) (t.landed completed landed)
    rw [(steady.verdict (ruined.ended (List.cons_ne_nil _ _))).2, innocent]

/-- A send that finds no way was under way, so the exchange is well or its endpoint has failed, and
then the send is a later one. -/
theorem Standing.of_lost {h : Hop} {err : RouterError}
    (standing : Standing x (.lost h err ::ₘ N) L) : L = [] ∨ L = [.broken] ∧ h.first = false := by
  have aloft := Multiset.mem_cons_self (.lost h err) N
  cases standing with
  | well => exact .inl rfl
  | broken sent later => exact .inr ⟨rfl, later _ aloft h rfl⟩
  | ended known completed landed | settled innocent completed landed => cases landed _ aloft

/-- An exchange breaks down anew only if its endpoint had failed and the reply finds no way. -/
theorem Breaks.standing (breaks : Breaks x x' f fs b) (sound : Sound x (f ::ₘ N))
    (visited : Visited x (f ::ₘ N)) (ruined : Ruined L x) (h : Standing x (f ::ₘ N) L) :
    Standing x' (fs + N) (b :: L) := by
  have landed (hf : f.carries = true) (hfs : ∀ g ∈ fs, g.aloft? = none) :
      ∀ g ∈ (fs + N : Multiset Frame), g.aloft? = none := fun g hg =>
    (Multiset.mem_add.1 hg).elim (hfs g) (sound.aloft?_eq_none hf)
  cases breaks with
  | returned first blamed source completed hfs =>
    obtain rfl | ⟨-, later⟩ := h.of_lost
    · exact .ended (by simp) completed (landed rfl hfs)
    · cases first.symm.trans later
  | stranded later blamed source completed hfs =>
    obtain rfl | ⟨rfl, -⟩ := h.of_lost
    all_goals exact .ended (by simp) completed (landed rfl hfs)
  | settled later ended innocent status error source completed hfs =>
    obtain rfl | ⟨rfl, -⟩ := h.of_lost
    · exact .settled error completed (landed rfl hfs)
    · have blamed := ruined.blamed (List.cons_ne_nil _ _) (by simp)
      rw [innocent] at blamed
      cases blamed
  | broken arrived active blamed source =>
    obtain rfl : L = [] := by
      by_contra some
      have ended := ruined.ended some
      rw [active] at ended
      cases ended
    refine .broken (source ▸ visited (.inr (by simp [Frame.visits]))) fun g hg h hh => ?_
    rcases Multiset.mem_add.1 hg with hg | hg
    · obtain rfl := List.mem_singleton.1 hg
      cases hh
    · have := sound.custody.carries_eq_false arrived (Multiset.mem_cons_of_mem hg)
      rw [Frame.carries_of_aloft? hh] at this
      cases this

theorem Turn.standing (t : Turn true e d x D x' D') (sound : Sound x D) (visited : Visited x D)
    (ruined : Ruined L x) (h : Standing x D L)
    (noted : d.breakdown? e x = some .broken → x'.status = .error) :
    Standing x' D' ((d.breakdown? e x).toList ++ L) := by
  rcases hb : d.breakdown? e x with _ | b
  · exact t.standing_of_steady ruined h hb
  · obtain ⟨f, fs, N, rfl, rfl, breaks⟩ := t.breaks ruined.failed hb fun is => noted (is ▸ hb)
    exact breaks.standing sound visited ruined h

end

/-! ## Whole runs -/

namespace Machine

variable {m m' : Machine} {mv : Move} {e : ExchangeId}

/-- An endpoint that has failed is noted on the exchange. -/
theorem status_of_broken (hm : m.move? mv = some m')
    (hb : (m.deed mv).breakdown? e (m.router.exchange e) = some .broken) :
    (m'.router.exchange e).status = .error := by
  unfold Deed.breakdown? at hb
  split at hb
  · rename_i c h err hd
    simp only [Option.ite_none_right_eq_some, Option.some.injEq] at hb
    obtain ⟨-, hb⟩ := hb
    split at hb
    · cases hb
    · split at hb <;> cases hb
  · rename_i c s e' sends hd
    simp only [Option.ite_none_right_eq_some, and_true] at hb
    obtain ⟨rfl, failed, unsent, arrived, active⟩ := hb
    obtain ⟨t, rest, rfl, hf⟩ := exists_advance hd
    obtain ⟨f, rest', o, hf', b, rfl⟩ := exists_becomes hm
    obtain ⟨rfl, rfl⟩ := List.cons.inj (hf.symm.trans hf')
    obtain ⟨rfl, -⟩ := Deed.work.inj ((deed_advance hf).symm.trans hd)
    cases b with
    | fails f failed unsent arrived active =>
      rw [router_settle (.fails f failed unsent arrived active), Outcome.router,
        Router.exchange_setExchange_self]
      rfl
    | handled settled =>
      obtain ⟨f, hf⟩ : ∃ f, (m.task t).reply = .failed f := by
        generalize (m.task t).reply = reply at failed
        cases reply <;> first | exact ⟨_, rfl⟩ | cases failed
      exact absurd ⟨unsent, arrived, active⟩ (settled f hf)
  · cases hb

end Machine

variable {config : Config} {h : History} {m : Machine}

theorem Run.ruined (run : Run config h m) (e : ExchangeId) :
    Ruined (breakdowns e h) (m.router.exchange e) := by
  obtain ⟨r, hr, p⟩ := run
  refine p.turns (P := fun h x _ => Ruined (breakdowns e h) x) e (Machine.stacked_ofRouter r)
    (fun h : false = true => by cases h) ?_ fun h m m' mv ruined hm t => ?_
  · rw [Machine.ofRouter, exchange_start hr]
    exact { failed := fun _ hf => (by cases hf)
            ended := fun some => absurd rfl some
            blamed := fun some => absurd rfl some }
  · rw [breakdowns_cons]
    exact t.ruined ruined (Machine.status_of_broken hm)

theorem Run.standing (run : Run config h m) (tame : Tame h) (e : ExchangeId) :
    Standing (m.router.exchange e) (m.dutiesFor e) (breakdowns e h) := by
  obtain ⟨r, hr, p⟩ := run
  refine (p.turns (P := fun h x D => Sound x D ∧ Visited x D ∧ Ruined (breakdowns e h) x ∧
    Standing x D (breakdowns e h)) e (Machine.stacked_ofRouter r) (fun _ : true = true => tame) ?_
    fun h m m' mv ⟨sound, visited, ruined, standing⟩ hm t => ?_).2.2.2
  · have fresh : Run config [] (.ofRouter r) := ⟨r, hr, .nil⟩
    refine ⟨fresh.sound (fun _ hq => by cases hq) e, fun visiting => ?_, fresh.ruined e, .well⟩
    rw [Machine.dutiesFor_ofRouter, Machine.ofRouter, exchange_start hr] at visiting
    rcases visiting with visiting | visiting <;> cases visiting
  · have noted := Machine.status_of_broken (e := e) hm
    rw [breakdowns_cons]
    exact ⟨t.sound sound, t.visited sound.custody visited, t.ruined ruined noted,
      t.standing sound visited ruined standing noted⟩

/-- Whoever is told that an exchange has failed is told so of one that has broken down and ended: it
has failed, unless it had ended without an error before.  A listener that attends is told of every
breakdown, once.  As long as flows keep their contract there is one at most, or else an endpoint has
failed and its reply has found no way. -/
theorem Run.told_failed (run : Run config h m) (e : ExchangeId) (l : String) :
    (∀ mv, (m.deed mv).tells .failed e l = true →
      breakdowns e h ≠ [] ∧ (m.router.exchange e).status.isTerminal = true ∧
        (.settled ∉ breakdowns e h → (m.router.exchange e).status = .error ∧
          (m.router.exchange e).error.isSome = true)) ∧
    ((∀ q ∈ h, q.1.hearings l ≤ 1) →
      told l .failed e h + toTell l .failed e m.duties ≤ (breakdowns e h).length) ∧
    (Attends l .failed e h →
      told l .failed e h + toTell l .failed e m.duties = (breakdowns e h).length) ∧
    (Tame h →
      breakdowns e h ∈
        [[], [.returned], [.broken], [.stranded], [.settled], [.stranded, .broken]] ∧
      (.settled ∈ breakdowns e h → (m.router.exchange e).error = none)) := by
  have ruined := run.ruined e
  refine ⟨fun mv tells => ?_, fun once => ?_, fun there => ?_, fun tame => ?_⟩
  · have some : breakdowns e h ≠ [] := by
      rw [← List.length_pos_iff, length_breakdowns]
      exact run.raised_of_tells tells
    refine ⟨some, ruined.ended some, fun unsettled => ?_⟩
    have blamed := ruined.blamed some unsettled
    obtain ⟨f, hf⟩ := Option.isSome_iff_exists.1 blamed
    exact ⟨ruined.failed f hf, blamed⟩
  · obtain ⟨r, hr, p⟩ := run
    rw [length_breakdowns]
    exact p.told_le (Machine.stacked_ofRouter r) once
  · obtain ⟨r, hr, p⟩ := run
    rw [length_breakdowns]
    exact p.told_eq (Machine.stacked_ofRouter r) there
  · have standing := run.standing tame e
    generalize breakdowns e h = L at standing
    cases standing with
    | well | broken => all_goals exact ⟨by simp, fun settled => by simp at settled⟩
    | ended known =>
      simp only [List.mem_cons, List.not_mem_nil, or_false] at known
      rcases known with rfl | rfl | rfl <;> exact ⟨by simp, fun settled => by simp at settled⟩
    | settled innocent => exact ⟨by simp, fun _ => innocent⟩

/-- No flow carries the exchange that the client sends, and the listener is about to be told. -/
def Cue.noWayTold : List Cue :=
  opening .inOut ++ [listen, operate (.setFlows []), request 0 (.send ⟨1⟩ ⟨0⟩)] ++ hears ++
    [halts 0 (.notifies .failed)]

/-- The listener is told once, of an exchange that has failed. -/
theorem Run.told_failed_returned : ∃ h m, Run {} h m ∧
    breakdowns ⟨0⟩ h = [.returned] ∧ (m.deed (.advance 0)).tells .failed ⟨0⟩ "listener" = true ∧
    (m.router.exchange ⟨0⟩).status = .error ∧ (m.router.exchange ⟨0⟩).error.isSome = true ∧
    Attends "listener" .failed ⟨0⟩ h ∧
    told "listener" .failed ⟨0⟩ h + toTell "listener" .failed ⟨0⟩ m.duties = 1 := by
  obtain ⟨h, m, p, hq⟩ := Path.exists_of_enact .usual Cue.noWayTold
    (fun p => breakdowns ⟨0⟩ p.1 == [.returned] &&
      (p.2.deed (.advance 0)).tells .failed ⟨0⟩ "listener" &&
      p.1.all fun q => !(q.1.deed q.2).announces .failed ⟨0⟩ || q.1.hearings "listener" == 1)
    (by rfl)
  simp only [Bool.and_eq_true, beq_iff_eq, List.all_eq_true, Bool.or_eq_true,
    Bool.not_eq_true'] at hq
  obtain ⟨⟨returned, tells⟩, attends⟩ := hq
  have attends : Attends "listener" .failed ⟨0⟩ h := fun q hq announces =>
    (attends q hq).resolve_left fun silent => Bool.false_ne_true (silent.symm.trans announces)
  obtain ⟨told, -, times, -⟩ := p.run.told_failed ⟨0⟩ "listener"
  obtain ⟨-, -, failed⟩ := told (.advance 0) tells
  obtain ⟨status, error⟩ := failed (by rw [returned]; decide)
  have once := times attends
  rw [returned] at once
  exact ⟨h, m, p.run, returned, tells, status, error, attends, once⟩

/-- The listener looks on while the endpoint fails and no flow carries its reply any more. -/
def Cue.toldTwice : List Cue :=
  opening .inOut ++ [listen, request 0 (.send ⟨1⟩ ⟨0⟩)] ++ hears ++ hears ++
    [runs 0, operate (.setFlows []), answer 0 (.failed (.other "broken"))] ++
    hears ++ hears ++ hears

/-- The listener looks on while the provider closes an exchange and no flow carries it any more. -/
def Cue.toldOfSuccess : List Cue :=
  opening .inOnly ++ [listen, request 0 (.send ⟨1⟩ ⟨0⟩)] ++ hears ++ hears ++
    [runs 0, operate (.setFlows []), operate (.change ⟨0⟩ (.status .done)),
      request 0 (.send ⟨0⟩ ⟨0⟩)] ++
    hears ++ [halts 0 (.notifies .failed)]

/-- In the one case the listener is told twice, in the other that an exchange has failed that is
done. -/
theorem Run.told_failed_amiss :
    (∃ h m, Run { syncDelivery := true } h m ∧ Tame h ∧ Observed h ∧
      told "listener" .failed ⟨0⟩ h = 2) ∧
    ∃ h m, Run { syncDelivery := true } h m ∧ Tame h ∧ Observed h ∧
      (m.deed (.advance 0)).tells .failed ⟨0⟩ "listener" = true ∧
      (m.router.exchange ⟨0⟩).status = .done ∧ (m.router.exchange ⟨0⟩).error = none := by
  constructor
  · obtain ⟨h, m, p, hq⟩ := Path.exists_of_enact .synchronous Cue.toldTwice
      (fun p => p.1.all (fun q => q.1.isTame q.2) && p.1.all (fun q => q.1.observes q.2) &&
        told "listener" .failed ⟨0⟩ p.1 == 2) (by rfl)
    simp only [Bool.and_eq_true, beq_iff_eq, List.all_eq_true] at hq
    obtain ⟨⟨tame, observed⟩, twice⟩ := hq
    exact ⟨h, m, p.runSynchronous, tame, observed, twice⟩
  · obtain ⟨h, m, p, hq⟩ := Path.exists_of_enact .synchronous Cue.toldOfSuccess
      (fun p => p.1.all (fun q => q.1.isTame q.2) && p.1.all (fun q => q.1.observes q.2) &&
        (p.2.deed (.advance 0)).tells .failed ⟨0⟩ "listener" &&
        (p.2.router.exchange ⟨0⟩).status == .done && (p.2.router.exchange ⟨0⟩).error.isNone)
      (by rfl)
    simp only [Bool.and_eq_true, beq_iff_eq, List.all_eq_true, Option.isNone_iff_eq_none] at hq
    obtain ⟨⟨⟨⟨tame, observed⟩, tells⟩, done⟩, innocent⟩ := hq
    exact ⟨h, m, p.runSynchronous, tame, observed, tells, done, innocent⟩

end MessageRouter.Engine
