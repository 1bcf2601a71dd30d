import MessageRouter.Proofs.Accounts
import MessageRouter.Proofs.Parties
import MessageRouter.Proofs.Tiers

/-!
# Later hops

The first send of an exchange looks for a slot to go to; later ones go where the exchange is known
to belong (`Located`).  So a later send is lost only because no flow takes it
(`Run.reaching_of_lost`), and then all flows that the router had when they began to be asked have
declined (`Run.declined`).
-/

namespace MessageRouter.Engine

variable {tame : Bool} {c : Context} {e : ExchangeId} {d : Deed} {f g : Frame} {x x' : Exchange}
  {fs : List Frame} {N D D' : Multiset Frame}

namespace Frame

/-- The hop of a dispatch that has no slot yet to take the exchange to. -/
def seeking? : Frame → Option Hop
  | .sent h | .route h | .offer h _ _ _ | .offered h _ _ _ _ | .lost h _ => some h
  | _ => none

theorem carries_of_seeking? {f : Frame} {h : Hop} (hf : f.seeking? = some h) :
    f.carries = true := by
  cases f <;> first | rfl | cases hf

end Frame

/-- An exchange that is over stays so. -/
theorem Work.keepsEnd (w : Work c x e f x' fs) (ended : x.completed = true) :
    x'.completed = true := by
  cases w with
  | accept s e allowed =>
    exact absurd ((Exchange.checkSend_ok.1 allowed).1.going.symm.trans ended) Bool.false_ne_true
  | _ => first | exact ended | rfl

theorem Turn.keepsEnd (t : Turn tame e d x D x' D') (ended : x.completed = true) :
    x'.completed = true := by
  cases t with
  | work w => exact w.keepsEnd ended
  | create p => cases ended
  | change c changed => exact (Exchange.change_ok changed).1.completed.trans ended
  | _ => exact ended

/-- An exchange that has been sent has a destination, unless it is over or its first send still
looks for one. -/
structure Located (x : Exchange) (D : Multiset Frame) : Prop where
  found : x.source.isSome = true → x.completed = true ∨ x.destination.isSome = true ∨
    ∃ f ∈ D, ∃ h, f.seeking? = some h ∧ h.first = true
  later : ∀ f ∈ D, ∀ h, f.aloft? = some h → h.first = false → x.destination.isSome = true

/-- A first send that looks for a slot goes on to do so, or it finds one, or it is over. -/
theorem Work.seeking (w : Work c x e f x' fs) (outset : Outset x (f ::ₘ N)) {h : Hop}
    (hf : f.seeking? = some h) (first : h.first = true) :
    x'.completed = true ∨ x'.destination.isSome = true ∨ ∃ g ∈ fs, g.seeking? = some h := by
  cases w with
  | sent | searches | passesOver | considers | noFlow =>
    all_goals exact .inr (.inr ⟨_, List.mem_singleton_self _, hf⟩)
  | @goesTo h' s known =>
    have role := (outset.first _ (Multiset.mem_cons_self ..) h' rfl (by cases hf; exact first)).2.1
    rcases known with ⟨-, hd⟩ | ⟨turn, -⟩
    · exact .inr (.inl (by rw [hd]; rfl))
    · cases role.symm.trans turn
  | @loses f h' err hop =>
    have same : h' = h := by
      cases f <;> first
        | exact Option.some.inj (hop.symm.trans hf)
        | exact absurd hop.symm (Option.some_ne_none _)
        | cases hf
    exact .inr (.inr ⟨_, List.mem_singleton_self _, congrArg some same⟩)
  | sendBack | strandWaiter | strand => all_goals exact .inl rfl
  | pins => exact .inr (.inl rfl)
  | ends subject mayEnd => cases f <;> first | exact absurd mayEnd Bool.false_ne_true | cases hf
  | _ => cases hf

/-- A turn works on a duty, or whatever looks for a slot goes on to do so. -/
theorem Turn.sought (t : Turn true e d x D x' D') :
    (∃ c f N, ∃ fs : List Frame, d = .work c f ∧ D = f ::ₘ N ∧ D' = fs + N ∧
        Work c x e f x' fs) ∨
      ∀ f ∈ D, f.seeking? ≠ none → f ∈ D' := by
  cases t with
  | work w => exact .inl ⟨_, _, _, _, rfl, rfl, rfl, w⟩
  | idle | elsewhere | elsewhereAnswer | create | change => all_goals exact .inr fun f hf _ => hf
  | send | sendSync => all_goals exact .inr fun f hf _ => Multiset.mem_cons_of_mem hf
  | deliver s wild => cases wild
  | delivers =>
    refine .inr fun f hf seeking => ?_
    rcases Multiset.mem_cons.1 hf with rfl | hf
    · exact absurd rfl seeking
    · exact Multiset.mem_cons_of_mem (Multiset.mem_cons_of_mem hf)
  | answer =>
    refine .inr fun f hf seeking => ?_
    rcases Multiset.mem_cons.1 hf with rfl | hf
    · exact absurd rfl seeking
    · exact hf
  | refuse =>
    refine .inr fun f hf seeking => ?_
    rcases Multiset.mem_cons.1 hf with rfl | hf
    · exact absurd rfl seeking
    · rcases Multiset.mem_cons.1 hf with rfl | hf
      · exact absurd rfl seeking
      · exact Multiset.mem_cons_of_mem hf

namespace Located

theorem work (located : Located x (f ::ₘ N)) (w : Work c x e f x' fs) (sound : Sound x (f ::ₘ N))
    (outset : Outset x (f ::ₘ N)) : Located x' (fs + N) := by
  have destination (hd : x.destination.isSome = true) : x'.destination.isSome = true := by
    rcases w.destination with same | ⟨h, target, s, rest, denied, -, -, rfl⟩
    · rwa [same]
    · rfl
  have found (source : x'.source = x.source) (hs : x'.source.isSome = true) :
      x'.completed = true ∨ x'.destination.isSome = true ∨
        ∃ g ∈ (fs + N : Multiset Frame), ∃ h, g.seeking? = some h ∧ h.first = true := by
    rcases located.found (source ▸ hs) with ended | found | ⟨g, hg, h, seeking, first⟩
    · exact .inl (w.keepsEnd ended)
    · exact .inr (.inl (destination found))
    · rcases Multiset.mem_cons.1 hg with rfl | hg
      · refine (w.seeking outset seeking first).imp_right (.imp_right fun ⟨g, hg, seeking⟩ => ?_)
        exact ⟨g, Multiset.mem_add.2 (.inl hg), h, seeking, first⟩
      · exact .inr (.inr ⟨g, Multiset.mem_add.2 (.inr hg), h, seeking, first⟩)
  have kept : ∀ g ∈ N, ∀ h, g.aloft? = some h → h.first = false →
      x'.destination.isSome = true := fun g hg h hh later =>
    destination (located.later g (Multiset.mem_cons_of_mem hg) h hh later)
  by_cases hf : f.carries = true
  · have forwards := w.forwards hf
    refine ⟨found forwards.source, fun g hg h hh later => ?_⟩
    rcases Multiset.mem_add.1 hg with hg | hg
    · exact destination (located.later f (Multiset.mem_cons_self ..) h
        (forwards.aloft g hg h hh).1 later)
    · exact kept g hg h hh later
  · rcases w.aside (eq_false_of_ne_true hf) with ⟨s, rfl, allowed, rfl, rfl⟩ |
      ⟨role, rfl, rfl, rfl⟩ | aside
    · -- a later send is accepted only when the first one has found its way
      have rest := (Exchange.checkSend_ok.1 allowed).1
      have landed (hs : x.source.isSome = true) : x.destination.isSome = true := by
        rcases located.found hs with ended | found | ⟨g, hg, h, seeking, -⟩
        · exact absurd (rest.going.symm.trans ended) Bool.false_ne_true
        · exact found
        · exact absurd ((sound.custody.carries_eq_false rest.arrived hg).symm.trans
            (Frame.carries_of_seeking? seeking)) Bool.false_ne_true
      refine ⟨fun _ => ?_, fun g hg h hh later => ?_⟩
      · by_cases hs : x.source.isSome = true
        · exact .inr (.inl (landed hs))
        · exact .inr (.inr ⟨_, Multiset.mem_add.2 (.inl (List.mem_singleton_self _)), _, rfl,
            Option.not_isSome_iff_eq_none.1 hs ▸ rfl⟩)
      · rcases Multiset.mem_add.1 hg with hg | hg
        · obtain rfl := List.mem_singleton.1 hg
          cases hh
          exact landed (Option.isNone_eq_false_iff.1 later)
        · exact kept g hg h hh later
    · refine ⟨found rfl, fun g hg => kept g ?_⟩
      simpa using hg
    · have aside := aside N
      refine ⟨found aside.source, fun g hg h hh later => ?_⟩
      obtain ⟨g', hg', follows⟩ := aside.duties g hg (.inl (Frame.carries_of_aloft? hh))
      exact destination (located.later g' hg' h (follows.aloft hh) later)

theorem aside (located : Located x D) (aside : Aside x D x' D')
    (stays : x.completed = true → x'.completed = true)
    (sought : ∀ f ∈ D, f.seeking? ≠ none → f ∈ D') : Located x' D' := by
  refine ⟨fun hs => ?_, fun g hg h hh later => ?_⟩
  · rw [aside.destination]
    rcases located.found (aside.source ▸ hs) with ended | found | ⟨g, hg, h, seeking, first⟩
    · exact .inl (stays ended)
    · exact .inr (.inl found)
    · exact .inr (.inr ⟨g, sought g hg (seeking ▸ Option.some_ne_none h), h, seeking, first⟩)
  · rw [aside.destination]
    obtain ⟨g', hg', follows⟩ := aside.duties g hg (.inl (Frame.carries_of_aloft? hh))
    exact located.later g' hg' h (follows.aloft hh) later

theorem turn (t : Turn true e d x D x' D') (sound : Sound x D) (outset : Outset x D)
    (located : Located x D) : Located x' D' := by
  rcases t.aside with ⟨_, _, _, _, -, rfl, rfl, w⟩ | aside
  · exact located.work w sound outset
  · rcases t.sought with ⟨_, _, _, _, -, rfl, rfl, w⟩ | sought
    · exact located.work w sound outset
    · exact located.aside aside t.keepsEnd sought

end Located

/-- In a tame run every exchange that has been sent has a destination, unless it is over or its
first send still looks for one. -/
theorem Run.located {config : Config} {h : History} {m : Machine} (run : Run config h m)
    (tame : Tame h) (e : ExchangeId) : Located (m.router.exchange e) (m.dutiesFor e) := by
  have start : Located default 0 :=
    ⟨fun hs => (by cases hs), fun f hf => absurd hf (Multiset.notMem_zero f)⟩
  exact (run.turns (P := fun x D => Sound x D ∧ Outset x D ∧ Located x D) e (fun _ => tame)
    ⟨sound_start, outset_start, start⟩ fun _ _ _ _ _ ⟨sound, outset, located⟩ t =>
      ⟨t.sound sound, outset.turn t sound, located.turn t sound outset⟩).2.2

/-! ## Later hops that find no way -/

/-- A later hop is lost only because no flow takes it: there is a slot to which it goes, and this
slot is still there. -/
theorem Run.reaching_of_lost {config : Config} {h : History} {m : Machine} (run : Run config h m)
    (tame : Tame h) {t : Nat} {f : Frame} {rest : List Frame} {o : Outcome} {hop : Hop}
    {err : RouterError} (hf : (m.task t).frames = f :: rest)
    (b : Frame.Becomes ⟨m.routerAlive, m.now, (m.task t).reply⟩ m.router f o)
    (ready : f.pending (m.task t).reply = f) (lost : .lost hop err ∈ o.frames)
    (later : hop.first = false) :
    ∃ s, f = .reaching hop s ∧ ∀ fl, (m.task t).reply ≠ .chosen (some fl) := by
  have mem : f ∈ (m.task t).frames := hf ▸ List.mem_cons_self
  have duty (routing : f.routing? = some hop) : f ∈ m.dutiesFor hop.exchange :=
    Machine.mem_dutiesFor_of_routing? mem routing
  have sound := run.sound tame hop.exchange
  have destination (routing : f.routing? = some hop) :
      (m.router.exchange hop.exchange).destination ≠ none :=
    Option.isSome_iff_ne_none.1 ((run.located tame hop.exchange).later f (duty routing) hop
      (Frame.aloft?_of_routing? routing) later)
  cases b
  case noWay h' err' unknown =>
    obtain ⟨rfl, -⟩ : hop = h' ∧ err = err' := by simpa [Outcome.frames] using lost
    rcases unknown with ⟨-, none⟩ | ⟨-, none⟩
    · exact absurd none (destination rfl)
    · have source := (sound.aloft _ (duty rfl) hop rfl).2.2
      rw [none] at source
      cases source
  case noCandidate h' target denied err' =>
    obtain ⟨rfl, -⟩ : hop = h' ∧ err = err' := by simpa [Outcome.frames] using lost
    exact absurd (sound.unpinned _ (duty rfl) rfl) (destination rfl)
  case gone h' s err' absent =>
    obtain ⟨rfl, -⟩ : hop = h' ∧ err = err' := by simpa [Outcome.frames] using lost
    exact absurd (absent.symm.trans ((run.keepsAccounts tame).reachable t hop s mem))
      Bool.false_ne_true
  case noFlowBack h' s err' none =>
    obtain ⟨rfl, -⟩ : hop = h' ∧ err = err' := by simpa [Outcome.frames] using lost
    exact ⟨s, rfl, none⟩
  case refused h' err' refused =>
    simp only at refused
    rw [refused] at ready
    cases ready
  case pins fl pinned | reaches fl chosen =>
    all_goals
      rw [Outcome.frames, List.mem_cons, List.mem_singleton] at lost
      obtain hl | hl := lost
      · unfold Frame.carryFrame at hl
        split at hl <;> cases hl
      · cases hl
  all_goals simp [Outcome.frames] at lost

/-! ## Flows that decline -/

section

variable (m : Machine) (mv : Move) (e : ExchangeId) (s : SlotId)

/-- It begins to be asked in a move which flow carries an exchange to a slot. -/
def Machine.AsksFlows : Prop :=
  ∃ c f hop, m.deed mv = .work c f ∧ hop.exchange = e ∧
    (f = .routeTo hop s ∨ ∃ target rest denied, f = .offer hop target (s :: rest) denied)

/-- A flow that has been asked whether it carries an exchange to a slot does not accept. -/
def Machine.Declines (fl : Flow) : Prop :=
  ∃ c rest, m.deed mv = .work c (.asking e s fl rest) ∧ c.reply ≠ .answer true

/-- Of the flows that the router had when they began to be asked all but the last ones have declined
since. -/
def AskedBut (last : List Flow) (h : History) : Prop :=
  ∃ h₂ q h₁ declined, h = h₂ ++ q :: h₁ ∧ q.1.AsksFlows q.2 e s ∧
    q.1.router.flows = declined ++ last ∧ ∀ fl ∈ declined, ∃ q' ∈ h₂, q'.1.Declines q'.2 e s fl

/-- No flow accepts an exchange for a slot: all that the router had when they began to be asked have
declined since. -/
def Declined (h : History) : Prop := AskedBut e s [] h

end

namespace Frame

/-- What flows are still to be asked about, and which. -/
def asking? : Frame → Option ((ExchangeId × SlotId) × List Flow)
  | .choose e s flows => some ((e, s), flows)
  | .asking e s fl rest => some ((e, s), fl :: rest)
  | _ => none

theorem reached?_carryFrame (fl : Flow) (h : Hop) (s : SlotId) :
    (carryFrame fl h s).reached? = none := by
  unfold carryFrame
  split <;> rfl

end Frame

theorem AskedBut.cons {e : ExchangeId} {s : SlotId} {last : List Flow} {h : History}
    (asked : AskedBut e s last h) (q : Machine × Move) : AskedBut e s last (q :: h) := by
  obtain ⟨h₂, q', h₁, declined, rfl, asks, flows, each⟩ := asked
  exact ⟨q :: h₂, q', h₁, declined, rfl, asks, flows, fun fl hfl =>
    (each fl hfl).imp fun q hq => ⟨List.mem_cons_of_mem _ hq.1, hq.2⟩⟩

/-- One more flow declines. -/
theorem AskedBut.declines {e : ExchangeId} {s : SlotId} {fl : Flow} {last : List Flow}
    {h : History} {m : Machine} {mv : Move} (asked : AskedBut e s (fl :: last) h)
    (declines : m.Declines mv e s fl) : AskedBut e s last ((m, mv) :: h) := by
  obtain ⟨h₂, q, h₁, declined, rfl, asks, flows, each⟩ := asked
  refine ⟨(m, mv) :: h₂, q, h₁, declined ++ [fl], rfl, asks, ?_, fun fl' hfl => ?_⟩
  · rw [flows, List.append_assoc, List.singleton_append]
  · rcases List.mem_append.1 hfl with hfl | hfl
    · obtain ⟨q', hq', declines⟩ := each fl' hfl
      exact ⟨q', List.mem_cons_of_mem _ hq', declines⟩
    · obtain rfl := List.mem_singleton.1 hfl
      exact ⟨(m, mv), List.mem_cons_self, declines⟩

/-- Flows are asked in turn, from the first that the router has. -/
theorem Run.askedBut {config : Config} {h : History} {m : Machine} (run : Run config h m) :
    ∀ f ∈ m.duties, ∀ a, f.asking? = some a → AskedBut a.1.1 a.1.2 a.2 h := by
  refine run.traced Frame.asking? (fun h a => AskedBut a.1.1 a.1.2 a.2 h) ?_ (fun c => rfl)
    (fun h err => rfl) (fun q h a asked => asked.cons q) ?_
  · intro f request
    cases f <;> first | rfl | cases request
  · intro h m mv c f o run hd before b g hg a ha
    have begins {hop : Hop} {s : SlotId} (asks : m.AsksFlows mv hop.exchange s) :
        AskedBut hop.exchange s m.router.flows ((m, mv) :: h) :=
      ⟨[], (m, mv), h, [], rfl, asks, rfl, fun fl hfl => by cases hfl⟩
    replace ha : a ∈ o.frames.filterMap Frame.asking? := List.mem_filterMap.2 ⟨g, hg, ha⟩
    clear hg
    cases b
    case considers hop target s rest denied _ _ _ =>
      obtain rfl : a = ((hop.exchange, s), m.router.flows) := by
        simpa [Outcome.frames, Frame.asking?] using ha
      exact begins ⟨c, _, hop, hd, rfl, .inr ⟨target, rest, denied, rfl⟩⟩
    case seeks hop s _ =>
      obtain rfl : a = ((hop.exchange, s), m.router.flows) := by
        simpa [Outcome.frames, Frame.asking?] using ha
      exact begins ⟨c, _, hop, hd, rfl, .inl rfl⟩
    case asks e s fl rest =>
      obtain rfl : ((e, s), fl :: rest) = a := by
        simpa [Outcome.frames, Frame.asking?] using ha
      exact (before _ rfl).cons _
    case declines e s fl rest refused =>
      obtain rfl : a = ((e, s), rest) := by
        simpa [Outcome.frames, Frame.asking?] using ha
      exact AskedBut.declines (before _ rfl) ⟨c, rest, hd, refused⟩
    case pins | reaches =>
      all_goals
        rw [Outcome.frames, Frame.filterMap_carryFrame rfl (fun _ => rfl) rfl] at ha
        cases ha
    all_goals simp [Outcome.frames, Frame.asking?] at ha

/-- No step begins with a hop that waits for a flow. -/
theorem Frame.Becomes.reached {c : Context} {r : Router} {f : Frame} {o : Outcome}
    (b : Becomes c r f o) : ∀ g ∈ o.above.head?, g.reached? = none := by
  cases b
  case pins | reaches => all_goals simp [Outcome.above, reached?_carryFrame]
  all_goals simp [Outcome.above, reached?]

/-- A hop that has a slot to go to hears of a flow, or no flow accepts. -/
theorem Run.declined {config : Config} {h : History} {m : Machine} (run : Run config h m)
    (tame : Tame h) (observed : Observed h) :
    ∀ t hop s rest, (m.task t).frames = .reaching hop s :: rest →
      (∃ fl, (m.task t).reply = .chosen (some fl)) ∨ Declined hop.exchange s h := by
  obtain ⟨r, hr, p⟩ := run
  induction p with
  | nil =>
    intro t hop s rest hf
    rcases t with _ | t <;> cases hf
  | @cons h m m' mv p hm ih =>
    have run : Run config h m := ⟨r, hr, p⟩
    have tiered := run.tiered tame.tail observed.tail
    refine Machine.stacks_of_move (P := fun frames reply => ∀ hop s rest,
      frames = .reaching hop s :: rest →
        (∃ fl, reply = .chosen (some fl)) ∨ Declined hop.exchange s ((m, mv) :: h)) hm
      (fun t hop s rest hf =>
        (ih tame.tail observed.tail t hop s rest hf).imp_right fun d => d.cons _)
      (fun hop s rest hf => by cases hf) ?_ ?_ ?_
    · intro t f rest o hf b
      refine ⟨fun hop s rest' he => ?_, fun hop s rest' he => by cases b <;> cases he⟩
      rcases ha : o.above with _ | ⟨g, above⟩
      · rw [ha, List.nil_append] at he
        subst he
        have : Engine.Tiered (f :: .reaching hop s :: rest') := hf ▸ tiered t
        have asks := this.1.asks _ rfl
        cases f with
        | choose e s flows =>
          cases asks
          cases b with
          | chosen fl last =>
            cases fl with
            | some fl => exact .inl ⟨fl, rfl⟩
            | none =>
              obtain rfl := last rfl
              have mem : .choose hop.exchange s [] ∈ m.duties :=
                Machine.mem_duties (hf ▸ List.mem_cons_self) fun _ h => by cases h
              exact .inr ((run.askedBut _ mem _ rfl).cons _)
          | asks => cases ha
        | asking e s fl rest =>
          cases b with
          | accepts => exact .inl ⟨fl, rfl⟩
          | declines => cases ha
        | _ => cases asks
      · rw [ha] at he
        obtain ⟨rfl, -⟩ := List.cons.inj he
        have := b.reached (.reaching hop s) (by rw [ha]; rfl)
        cases this
    · rintro t f c rest - request hf hop s rest' he
      obtain ⟨rfl, -⟩ := List.cons.inj he
      cases request
    · intro t reply c rest hf hop s rest' he
      subst he
      have : Engine.Tiered (.call c :: .reaching hop s :: rest') := hf ▸ tiered t
      cases this.1.asks _ rfl

end MessageRouter.Engine
