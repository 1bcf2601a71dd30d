import MessageRouter.Proofs.LaterHops
import MessageRouter.Proofs.Registrations
import MessageRouter.Proofs.Stations

/-!
# What a listener is told of an exchange

A listener that is registered all along is told of every send of an exchange and then of its
delivery, unless no flow takes a later send; and what has been delivered is given to somebody before
anything else happens to it.  `Run.station` says how far an exchange has come after a run, and
`Run.recounts_of_orderly` what a listener has been told by then.
-/

namespace MessageRouter.Engine

/-! ## Runs -/

/-- Flows have every exchange that they carry delivered exactly once, and return the result. -/
def Faithful (h : History) : Prop := Tame h ∧ ∀ q ∈ h, (q.1.deed q.2).keepsFaith = true

theorem Faithful.tail {q : Machine × Move} {h : History} (faithful : Faithful (q :: h)) :
    Faithful h :=
  ⟨faithful.1.tail, fun p hp => faithful.2 p (List.mem_cons_of_mem q hp)⟩

/-- A thread of the application appears. -/
def Move.isFork : Move → Bool
  | .fork => true
  | _ => false

/-- No thread appears beside the first one of the application. -/
def Unforked (h : History) : Prop := ∀ q ∈ h, q.2.isFork = false

/-- No task sends an exchange that another one is still about to give to somebody. -/
def Unhurried (e : ExchangeId) (h : History) : Prop :=
  ∀ q ∈ h, ∀ t, q.2 = .advance t → (q.1.accepted? e q.2).isSome = true →
    ∀ u, u ≠ t → ∀ f ∈ (q.1.task u).frames, f.handed? ≠ some e

variable {config : Config} {h : History} {m m' : Machine} {mv : Move} {l : String}
  {e : ExchangeId}

/-- Nobody has an exchange when a send of it is accepted. -/
theorem Run.alone_of_accept (run : Run config h m) (tame : Tame h) (observed : Observed h)
    {t : Nat} (unhurried : Unhurried e ((m, .advance t) :: h)) (hm : m.move? (.advance t) = some m')
    {s : SlotId} {rest : List Frame} {N : Multiset Frame}
    (hf : (m.task t).frames = .accept s e :: rest) (hd : m.duties = .accept s e ::ₘ N)
    (accepted : (m.router.accept e s).1.isOk = true) :
    (m.router.exchange e).completed = false ∧ count (Frame.brings e) N = 0 ∧
      count (Frame.wakes e) N + count (Frame.enters e) N = 0 := by
  have deed := Machine.deed_advance hf
  obtain ⟨-, allowed, -⟩ | ⟨refused, -⟩ := Machine.exchange_of_accept hm deed
  · have atRest := (Exchange.checkSend_ok.1 allowed).1
    have mem {g : Frame} (hg : g ∈ N) : g ∈ m.duties := hd ▸ Multiset.mem_cons_of_mem hg
    have handed {g : Frame} (hg : g ∈ N) : g.handed? ≠ some e := by
      intro handed
      obtain ⟨u, hu | ⟨hop, err, rfl, -⟩⟩ := Machine.exists_frame_of_mem (mem hg)
      · by_cases htu : u = t
        · -- what stands below a send is not about to give anything to anybody
          subst htu
          have tiered : Tiered (.accept s e :: rest) := hf ▸ run.tiered tame observed u
          rw [hf] at hu
          rcases List.mem_cons.1 hu with rfl | hu
          · cases handed
          · cases (tiered.below rfl rfl g hu).2.2.symm.trans handed
        · refine unhurried _ List.mem_cons_self t rfl ?_ u htu g hu handed
          simp [Machine.accepted?, deed, accepted]
      · cases handed
    refine ⟨atRest.going, count_eq_zero.2 fun g hg => ?_, ?_⟩
    · by_contra brings
      obtain ⟨carries, about⟩ := Bool.and_eq_true_iff.1 (eq_true_of_ne_false brings)
      exact absurd ((run.sound tame e).custody.carries_eq_false atRest.arrived
        (Multiset.mem_filter.2 ⟨mem hg, about⟩)) (ne_false_of_eq_true carries)
    · have waking : count (Frame.wakes e) N = 0 := count_eq_zero.2 fun g hg =>
        eq_false_of_ne_true fun wakes => handed hg (Frame.handed?_eq_some.2 (.inl wakes))
      have entering : count (Frame.enters e) N = 0 := count_eq_zero.2 fun g hg =>
        eq_false_of_ne_true fun enters => handed hg (Frame.handed?_eq_some.2 (.inr enters))
      rw [waking, entering]
  · exact absurd (refused.symm.trans accepted) Bool.false_ne_true

/-- What happens to an exchange in a move. -/
theorem Run.leg (run : Run config h m) (faithful : Faithful ((m, mv) :: h))
    (observed : Observed h) (attends : ∀ event, Attends l event e ((m, mv) :: h))
    (unhurried : Unhurried e ((m, mv) :: h)) (hm : m.move? mv = some m') :
    Leg (m.router.exchange e).completed (m'.router.exchange e).completed (tally l e m.duties)
      ((m.deed mv).sight? l e) (tally l e m'.duties) := by
  have tame : Tame h := faithful.1.tail
  have tiered := run.tiered tame observed
  by_cases work : ∃ c f, m.deed mv = .work c f
  · obtain ⟨c, f, deed⟩ := work
    obtain ⟨t, rest, rfl, hf⟩ := Machine.exists_advance deed
    obtain ⟨f', rest', o, hf', b, rfl⟩ := Machine.exists_becomes hm
    obtain ⟨rfl, rfl⟩ := List.cons.inj (hf.symm.trans hf')
    have attends := fun event => attends event _ List.mem_cons_self
    rw [Machine.deed_advance hf] at attends ⊢
    obtain ⟨N, -, hd, hd', hr⟩ := Machine.duties_settle run.stacked hf b
    rw [hd, hd', hr]
    by_cases ready : f.pending (m.task t).reply = f
    · rw [ready]
      refine b.leg ready (fun delivery => ?_) attends (tiered.heralded hf hd rfl) ?_ ?_
      · cases f with
        | deliver s e' => exact tiered.alive run.stacked hf
        | _ => cases delivery
      · rintro s rfl accepted
        exact run.alone_of_accept tame observed unhurried hm hf (ready ▸ hd) accepted
      · intro hop err lost he later
        obtain ⟨s, rfl, unchosen⟩ := run.reaching_of_lost tame hf b ready lost later
        exact ⟨Reply.choice?_eq_none.2 unchosen, s, rfl⟩
    · -- a hop learns of a refusal that counts as its duty already
      obtain ⟨hop, err, rfl, hreply⟩ := Frame.eq_routed_of_pending ready
      rw [hreply] at b ⊢
      cases b with
      | refused hc =>
        cases hc
        exact .of_eq rfl
      | ended hc => cases hc
      | passed hc => cases hc
  · have effect : Effect true _ _ _ _ _ := Machine.effect_of_move run.stacked
      (fun _ => faithful.1 _ List.mem_cons_self) hm
    have unseen : (m.deed mv).sight? l e = none := by
      cases hd : m.deed mv with
      | work c f => exact absurd ⟨c, f, hd⟩ work
      | _ => rfl
    rw [unseen]
    exact .of_eq (effect.tally_eq (fun c f hd => work ⟨c, f, hd⟩)
      (faithful.2 _ List.mem_cons_self))

/-- Under synchronous delivery there is one task as long as no other thread appears. -/
theorem Run.size_eq_one (run : Run config h m) (sync : config.syncDelivery = true)
    (unforked : Unforked h) : m.tasks.size = 1 := by
  obtain ⟨r, hr, p⟩ := run
  induction p with
  | nil => rfl
  | @cons h m m' mv p hm ih =>
    have run : Run config h m := ⟨r, hr, p⟩
    have one := ih fun q hq => unforked q (List.mem_cons_of_mem _ hq)
    have kept (m : Machine) (one : m.tasks.size = 1) {t : Nat} (ht : t < 1) (task : Task) :
        (m.setTask t task).tasks.size = 1 := by
      rw [Machine.size_setTask]
      omega
    have below {t : Nat} {f : Frame} {rest : List Frame} (hf : (m.task t).frames = f :: rest) :
        t < 1 := one ▸ Machine.lt_size_of_frames (by rw [hf]; exact List.cons_ne_nil f rest)
    cases mv with
    | advance t =>
      obtain ⟨f, rest, o, hf, b, rfl⟩ := Machine.exists_becomes hm
      cases o with
      | blocked => cases b
      | next fs r => exact kept { m with router := r } one (below hf) _
      | through reply r => exact kept { m with router := r } one (below hf) _
      | spawn lane fs r =>
        cases b with
        | leaves lane apart busy =>
          rw [run.setup.1, sync, Bool.or_true] at apart
          cases apart
    | request t f =>
      obtain ⟨⟨call, -⟩, rfl⟩ := Machine.request_of_move hm
      obtain ⟨c, rest, hf⟩ := Machine.exists_call call
      exact kept m one (below hf) _
    | answer t reply =>
      obtain ⟨call, rfl⟩ := Machine.finish_of_move hm
      obtain ⟨c, rest, hf⟩ := Machine.exists_call call
      exact kept m one (below hf) _
    | operate | elapse => all_goals exact Option.some.inj hm ▸ one
    | fork => cases unforked _ List.mem_cons_self

theorem Run.size_of_mem {q : Machine × Move} (run : Run config h m)
    (sync : config.syncDelivery = true) (unforked : Unforked h) (hq : q ∈ h) :
    q.1.tasks.size = 1 := by
  obtain ⟨h₁, h₂, rfl⟩ := List.append_of_mem hq
  exact run.before.size_eq_one sync fun q hq =>
    unforked q (List.mem_append_right _ (List.mem_cons_of_mem _ hq))

/-- Under synchronous delivery nobody is in a hurry as long as no other thread appears. -/
theorem Run.unhurried (run : Run config h m) (sync : config.syncDelivery = true)
    (unforked : Unforked h) (e : ExchangeId) : Unhurried e h := by
  intro q hq t ht accepted u hu f hf
  have one := run.size_of_mem sync unforked hq
  have below {v : Nat} {g : Frame} (hg : g ∈ (q.1.task v).frames) : v < 1 :=
    one ▸ Machine.lt_size_of_frames (List.ne_nil_of_mem hg)
  have top : ∃ g, g ∈ (q.1.task t).frames := by
    unfold Machine.accepted? at accepted
    split at accepted
    · rename_i c s e' hd
      obtain ⟨t', rest, ht', hf⟩ := Machine.exists_advance hd
      cases ht.symm.trans ht'
      exact ⟨_, hf ▸ List.mem_cons_self⟩
    · cases accepted
  obtain ⟨g, hg⟩ := top
  have := below hg
  have := below hf
  omega

/-- How far an exchange has come. -/
theorem Run.station (run : Run config h m) (faithful : Faithful h) (observed : Observed h)
    (attends : ∀ event, Attends l event e h) (unhurried : Unhurried e h) :
    Station (m.router.exchange e).completed (tally l e m.duties) (sights l e h) := by
  obtain ⟨r, hr, p⟩ := run
  induction p with
  | nil => exact .rests .nil
  | @cons h m m' mv p hm ih =>
    have run : Run config h m := ⟨r, hr, p⟩
    have station := ih faithful.tail observed.tail (fun event => (attends event).tail) fun q hq =>
      unhurried q (List.mem_cons_of_mem _ hq)
    have turn : Turn false e _ _ _ _ _ :=
      Machine.turn_of_move run.stacked (fun h => by cases h) hm e
    rw [sights_cons]
    exact station.leg (run.leg faithful observed.tail attends unhurried hm) turn.keepsEnd

/-! ## What is told of an exchange -/

/-- What a listener has been told of sends and deliveries, the earliest first. -/
def heard (T : List Sight) : List ExchangeEvent := T.reverse.filterMap Sight.event?

/-- So many sends, each with its delivery. -/
def laps (n : Nat) : List ExchangeEvent := (List.replicate n [.sent, .delivered]).flatten

theorem laps_succ (n : Nat) : laps (n + 1) = laps n ++ [.sent, .delivered] := by
  rw [laps, List.replicate_succ', List.flatten_append, laps]
  rfl

theorem heard_append (S T : List Sight) : heard (S ++ T) = heard T ++ heard S := by
  rw [heard, List.reverse_append, List.filterMap_append, heard, heard]

theorem Rounds.heard {T : List Sight} (past : Rounds T) : ∃ n, heard T = laps n := by
  induction past with
  | nil => exact ⟨0, rfl⟩
  | @released T past ih | @processed T past ih =>
    all_goals
      obtain ⟨n, hn⟩ := ih
      refine ⟨n + 1, ?_⟩
      rw [laps_succ, ← hn]
      exact heard_append [_, .delivered, .sent] T

/-- Sends and deliveries alternate, and a send comes first. -/
theorem Journey.heard {T : List Sight} (journey : Journey T) :
    ∃ n, heard T = laps n ∨ heard T = laps n ++ [.sent] := by
  have unpaired {T : List Sight} (past : Rounds T) (S : List Sight)
      (hS : Engine.heard S = [.sent]) : ∃ n, Engine.heard (S ++ T) = laps n ∨
        Engine.heard (S ++ T) = laps n ++ [.sent] := by
    obtain ⟨n, hn⟩ := past.heard
    exact ⟨n, .inr (by rw [heard_append, hn, hS])⟩
  cases journey with
  | complete complete =>
    cases complete with
    | rounds past => exact past.heard.imp fun n => .inl
    | vain past => exact unpaired past [.vain, .sent] rfl
    | released past => exact unpaired past [.released, .vain, .sent] rfl
  | sent past => exact unpaired past [.sent] rfl
  | @delivered T past =>
    obtain ⟨n, hn⟩ := past.heard
    exact ⟨n + 1, .inl (by rw [laps_succ, ← hn]; exact heard_append [.delivered, .sent] T)⟩

theorem isSome_accepted? (m : Machine) (mv : Move) (e : ExchangeId) :
    (m.accepted? e mv).isSome = (m.deed mv).raises .sent e m.router := by
  unfold Machine.accepted?
  split
  · rename_i c s e' hd
    rw [hd]
    by_cases he : e' = e <;> by_cases hr : (m.router.accept e s).1.isOk <;>
      simp_all [Deed.raises]
  · rename_i hd
    cases hm : m.deed mv with
    | work c f =>
      cases f with
      | accept s e' => exact absurd hm (hd c s e')
      | _ => rfl
    | _ => rfl

/-- A send is raised every time that one is accepted. -/
theorem raised_sent (e : ExchangeId) (h : History) : raised .sent e h = (sendings e h).length := by
  rw [sendings, List.length_filterMap_eq_countP, raised]
  exact List.countP_congr fun q _ => by rw [isSome_accepted?]

theorem sight?_eq_sent (l : String) (e : ExchangeId) (d : Deed) :
    d.sight? l e = some .sent ↔ d.tells .sent e l = true := by
  cases d with
  | work c f =>
    cases f with
    | notify event e' ls =>
      cases ls with
      | nil => simp [Deed.sight?, Deed.tells]
      | cons l' ls => cases event <;> simp [Deed.sight?, Deed.tells, Sight.ofEvent?]
    | wake | enter | reaching => all_goals simp [Deed.sight?, Deed.tells]
    | _ => simp [Deed.sight?, Deed.tells]
  | _ => simp [Deed.sight?, Deed.tells]

theorem told_sent (l : String) (e : ExchangeId) (h : History) :
    told l .sent e h = (sights l e h).count .sent := by
  rw [sights, List.count_filterMap, told]
  exact List.countP_congr fun q _ => by rw [beq_iff_eq, sight?_eq_sent]

/-- Nobody has an exchange: it is not on its way, nor about to be given to anybody. -/
def Machine.Rests (m : Machine) (e : ExchangeId) : Prop :=
  ∀ f ∈ m.duties, f.brings e = false ∧ f.handed? ≠ some e

theorem work_of_vain {d : Deed} (vain : d.sight? l e = some .vain) :
    ∃ c hop s, d = .work c (.reaching hop s) ∧ hop.exchange = e ∧ hop.first = false ∧
      c.reply.choice? = none := by
  cases d with
  | work c f =>
    cases f with
    | notify event e' ls =>
      cases ls with
      | nil => simp [Deed.sight?] at vain
      | cons l' ls => cases event <;> simp [Deed.sight?, Sight.ofEvent?] at vain
    | wake | enter => all_goals simp [Deed.sight?] at vain
    | reaching hop s =>
      simp only [Deed.sight?, Option.ite_none_right_eq_some] at vain
      exact ⟨c, hop, s, rfl, vain.1⟩
    | _ => simp [Deed.sight?] at vain
  | _ => simp [Deed.sight?] at vain

/-- What a listener is told recounts how an exchange has fared. -/
structure Machine.Recounts (m : Machine) (l : String) (e : ExchangeId) (h : History) : Prop where
  /-- Sends and deliveries alternate, and a send comes first. -/
  alternates : ∃ n, heard (sights l e h) = laps n ∨ heard (sights l e h) = laps n ++ [.sent]
  /-- The listener is told of every send that is accepted. -/
  counted : (sights l e h).count .sent + toTell l .sent e m.duties = (sendings e h).length
  /-- After a delivery there is one release of a party that waits, or one call of an owner, before
  anything else is seen. -/
  journey : Journey (sights l e h)
  /-- When nobody has the exchange every send has been delivered, but for a last one in vain. -/
  complete : m.Rests e → Complete (sights l e h) ∧ toTell l .sent e m.duties = 0
  /-- A send in vain is a later one that no flow accepts. -/
  declined : ∀ h₁ q h₂, h = h₁ ++ q :: h₂ → (q.1.deed q.2).sight? l e = some .vain →
    ∃ c hop s, q.1.deed q.2 = .work c (.reaching hop s) ∧ hop.exchange = e ∧ hop.first = false ∧
      Declined e s h₂

theorem Run.declined_of_vain (run : Run config h m) (tame : Tame h) (observed : Observed h)
    (vain : (m.deed mv).sight? l e = some .vain) :
    ∃ c hop s, m.deed mv = .work c (.reaching hop s) ∧ hop.exchange = e ∧ hop.first = false ∧
      Declined e s h := by
  obtain ⟨c, hop, s, hd, rfl, later, unchosen⟩ := work_of_vain vain
  refine ⟨c, hop, s, hd, rfl, later, ?_⟩
  obtain ⟨t, rest, rfl, hf⟩ := Machine.exists_advance hd
  rcases run.declined tame observed t hop s rest hf with ⟨fl, chosen⟩ | declined
  · rw [Machine.deed_advance hf] at hd
    cases hd
    cases (congrArg Reply.choice? chosen).symm.trans unchosen
  · exact declined

/-- A listener that is registered all along is told how an exchange fares if flows have every
exchange delivered once, listeners only look on, and deliveries are synchronous.  With more threads
than one, or if deliveries are not synchronous, it is told in this order as long as nobody sends the
exchange while somebody else is still about to give it away. -/
theorem Run.recounts_of_orderly (run : Run config h m) (faithful : Faithful h)
    (observed : Observed h) (attends : ∀ event, Attends l event e h)
    (orderly : config.syncDelivery = true ∧ Unforked h ∨ Unhurried e h) : m.Recounts l e h := by
  have unhurried : Unhurried e h := orderly.elim (fun alone => run.unhurried alone.1 alone.2 e) id
  have station := run.station faithful observed attends unhurried
  constructor
  case alternates => exact station.journey.heard
  case counted =>
    obtain ⟨r, -, p⟩ := run
    have told := p.told_eq (Machine.stacked_ofRouter r) (attends .sent)
    rw [told_sent, raised_sent] at told
    exact told
  case journey => exact station.journey
  case complete =>
    intro rests
    have none {p : Frame → Bool} (hp : ∀ f, p f = true → f.handed? = some e) :
        count p m.duties = 0 :=
      count_eq_zero.2 fun f hf => eq_false_of_ne_true fun h => (rests f hf).2 (hp f h)
    exact station.complete (count_eq_zero.2 fun f hf => (rests f hf).1)
      (none fun f h => Frame.handed?_eq_some.2 (.inl h))
      (none fun f h => Frame.handed?_eq_some.2 (.inr h))
  case declined =>
    rintro h₁ q h₂ rfl vain
    have earlier : ∀ q' ∈ h₂, q' ∈ h₁ ++ q :: h₂ := fun q' hq =>
      List.mem_append_right _ (List.mem_cons_of_mem _ hq)
    exact run.before.declined_of_vain (fun q' hq => faithful.1 q' (earlier q' hq))
      (fun q' hq => observed q' (earlier q' hq)) vain

/-- A flow carries the exchange to the endpoint, which answers it; the flow declines the answer. -/
def Cue.declinedAnswer : List Cue :=
  opening .inOut ++ [listen, operate (.setFlows [⟨some "flow", .custom, ∅⟩]),
    request 0 (.send ⟨1⟩ ⟨0⟩)] ++ hears ++
    [runs 0, answer 0 (.answer true), runs 0, request 0 (.deliver ⟨0⟩ ⟨0⟩)] ++ hears ++ [runs 0] ++
    answering 0 ++ [answer 0 .done, runs 0, answer 0 (.answer false)] ++ hears ++
    [runs 0, answer 0 .done, runs 0, answer 0 .done, runs 0]

/-- Flows keep faith and listeners look on, and the one that is meant is registered whenever there
is something to tell it. -/
def Machine.minds (l : String) (e : ExchangeId) (q : Machine × Move) : Bool :=
  q.1.isTame q.2 && (q.1.deed q.2).keepsFaith && q.1.observes q.2 &&
    [.sent, .delivered, .failed].all fun event =>
      !(q.1.deed q.2).announces event e || q.1.hearings l == 1

theorem faithful_of_minds (minds : ∀ q ∈ h, Machine.minds l e q = true) :
    Faithful h ∧ Observed h ∧ ∀ event, Attends l event e h := by
  simp only [Machine.minds, Bool.and_eq_true, List.all_eq_true, Bool.or_eq_true,
    Bool.not_eq_true', beq_iff_eq] at minds
  refine ⟨⟨fun q hq => (minds q hq).1.1.1, fun q hq => (minds q hq).1.1.2⟩,
    fun q hq => (minds q hq).1.2, fun event q hq announces => ?_⟩
  have listed : event ∈ [.sent, .delivered, .failed] := by cases event <;> decide
  exact ((minds q hq).2 event listed).resolve_left fun silent =>
    Bool.false_ne_true (silent.symm.trans announces)

theorem Run.recounts_of_orderly_declinedAnswer : ∃ h m, Run { syncDelivery := true } h m ∧
    Faithful h ∧ Observed h ∧ (∀ event, Attends "listener" event ⟨0⟩ h) ∧ Unforked h ∧
    sights "listener" ⟨0⟩ h = [.vain, .sent, .processed, .delivered, .sent] ∧
    m.Recounts "listener" ⟨0⟩ h := by
  obtain ⟨h, m, p, hq⟩ := Path.exists_of_enact .synchronous Cue.declinedAnswer
    (fun p => p.1.all (Machine.minds "listener" ⟨0⟩) && p.1.all (!·.2.isFork) &&
      sights "listener" ⟨0⟩ p.1 == [.vain, .sent, .processed, .delivered, .sent]) (by rfl)
  simp only [Bool.and_eq_true, List.all_eq_true, Bool.not_eq_true', beq_iff_eq] at hq
  obtain ⟨⟨minds, unforked⟩, seen⟩ := hq
  obtain ⟨faithful, observed, attends⟩ := faithful_of_minds minds
  exact ⟨h, m, p.runSynchronous, faithful, observed, attends, unforked, seen,
    p.runSynchronous.recounts_of_orderly faithful observed attends (.inl ⟨rfl, unforked⟩)⟩

/-- While the first thread has still to tell that the exchange is delivered, another one answers
it. -/
def Cue.hurriedAnswer : List Cue :=
  opening .inOut ++ [listen, request 0 (.send ⟨1⟩ ⟨0⟩)] ++ hears ++
    [halts 0 (.announces .delivered), fork] ++ answering 1

theorem laps_ne_of_sent_sent (n : Nat) :
    laps n ≠ [.sent, .sent] ∧ laps n ++ [.sent] ≠ [.sent, .sent] := by
  rcases n with _ | _ | n
  · exact ⟨by decide, by decide⟩
  · exact ⟨by decide, by decide⟩
  · have shape : laps (n + 2) = .sent :: .delivered :: .sent :: .delivered :: laps n := rfl
    exact ⟨by rw [shape]; simp, by rw [shape]; simp⟩

/-- A listener that is told by two threads, one of which is in a hurry, is not told in order:
deliveries are synchronous, but not all is as it should be. -/
theorem Run.heard_hurriedAnswer : ∃ h m, Run { syncDelivery := true } h m ∧ Faithful h ∧
    Observed h ∧ (∀ event, Attends "listener" event ⟨0⟩ h) ∧
    heard (sights "listener" ⟨0⟩ h) = [.sent, .sent] ∧ ¬m.Recounts "listener" ⟨0⟩ h := by
  obtain ⟨h, m, p, hq⟩ := Path.exists_of_enact .synchronous Cue.hurriedAnswer
    (fun p => p.1.all (Machine.minds "listener" ⟨0⟩) &&
      heard (sights "listener" ⟨0⟩ p.1) == [.sent, .sent]) (by rfl)
  simp only [Bool.and_eq_true, List.all_eq_true, beq_iff_eq] at hq
  obtain ⟨minds, heard⟩ := hq
  obtain ⟨faithful, observed, attends⟩ := faithful_of_minds minds
  refine ⟨h, m, p.runSynchronous, faithful, observed, attends, heard, fun recounts => ?_⟩
  obtain ⟨n, laps | laps⟩ := recounts.alternates
  · exact (laps_ne_of_sent_sent n).1 (laps.symm.trans heard)
  · exact (laps_ne_of_sent_sent n).2 (laps.symm.trans heard)

end MessageRouter.Engine
