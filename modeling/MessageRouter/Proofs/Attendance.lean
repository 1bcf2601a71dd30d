import MessageRouter.Proofs.Parties

/-!
# Who is given an exchange

An exchange is handed only to its source and its destination, to each of them in its turn as long
as nobody interferes between the send and its arrival.  The parties themselves are settled early:
the source and the target with the first send, the destination once, when a search finds it
(`Run.hasParty_of_enter`).
-/

namespace MessageRouter

namespace Engine

variable {e : ExchangeId} {d : Deed} {f g : Frame} {x x' : Exchange} {D D' : Multiset Frame}
  {s : SlotId}

/-! ## Interference -/

/-- A party that has waited for the other one takes an exchange back. -/
def Deed.takesBack (e : ExchangeId) : Deed → Bool
  | .work _ (.woken e' _) => e' == e
  | _ => false

/-- Since the last accepted send of an exchange, no party that has waited has taken it back. -/
def LeftAlone (e : ExchangeId) (h : History) : Prop :=
  ∀ q ∈ h.takeWhile (fun q => (q.1.accepted? e q.2).isNone), (q.1.deed q.2).takesBack e = false

/-- Nobody interferes with the parties of an exchange. -/
def Unhindered (e : ExchangeId) (h : History) : Prop := AnswersTaken e h ∨ LeftAlone e h

section

variable {m m' : Machine} {mv : Move} {h : History} {config : Config}

theorem LeftAlone.of_cons (left : LeftAlone e ((m, mv) :: h)) (none : m.accepted? e mv = none) :
    (m.deed mv).takesBack e = false ∧ LeftAlone e h := by
  simpa [LeftAlone, List.takeWhile_cons, none] using left

/-- As long as all answers are taken in time, nobody has one left when a send is accepted. -/
theorem Conversing.handed_eq_zero (conversing : Conversing e h x (m.dutiesFor e))
    (hx : m.router.exchange e = x) (allowed : x.checkSend s = .ok ())
    (taken : AnswersTaken e h) (free : ¬m.HandedOver e .consumer) (r : Role) :
    handed r x (m.dutiesFor e) = 0 := by
  cases r with
  | consumer =>
    rw [Machine.handedOver_iff, hx] at free
    exact not_not.1 free
  | provider =>
    have going := (Exchange.checkSend_ok.1 allowed).1.going
    have stands := conversing.stands (conversing.conversation.2 taken)
    exact (stands.resolve_left fun hc => Bool.false_ne_true (going.symm.trans hc)).1

/-- What is known of the parties to an exchange after the moves of a history. -/
structure Escorted (e : ExchangeId) (h : History) (x : Exchange) (D : Multiset Frame) : Prop where
  conversing : Conversing e h x D
  sound : Sound x D
  outset : Outset x D
  parties : Parties x D
  inTurn : InTurn (Unhindered e h) (AnswersTaken e h) x D

theorem Escorted.move (a : Escorted e h (m.router.exchange e) (m.dutiesFor e))
    (hm : m.move? mv = some m')
    (t : Turn true e (m.deed mv) (m.router.exchange e) (m.dutiesFor e) (m'.router.exchange e)
      (m'.dutiesFor e)) :
    Escorted e ((m, mv) :: h) (m'.router.exchange e) (m'.dutiesFor e) where
  conversing := a.conversing.move hm t
  sound := t.sound a.sound
  outset := a.outset.turn t a.sound
  parties := a.parties.turn t a.sound a.outset
  inTurn := by
    refine a.inTurn.turn t a.sound a.outset a.parties (fun calm => ?_) fun taken => ?_
    · rcases ha : m.accepted? e mv with _ | ⟨s, x⟩
      · right
        rcases calm with taken | left
        · have taken := (answersTaken_cons.1 taken).2
          exact ⟨.inl taken, fun _ _ _ => taken⟩
        · obtain ⟨still, left⟩ := left.of_cons ha
          refine ⟨.inr left, fun c role hd => ?_⟩
          rw [hd, Deed.takesBack, beq_self_eq_true] at still
          cases still
      · obtain ⟨⟨c, hd⟩, hstate, -, hx⟩ := Machine.accepted?_eq_some hm ha
        exact .inl ⟨c, s, hd, hx.trans (congrArg (Exchange.sentBy · s) hstate)⟩
    · obtain ⟨free, taken⟩ := answersTaken_cons.1 taken
      refine ⟨taken, fun c s hd hx r => ?_⟩
      rcases ha : m.accepted? e mv with _ | a'
      · have same := Machine.exchange_of_not_accepted hm hd ha
        exact absurd (congrArg Exchange.sends (same.symm.trans hx)) (Nat.succ_ne_self _).symm
      · obtain ⟨-, hstate, allowed, -⟩ := Machine.accepted?_eq_some hm ha
        exact a.conversing.handed_eq_zero rfl (hstate ▸ allowed) taken
          (free (by rw [ha]; rfl)) r

theorem Run.escorted (run : Run config h m) (tame : Tame h) (e : ExchangeId) :
    Escorted e h (m.router.exchange e) (m.dutiesFor e) := by
  obtain ⟨r, hr, p⟩ := id run
  have start : Run config [] (.ofRouter r) := ⟨r, hr, .nil⟩
  have tameStart : Tame [] := fun q hq => by cases hq
  have conversing := start.conversing tameStart e
  have sound := start.sound tameStart e
  have outset := start.outset tameStart e
  refine p.turns (P := Escorted e) e (Machine.stacked_ofRouter r) (fun _ => tame) ?_
    fun h m m' mv a hm t => a.move hm t
  rw [Machine.dutiesFor_ofRouter] at *
  have none (f : Frame) (hf : f ∈ (0 : Multiset Frame)) : False := Multiset.notMem_zero f hf
  exact ⟨conversing, sound, outset,
    ⟨fun f hf => (none f hf).elim, fun s e n hf => (none _ hf).elim⟩,
    ⟨fun _ f hf => (none f hf).elim, fun _ f hf => (none f hf).elim,
      fun _ s e hf => (none _ hf).elim, fun _ f hf => (none f hf).elim⟩⟩

end

/-! ## Searches -/

namespace Frame

/-- The candidates that a search for a slot has left, with the one that it is looking at. -/
def search? : Frame → Option (Hop × Reference × List SlotId)
  | .offer h target candidates _ => some (h, target, candidates)
  | .offered h target s rest _ => some (h, target, s :: rest)
  | _ => none

variable {c : Context} {r : Router} {o : Outcome} {h : Hop} {target : Reference}
  {candidates : List SlotId}

/-- A search starts with the slots that its target chooses, and only ever drops candidates. -/
theorem Becomes.search (b : Becomes c r f o) :
    o.frames.filterMap search? = [] ∨
      (∃ h target, f = .route h ∧ (r.exchange h.exchange).target = some target ∧
        o.frames.filterMap search? = [(h, target, r.choose target)]) ∨
      ∃ h target all left, f.search? = some (h, target, all) ∧ left <:+ all ∧
        o.frames.filterMap search? = [(h, target, left)] := by
  cases b with
  | searches turn unpinned asked => exact .inr (.inl ⟨_, _, rfl, asked, rfl⟩)
  | passesOver | cannotPin | noFlow =>
    all_goals exact .inr (.inr ⟨_, _, _, _, rfl, List.suffix_cons .., rfl⟩)
  | considers => exact .inr (.inr ⟨_, _, _, _, rfl, List.suffix_refl _, rfl⟩)
  | pins | reaches => all_goals exact .inl (filterMap_carryFrame rfl (fun _ => rfl) rfl)
  | _ => exact .inl rfl

end Frame

/-- A search of a hop started with some slots, of which some were left. -/
def Searched (h : History) (hop : Hop) (target : Reference) (left : List SlotId) : Prop :=
  ∃ q ∈ h, (∃ c, q.1.deed q.2 = .work c (.route hop)) ∧
    (q.1.router.exchange hop.exchange).target = some target ∧ left <:+ q.1.router.choose target

section

variable {m m' : Machine} {mv : Move} {h : History} {hop : Hop} {target : Reference}
  {left : List SlotId} {config : Config}

theorem Searched.cons (searched : Searched h hop target left) (q : Machine × Move) :
    Searched (q :: h) hop target left := by
  obtain ⟨q', hq, route⟩ := searched
  exact ⟨q', List.mem_cons_of_mem _ hq, route⟩

theorem Searched.suffix {all : List SlotId} (searched : Searched h hop target all)
    (hl : left <:+ all) : Searched h hop target left := by
  obtain ⟨q, hq, route, asked, chosen⟩ := searched
  exact ⟨q, hq, route, asked, hl.trans chosen⟩

/-- Every search has started at some time. -/
theorem Run.searched (run : Run config h m) (hf : f ∈ m.duties)
    (hs : f.search? = some (hop, target, left)) : Searched h hop target left := by
  refine run.traced Frame.search? (fun h a => Searched h a.1 a.2.1 a.2.2) ?_ (fun _ => rfl)
    (fun _ _ => rfl) (fun q h a searched => searched.cons q) ?_ f hf _ hs
  · intro f request
    cases f <;> first | rfl | cases request
  · intro h m mv c f o _ hd searched step g hg a ha
    have mem := List.mem_filterMap.2 ⟨g, hg, ha⟩
    rcases step.search with none | ⟨hop', target', rfl, asked, one⟩ |
      ⟨hop', target', all, left', hs, suffix, one⟩
    · rw [none] at mem
      cases mem
    · rw [one, List.mem_singleton] at mem
      subst mem
      exact ⟨_, List.mem_cons_self, ⟨c, hd⟩, asked, List.suffix_refl _⟩
    · rw [one, List.mem_singleton] at mem
      subst mem
      exact ((searched _ hs).suffix suffix).cons _

end

/-! ## Where the parties come from -/

/-- A target changes only as long as the exchange has not been sent. -/
theorem target_of_sent (sent : x.source.isSome = true)
    (target : x'.target = x.target ∨ x.source = none ∧ x'.target.isSome = true) :
    x'.target = x.target := by
  rcases target with same | ⟨none, -⟩
  · exact same
  · rw [none] at sent
    cases sent

/-- An exchange that has been sent keeps its source and its target. -/
theorem Turn.origin {tame : Bool} (t : Turn tame e d x D x' D') (sent : x.source.isSome = true) :
    x'.source = x.source ∧ x'.target = x.target := by
  cases t with
  | @work c f x x' fs N w =>
    by_cases hf : f.carries = true
    · exact ⟨(w.forwards hf).source, (w.forwards hf).target⟩
    · rcases w.aside (eq_false_of_ne_true hf) with ⟨s, -, -, rfl, -⟩ | ⟨role, -, rfl, -⟩ | aside
      · obtain ⟨source, hs⟩ := Option.isSome_iff_exists.1 sent
        exact ⟨by simp [Exchange.sentBy, hs], rfl⟩
      · exact ⟨rfl, rfl⟩
      · exact ⟨(aside N).source, target_of_sent sent (aside N).target⟩
  | create p => cases sent
  | change c changed =>
    exact ⟨(Exchange.change_ok changed).1.source,
      target_of_sent sent (Exchange.target_of_change changed)⟩
  | _ => exact ⟨rfl, rfl⟩

/-- A destination comes from a search. -/
theorem Turn.destination {tame : Bool} (t : Turn tame e d x D x' D') :
    x'.destination = x.destination ∨
      ∃ c hop target s rest denied, d = .work c (.offered hop target s rest denied) ∧
        .offered hop target s rest denied ∈ D ∧ hop.exchange = e ∧ x'.destination = some s := by
  cases t with
  | work w =>
    rcases w.destination with same | ⟨hop, target, s, rest, denied, rfl, he, rfl⟩
    · exact .inl same
    · exact .inr ⟨_, hop, target, s, rest, denied, rfl, Multiset.mem_cons_self .., he, rfl⟩
  | change c changed => exact .inl (Exchange.change_ok changed).1.destination
  | _ => exact .inl rfl

/-- A search found a slot for an exchange: it is one of those that the target of the exchange had
chosen when the search started, and it was the candidate that the search was looking at. -/
def Elected (h : History) (e : ExchangeId) (s : SlotId) : Prop :=
  ∃ hop target rest, hop.exchange = e ∧ Searched h hop target (s :: rest) ∧
    ∃ q ∈ h, ∃ c denied, q.1.deed q.2 = .work c (.offered hop target s rest denied)

theorem Elected.cons {h : History} (elected : Elected h e s) (q : Machine × Move) :
    Elected (q :: h) e s := by
  obtain ⟨hop, target, rest, he, searched, q', hq, looked⟩ := elected
  exact ⟨hop, target, rest, he, searched.cons q, q', List.mem_cons_of_mem _ hq, looked⟩

/-! ## Who is called -/

namespace Frame

/-- The slot and the exchange with which an endpoint is called. -/
def processed? : Frame → Option (SlotId × ExchangeId)
  | .call (.process _ s e) => some (s, e)
  | _ => none

theorem Becomes.processed {c : Context} {r : Router} {o : Outcome} (b : Becomes c r f o) :
    o.frames.filterMap processed? = [] ∨
      ∃ s e n, f = .enter s e n ∧ o.frames.filterMap processed? = [(s, e)] := by
  cases b with
  | @calls s e n name owner => exact .inr ⟨s, e, n, rfl, rfl⟩
  | pins | reaches => all_goals exact .inl (filterMap_carryFrame rfl (fun _ => rfl) rfl)
  | _ => exact .inl rfl

end Frame

/-- In its next step a task calls the endpoint of a slot with an exchange. -/
def Machine.Processes (m : Machine) (t : Nat) (s : SlotId) (e : ExchangeId) : Prop :=
  ∃ f rest name, (m.task t).frames = f :: rest ∧
    .call (.process name s e) ∈ (f.step ⟨m.routerAlive, m.now, (m.task t).reply⟩ m.router).frames

theorem Machine.Processes.enters {m : Machine} {t : Nat} (h : m.Processes t s e) :
    ∃ n rest, (m.task t).frames = .enter s e n :: rest := by
  obtain ⟨f, rest, name, hf, hmem⟩ := h
  have go : f.step ⟨m.routerAlive, m.now, (m.task t).reply⟩ m.router ≠ .blocked := by
    intro ho
    rw [ho] at hmem
    cases hmem
  have called : (s, e) ∈ List.filterMap Frame.processed? _ := List.mem_filterMap.2 ⟨_, hmem, rfl⟩
  rcases (Frame.becomes_step f go).processed with none | ⟨s', e', n, rfl, one⟩
  · rw [none] at called
    cases called
  · rw [one, List.mem_singleton] at called
    cases called
    exact ⟨n, rest, hf⟩

section

variable {m m' : Machine} {mv : Move} {h h₀ : History} {config : Config}

theorem Path.origin (p : Path m h m') (stacked : m.Stacked)
    (sent : (m.router.exchange e).source.isSome = true) :
    (m'.router.exchange e).source = (m.router.exchange e).source ∧
      (m'.router.exchange e).target = (m.router.exchange e).target := by
  refine p.turns (P := fun _ x _ => x.source = (m.router.exchange e).source ∧
    x.target = (m.router.exchange e).target) e stacked
    (fun h : false = true => by cases h) ⟨rfl, rfl⟩ fun h m₁ m₂ mv ⟨source, target⟩ hm t => ?_
  obtain ⟨source', target'⟩ := t.origin (source ▸ sent)
  exact ⟨source'.trans source, target'.trans target⟩

/-- A move leaves the destination of an exchange alone, unless it was not known before. -/
theorem Run.destination_of_move (run : Run config h m) (tame : Tame ((m, mv) :: h))
    (hm : m.move? mv = some m') (e : ExchangeId) :
    (m'.router.exchange e).destination = (m.router.exchange e).destination ∨
      (m.router.exchange e).destination = none ∧
        ∃ s, (m'.router.exchange e).destination = some s ∧ Elected ((m, mv) :: h) e s := by
  have t : Turn true e _ _ _ _ _ :=
    Machine.turn_of_move run.stacked (fun _ => tame _ List.mem_cons_self) hm e
  rcases t.destination with same | ⟨c, hop, target, s, rest, denied, hd, duty, he, hs⟩
  · exact .inl same
  · have sound := run.sound tame.tail e
    refine .inr ⟨sound.unpinned _ duty rfl, s, hs, hop, target, rest, he, ?_, _,
      List.mem_cons_self, c, denied, hd⟩
    exact (run.searched (Multiset.mem_of_mem_filter duty) rfl).cons _

theorem Run.destination_of_path (run : Run config h₀ m) (p : Path m h m')
    (tame : Tame (h ++ h₀)) (e : ExchangeId) :
    (m'.router.exchange e).destination = (m.router.exchange e).destination ∨
      (m.router.exchange e).destination = none ∧
        ∃ s, (m'.router.exchange e).destination = some s ∧ Elected (h ++ h₀) e s := by
  induction p with
  | nil => exact .inl rfl
  | cons p hm ih =>
    have run' := run.append p
    rcases run'.destination_of_move tame hm e with same | ⟨none, s, hs, elected⟩
    · rcases ih tame.tail with same' | ⟨none, s, hs, elected⟩
      · exact .inl (same.trans same')
      · exact .inr ⟨none, s, same.trans hs, elected.cons _⟩
    · rcases ih tame.tail with same' | ⟨-, s', hs', -⟩
      · exact .inr ⟨same'.symm.trans none, s, hs, elected⟩
      · exact absurd (none.symm.trans hs') (Option.some_ne_none s').symm

/-- An exchange only enters its source or its destination, whether that is an endpoint, which is
called then, or a client; and it is its turn then, as long as nobody interferes and no send was
accepted since the exchange arrived.  Once an exchange has been sent, its source and its target
stay; its destination is set once, to a slot that a search has found. -/
theorem Run.hasParty_of_enter (run : Run config h₀ m) (p : Path m h m') (tame : Tame (h ++ h₀))
    (e : ExchangeId) :
    (∀ t s, m'.Processes t s e → ∃ n rest, (m'.task t).frames = .enter s e n :: rest) ∧
    (∀ t s n rest, (m'.task t).frames = .enter s e n :: rest →
      (m'.router.exchange e).HasParty s ∧
        ((m'.router.exchange e).sends = n → Unhindered e (h ++ h₀) →
          (m'.router.exchange e).holder = some s)) ∧
    ((m.router.exchange e).source.isSome = true →
      (m'.router.exchange e).source = (m.router.exchange e).source ∧
        (m'.router.exchange e).target = (m.router.exchange e).target) ∧
    ((m'.router.exchange e).destination = (m.router.exchange e).destination ∨
      (m.router.exchange e).destination = none ∧
        ∃ s, (m'.router.exchange e).destination = some s ∧ Elected (h ++ h₀) e s) := by
  refine ⟨fun t s called => called.enters, fun t s n rest hf => ?_, p.origin run.stacked,
    run.destination_of_path p tame e⟩
  have escorted := (run.append p).escorted tame e
  have duty : .enter s e n ∈ m'.dutiesFor e :=
    Multiset.mem_filter.2 ⟨Machine.mem_duties (hf ▸ List.mem_cons_self) (fun _ h => by cases h),
      beq_self_eq_true _⟩
  refine ⟨(escorted.parties.entered s e n duty).1, fun current unhindered => ?_⟩
  exact escorted.inTurn.current unhindered s e (current ▸ duty)

end

/-! ## Runs with synchronous delivery -/

/-- A task is about to call an endpoint, as it is found out by looking. -/
def Machine.isEntering (m : Machine) (t : Nat) (s : SlotId) (e : ExchangeId) (n : Nat) : Bool :=
  match (m.task t).frames, (m.router.slot s).owner with
  | .enter s' e' n' :: _, .endpoint _ => s' == s && e' == e && n' == n
  | _, _ => false

theorem Machine.processes_of_check {m : Machine} {t n : Nat} (h : m.isEntering t s e n = true) :
    m.Processes t s e ∧ ∃ rest, (m.task t).frames = .enter s e n :: rest := by
  unfold isEntering at h
  split at h
  · rename_i s' e' n' rest name hf owner
    simp only [Bool.and_eq_true, beq_iff_eq] at h
    obtain ⟨⟨rfl, rfl⟩, rfl⟩ := h
    refine ⟨⟨_, rest, name, hf, ?_⟩, rest, hf⟩
    rw [Frame.step, Frame.stepEnter, owner]
    exact List.mem_cons_self
  · cases h

/-- A client sends an exchange to an endpoint, and the send has just been accepted. -/
def Cue.firstSend : List Cue :=
  opening .inOut ++ [request 0 (.send ⟨1⟩ ⟨0⟩), halts 0 (.announces .sent)]

/-- The endpoint is called as the provider of the exchange. -/
theorem Run.hasParty_of_enter_firstSend : ∃ h₀ m h m', Run { syncDelivery := true } h₀ m ∧
    Path m h m' ∧ Tame (h ++ h₀) ∧ m'.Processes 0 ⟨0⟩ ⟨0⟩ ∧
    (m'.router.exchange ⟨0⟩).holder = some ⟨0⟩ ∧
    (m.router.exchange ⟨0⟩).source = some ⟨1⟩ ∧ (m'.router.exchange ⟨0⟩).source = some ⟨1⟩ ∧
    (m.router.exchange ⟨0⟩).destination = none ∧ Elected (h ++ h₀) ⟨0⟩ ⟨0⟩ := by
  obtain ⟨h₀, m, h, m', p, p', hq⟩ := Path.exists_of_enacts .synchronous Cue.firstSend
    [.halts 0 .enters]
    (fun p p' => (p'.1 ++ p.1).all (fun q => q.1.isTame q.2) &&
      ((p'.1 ++ p.1).takeWhile (fun q => (q.1.accepted? ⟨0⟩ q.2).isNone)).all
        (fun q => !(q.1.deed q.2).takesBack ⟨0⟩) &&
      p'.2.isEntering 0 ⟨0⟩ ⟨0⟩ 1 && (p'.2.router.exchange ⟨0⟩).sends == 1 &&
      (p.2.router.exchange ⟨0⟩).source == some ⟨1⟩ &&
      (p.2.router.exchange ⟨0⟩).destination.isNone &&
      (p'.2.router.exchange ⟨0⟩).destination == some ⟨0⟩) (by rfl)
  simp only [Bool.and_eq_true, beq_iff_eq, List.all_eq_true, Option.isNone_iff_eq_none] at hq
  obtain ⟨⟨⟨⟨⟨⟨tame, left⟩, entering⟩, sends⟩, source⟩, none⟩, found⟩ := hq
  obtain ⟨called, rest, hf⟩ := Machine.processes_of_check entering
  obtain ⟨-, enters, origin, destination⟩ := p.runSynchronous.hasParty_of_enter p' tame ⟨0⟩
  obtain ⟨-, turn⟩ := enters 0 ⟨0⟩ 1 rest hf
  obtain ⟨source', -⟩ := origin (by rw [source]; rfl)
  refine ⟨h₀, m, h, m', p.runSynchronous, p', tame, called, ?_, source, source'.trans source,
    none, ?_⟩
  · exact turn sends (.inr fun q hq => by simpa using left q hq)
  · rcases destination with same | ⟨-, s, hs, elected⟩
    · rw [none, found] at same
      cases same
    · rw [found] at hs
      cases hs
      exact elected

/-- A listener hears that an exchange is delivered, and answers it before the endpoint is
called. -/
def Cue.interception : List Cue :=
  opening .inOut ++
    [request 0 (.send ⟨1⟩ ⟨0⟩), halts 0 .processes, listen, runs 0,
      operate (.setListeners [])] ++
    answering 0 ++ [answer 0 .done, halts 0 .enters]

/-- The endpoint answers twice while the client waits; the client closes the exchange from another
thread, and the one that has waited takes it back while it is on its way to the endpoint. -/
def Cue.lateReturn : List Cue :=
  opening .inOut ++ [request 0 (.sendSync ⟨1⟩ ⟨0⟩ none), runs 0] ++ answering 0 ++
    [request 0 (.send ⟨0⟩ ⟨0⟩), runs 0, fork, operate (.change ⟨0⟩ (.status .done)),
      request 1 (.send ⟨1⟩ ⟨0⟩), halts 1 .enters, answer 0 .done, runs 0]

/-- In both cases the destination is called while it is the consumer's turn. -/
theorem Run.enter_outOfTurn :
    (∃ h m, Run { syncDelivery := true } h m ∧ Tame h ∧ m.Processes 0 ⟨0⟩ ⟨0⟩ ∧
      (m.router.exchange ⟨0⟩).source = some ⟨1⟩ ∧ (m.router.exchange ⟨0⟩).destination = some ⟨0⟩ ∧
      (m.router.exchange ⟨0⟩).role = .consumer ∧ LeftAlone ⟨0⟩ h) ∧
    ∃ h m, Run { syncDelivery := true } h m ∧ Tame h ∧ m.Processes 1 ⟨0⟩ ⟨0⟩ ∧
      (m.router.exchange ⟨0⟩).source = some ⟨1⟩ ∧ (m.router.exchange ⟨0⟩).destination = some ⟨0⟩ ∧
      (m.router.exchange ⟨0⟩).role = .consumer ∧
      ∃ rest, (m.task 1).frames = .enter ⟨0⟩ ⟨0⟩ (m.router.exchange ⟨0⟩).sends :: rest := by
  constructor
  · obtain ⟨h, m, p, hq⟩ := Path.exists_of_enact .synchronous Cue.interception
      (fun p => p.1.all (fun q => q.1.isTame q.2) && p.2.isEntering 0 ⟨0⟩ ⟨0⟩ 1 &&
        (p.2.router.exchange ⟨0⟩).source == some ⟨1⟩ &&
        (p.2.router.exchange ⟨0⟩).destination == some ⟨0⟩ &&
        (p.2.router.exchange ⟨0⟩).role == .consumer &&
        (p.1.takeWhile (fun q => (q.1.accepted? ⟨0⟩ q.2).isNone)).all
          (fun q => !(q.1.deed q.2).takesBack ⟨0⟩)) (by rfl)
    simp only [Bool.and_eq_true, beq_iff_eq, List.all_eq_true] at hq
    obtain ⟨⟨⟨⟨⟨tame, entering⟩, source⟩, destination⟩, role⟩, left⟩ := hq
    exact ⟨h, m, p.runSynchronous, tame, (Machine.processes_of_check entering).1, source,
      destination, role, fun q hq => by simpa using left q hq⟩
  · obtain ⟨h, m, p, hq⟩ := Path.exists_of_enact .synchronous Cue.lateReturn
      (fun p => p.1.all (fun q => q.1.isTame q.2) &&
        p.2.isEntering 1 ⟨0⟩ ⟨0⟩ (p.2.router.exchange ⟨0⟩).sends &&
        (p.2.router.exchange ⟨0⟩).source == some ⟨1⟩ &&
        (p.2.router.exchange ⟨0⟩).destination == some ⟨0⟩ &&
        (p.2.router.exchange ⟨0⟩).role == .consumer) (by rfl)
    simp only [Bool.and_eq_true, beq_iff_eq, List.all_eq_true] at hq
    obtain ⟨⟨⟨⟨tame, entering⟩, source⟩, destination⟩, role⟩ := hq
    obtain ⟨called, rest, hf⟩ := Machine.processes_of_check entering
    exact ⟨h, m, p.runSynchronous, tame, called, source, destination, role, rest, hf⟩

end Engine

end MessageRouter
