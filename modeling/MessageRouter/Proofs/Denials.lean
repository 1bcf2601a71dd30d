import MessageRouter.Proofs.Selection

/-!
# Searches that come to nothing

A first send that finds no destination fails with one of two errors, whichever moves of other
tasks fall into its search.  What the search has seen of each candidate when it came to it is on
record (`Survey`), and the error depends on nothing else: it blames authorization as soon as one
candidate has been denied, and names the first such candidate.  So it is fair unless another
candidate was admitted and turned out to be of no use (`Run.fair_iff_not_mixed`).
-/

namespace MessageRouter.Engine

/-! ## What a search has seen -/

/-- A candidate as a search found it when it came to it. -/
structure Look where
  router : Router
  slot : SlotId

namespace Look

/-- The candidate could be chosen: it is targetable, open and not retired. -/
def available (l : Look) : Bool := (l.router.slot l.slot).isAvailable

/-- The candidate could be chosen, but authorization kept it away from the exchange. -/
def denied (e : ExchangeId) (l : Look) : Bool := l.router.denies e l.slot

def name (l : Look) : String := l.router.slotName l.slot

theorem available_of_denied {e : ExchangeId} {l : Look} (h : l.denied e = true) :
    l.available = true :=
  (Bool.and_eq_true _ _ ▸ h : _ ∧ _).1

end Look

/-- The name of the first candidate that was denied. -/
def firstDenied (e : ExchangeId) (looks : List Look) : Option String :=
  (looks.find? (·.denied e)).map (·.name)

/-- The search of a hop started with the candidates of its target, has looked at some of them in
their order, and has the others left. -/
structure Survey (h : History) (hop : Hop) (target : Reference) (looks : List Look)
    (left : List SlotId) : Prop where
  chosen : ∃ q ∈ h, (∃ c, q.1.deed q.2 = .work c (.route hop)) ∧
    (q.1.router.exchange hop.exchange).target = some target ∧
    q.1.router.choose target = looks.map (·.slot) ++ left
  looked : ∀ l ∈ looks, ∃ q ∈ h, q.1.router = l.router ∧
    ∃ c rest denied, q.1.deed q.2 = .work c (.offer hop target (l.slot :: rest) denied)

section

variable {config : Config} {h : History} {m m' : Machine} {e : ExchangeId} {mv : Move} {t : Nat}
  {hop : Hop}
  {target : Reference} {looks : List Look} {left rest : List SlotId} {s : SlotId}
  {denied : Option String} {err : RouterError} {f : Frame} {below : List Frame} {o : Outcome}

theorem Survey.cons (survey : Survey h hop target looks left) (q : Machine × Move) :
    Survey (q :: h) hop target looks left where
  chosen := survey.chosen.imp fun _ hq => ⟨List.mem_cons_of_mem _ hq.1, hq.2⟩
  looked l hl := (survey.looked l hl).imp fun _ hq => ⟨List.mem_cons_of_mem _ hq.1, hq.2⟩

/-- The search looks at the next candidate. -/
theorem Survey.look (survey : Survey h hop target looks (s :: left)) {c : Context}
    (hd : m.deed mv = .work c (.offer hop target (s :: left) denied)) :
    Survey ((m, mv) :: h) hop target (looks ++ [⟨m.router, s⟩]) left where
  chosen := by
    obtain ⟨q, hq, route, asked, chosen⟩ := survey.chosen
    exact ⟨q, List.mem_cons_of_mem _ hq, route, asked, by simpa using chosen⟩
  looked l hl := by
    rcases List.mem_append.1 hl with hl | hl
    · exact (survey.cons (m, mv)).looked l hl
    · obtain rfl := List.mem_singleton.1 hl
      exact ⟨(m, mv), List.mem_cons_self, rfl, c, left, denied, hd⟩

theorem firstDenied_append (e : ExchangeId) (looks : List Look) (l : Look) :
    firstDenied e (looks ++ [l]) =
      (firstDenied e looks).or (if l.denied e then some l.name else none) := by
  cases hl : l.denied e <;> cases hf : looks.find? (·.denied e) <;>
    simp [firstDenied, List.find?_append, hl, hf]

namespace Frame

/-- A step of a search that passes over a candidate keeps in mind whether it was denied. -/
theorem step_passes {c : Context} {r r' : Router} {denied' : Option String}
    (ho : step c r (.offer hop target (s :: rest) denied) =
      .next [.offer hop target rest denied'] r') :
    denied' = denied.or (if r.denies hop.exchange s then some (r.slotName s) else none) := by
  obtain ⟨r'', looked, recalls⟩ := Router.refuses_eq (.refl r) hop.exchange s
  have name : r''.slotName s = r.slotName s := by
    rw [Router.slotName, recalls.slot, Router.slotName]
  cases available : (r.slot s).isAvailable <;> cases refused : r.refuses hop.exchange s <;>
    simp [step, stepOffer, available, looked, refused, Router.denies, name] at ho ⊢ <;>
    exact ho.1.symm

end Frame

/-! ## The record of a search -/

/-- What is on record of the search that a frame belongs to. -/
def Recorded (h : History) (r : Router) : Frame → Prop
  | .offer hop target left denied | .offered hop target _ left denied =>
    (r.exchange hop.exchange).target = some target ∧
      ∃ looks, Survey h hop target looks left ∧ denied = firstDenied hop.exchange looks
  | .routeTo hop _ | .reaching hop _ => hop.first = false
  | .routed hop => hop.first = true → (r.exchange hop.exchange).destination ≠ none
  | .lost hop err => hop.first = true → (r.exchange hop.exchange).destination = none →
    (∃ target looks, (r.exchange hop.exchange).target = some target ∧
      Survey h hop target looks [] ∧
      err = Frame.unroutable target (firstDenied hop.exchange looks))
  | _ => True

theorem recorded_carryFrame {r : Router} {fl : Flow} :
    Recorded h r (Frame.carryFrame fl hop s) := by
  unfold Frame.carryFrame
  split <;> trivial

section

variable (run : Run config h m) (tame : Tame ((m, mv) :: h)) (hm : m.move? mv = some m')

include run tame hm

/-- What is on record stays so as long as the frame stands. -/
theorem Recorded.keep (hf : f ∈ (m.task t).frames) (recorded : Recorded h m.router f) :
    Recorded ((m, mv) :: h) m'.router f := by
  have target {hop : Hop} (routing : f.routing? = some hop) :
      (m'.router.exchange hop.exchange).target = (m.router.exchange hop.exchange).target := by
    have duty := Machine.mem_dutiesFor_of_routing? hf routing
    have sent := ((run.sound tame.tail hop.exchange).aloft f duty hop
      (Frame.aloft?_of_routing? routing)).2.2
    exact ((Path.nil.cons hm).origin run.stacked sent).2
  have unfound {e : ExchangeId} (vacant : (m'.router.exchange e).destination = none) :
      (m.router.exchange e).destination = none := by
    rcases run.destination_of_move tame hm e with same | ⟨before, -⟩
    · exact same.symm.trans vacant
    · exact before
  cases f with
  | offer hop asked left denied | offered hop asked s left denied =>
    obtain ⟨asks, looks, survey, denied⟩ := recorded
    exact ⟨(target rfl).trans asks, looks, survey.cons _, denied⟩
  | routeTo | reaching => exact recorded
  | routed hop => exact fun first vacant => recorded first (unfound vacant)
  | lost hop err =>
    intro first vacant
    obtain ⟨asked, looks, asks, survey, blames⟩ := recorded first (unfound vacant)
    exact ⟨asked, looks, (target rfl).trans asks, survey.cons _, blames⟩
  | _ => trivial

end

section

variable {c : Context}

/-- A first hop starts with a search, and a later one knows where to go. -/
theorem Recorded.route (run : Run config h m) (tame : Tame h)
    (duty : .route hop ∈ m.dutiesFor hop.exchange) (hd : m.deed mv = .work c (.route hop))
    (ho : Frame.step c m.router (.route hop) = o) (b : Frame.Becomes c m.router (.route hop) o) :
    ∀ g ∈ o.frames, Recorded ((m, mv) :: h) (o.router m.router) g := by
  have outset := run.outset tame hop.exchange
  cases b with
  | @searches hop target turn unpinned asked =>
    refine List.forall_mem_singleton.2 ?_
    exact ⟨asked, [], ⟨⟨_, List.mem_cons_self, ⟨_, hd⟩, asked, rfl⟩, fun l hl => by cases hl⟩, rfl⟩
  | @goesTo hop s known =>
    -- a first hop does not know yet where to go
    refine List.forall_mem_singleton.2 ?_
    refine eq_false_of_ne_true fun first => ?_
    have vacant := outset.unpinned _ duty hop rfl first
    have role := (outset.first _ duty hop rfl first).2.1
    rcases known with ⟨-, found⟩ | ⟨turn, -⟩
    · exact absurd (vacant.symm.trans found) (Option.some_ne_none s).symm
    · cases role.symm.trans turn
  | @noWay hop err unknown =>
    -- nor is it without a target
    refine List.forall_mem_singleton.2 ?_
    intro first
    obtain ⟨-, role, asked, -⟩ := outset.first _ duty hop rfl first
    have vacant := outset.unpinned _ duty hop rfl first
    obtain ⟨target, asked⟩ := Option.isSome_iff_exists.1 asked
    simp [Frame.step, Frame.stepRoute, role, vacant, asked] at ho

/-- A search takes down what it sees of a candidate. -/
theorem Recorded.offer (recorded : Recorded h m.router (.offer hop target left denied))
    (hd : m.deed mv = .work c (.offer hop target left denied))
    (ho : Frame.step c m.router (.offer hop target left denied) = o)
    (b : Frame.Becomes c m.router (.offer hop target left denied) o) :
    ∀ g ∈ o.frames, Recorded ((m, mv) :: h) (o.router m.router) g := by
  obtain ⟨asked, looks, survey, kept⟩ := recorded
  cases b with
  | noCandidate hop target denied err =>
    refine List.forall_mem_singleton.2 ?_
    have blames : Frame.unroutable target denied = err := by
      simpa [Frame.step, Frame.stepOffer] using ho
    exact fun _ _ => ⟨target, looks, asked, survey.cons _, by rw [← blames, kept]⟩
  | passesOver hop target s left denied denied' authorization =>
    refine List.forall_mem_singleton.2 ⟨asked, _, survey.look hd, ?_⟩
    rw [firstDenied_append, ← kept]
    exact Frame.step_passes ho
  | @considers hop target s left denied authorization available admitted =>
    refine List.forall_mem_cons.2 ⟨trivial, List.forall_mem_singleton.2 ?_⟩
    refine ⟨asked, _, survey.look hd, ?_⟩
    have admits : m.router.denies hop.exchange s = false := by
      cases he : m.router.config.enforceAuthorization <;>
        simp [Router.denies, Router.refuses, he, admitted]
    rw [firstDenied_append, ← kept, Look.denied, admits, if_neg Bool.false_ne_true,
      Option.or_none]

/-- A search is over with a candidate that a flow takes, and else it goes on. -/
theorem Recorded.offered (recorded : Recorded h m.router (.offered hop target s left denied))
    (b : Frame.Becomes c m.router (.offered hop target s left denied) o) :
    ∀ g ∈ o.frames, Recorded ((m, mv) :: h) (o.router m.router) g := by
  cases b with
  | @pins hop target s left denied r' fl pinned =>
    obtain ⟨-, rfl⟩ := Router.pin_ok pinned
    refine List.forall_mem_cons.2 ⟨recorded_carryFrame, List.forall_mem_singleton.2 fun _ => ?_⟩
    rw [Outcome.router, Router.exchange_setExchange_self]
    exact Option.some_ne_none s
  | @cannotPin hop target s left denied r' retired =>
    obtain ⟨asked, looks, survey, kept⟩ := recorded
    obtain ⟨-, rfl⟩ := Router.pin_error retired
    exact List.forall_mem_singleton.2 ⟨asked, looks, survey.cons _, kept⟩
  | noFlow hop target s left denied =>
    obtain ⟨asked, looks, survey, kept⟩ := recorded
    exact List.forall_mem_singleton.2 ⟨asked, looks, survey.cons _, kept⟩

/-- A later hop stays one. -/
theorem Recorded.onward (later : hop.first = false)
    (b : Frame.Becomes c m.router f o) (hf : f = .routeTo hop s ∨ f = .reaching hop s) :
    ∀ g ∈ o.frames, Recorded ((m, mv) :: h) (o.router m.router) g := by
  have vain {p : Prop} (first : hop.first = true) : p :=
    absurd (later.symm.trans first) Bool.false_ne_true
  rcases hf with rfl | rfl
  · cases b with
    | seeks present => exact List.forall_mem_cons.2 ⟨trivial, List.forall_mem_singleton.2 later⟩
    | gone err absent => exact List.forall_mem_singleton.2 vain
  · cases b with
    | reaches fl chosen =>
      exact List.forall_mem_cons.2 ⟨recorded_carryFrame, List.forall_mem_singleton.2 vain⟩
    | noFlowBack err none => exact List.forall_mem_singleton.2 vain

/-- What comes of a frame is on record if the frame was. -/
theorem Recorded.step (run : Run config h m) (tame : Tame h) (hf : (m.task t).frames = f :: below)
    (recorded : Recorded h m.router f)
    (ho : f.step ⟨m.routerAlive, m.now, (m.task t).reply⟩ m.router = o) (go : o ≠ .blocked) :
    ∀ g ∈ o.frames, Recorded ((m, .advance t) :: h) (o.router m.router) g := by
  have hd : m.deed (.advance t) = .work ⟨m.routerAlive, m.now, (m.task t).reply⟩ f := by
    rw [Machine.deed, hf]
  have b := Frame.becomes_step f (ho ▸ go)
  rw [ho] at b
  cases f with
  | route hop =>
    have duty := Machine.mem_dutiesFor_of_routing? (hf ▸ List.mem_cons_self) rfl
    exact .route run tame duty hd ho b
  | offer hop target left denied => exact recorded.offer hd ho b
  | offered hop target s left denied => exact recorded.offered b
  | routeTo hop s => exact .onward recorded b (.inl rfl)
  | reaching hop s => exact .onward recorded b (.inr rfl)
  | routed hop =>
    cases b with
    | refused refused =>
      exact List.forall_mem_singleton.2 fun first vacant => absurd vacant (recorded first)
    | ended => exact List.forall_mem_singleton.2 trivial
    | passed => exact List.forall_mem_nil _
  | _ =>
    -- whatever else comes of a step is no search
    cases b <;> simp only [Outcome.frames, List.forall_mem_cons, Recorded, true_and] <;>
      exact List.forall_mem_nil _

end

/-- In a tame run every search is on record. -/
theorem Run.recorded (run : Run config h m) (tame : Tame h) :
    ∀ t, ∀ f ∈ (m.task t).frames, Recorded h m.router f := by
  obtain ⟨r, hr, p⟩ := run
  induction p with
  | nil =>
    intro t f hf
    rcases t with _ | t
    · obtain rfl := List.mem_singleton.1 hf
      trivial
    · cases hf
  | @cons h m m' mv p hm ih =>
    have run : Run config h m := ⟨r, hr, p⟩
    have keep {t : Nat} {f : Frame} (hf : f ∈ (m.task t).frames) :
        Recorded ((m, mv) :: h) m'.router f :=
      Recorded.keep run tame hm hf (ih tame.tail t f hf)
    refine Machine.each_of_step (P := Recorded ((m, mv) :: h) m'.router) hm (fun t f hf => keep hf)
      (fun c => trivial) ?_ fun t f _ request => by cases f <;> trivial
    rintro t f below o rfl hf ho go
    have settled : m' = m.settle t below o :=
      Option.some.inj (hm.symm.trans (Machine.advance_of_step hf ho go))
    have b := Frame.becomes_step f (ho ▸ go)
    rw [ho] at b
    rw [settled, Machine.router_settle b]
    exact Recorded.step run tame.tail hf (ih tame.tail t f (hf ▸ List.mem_cons_self)) ho go

/-! ## The error -/

/-- Authorization is blamed exactly if there were candidates that could be chosen and it kept away
all of them; the first of them is named then, and else the target. -/
structure Fair (e : ExchangeId) (target : Reference) (looks : List Look) (err : RouterError) :
    Prop where
  blames : (∃ name, err = .notAuthorized name) ↔
    (∃ l ∈ looks, l.available = true) ∧ ∀ l ∈ looks, l.available = true → l.denied e = true
  names : ∀ name, err = .notAuthorized name →
    (looks.find? (·.available)).map (·.name) = some name
  otherwise : (∀ name, err ≠ .notAuthorized name) → err = .noEndpointAvailable target.text

/-- One candidate was denied, and another was admitted. -/
def Mixed (e : ExchangeId) (looks : List Look) : Prop :=
  (∃ l ∈ looks, l.denied e = true) ∧ ∃ l ∈ looks, l.available = true ∧ l.denied e = false

theorem unroutable_eq_notAuthorized {name : String} :
    Frame.unroutable target denied = .notAuthorized name ↔ denied = some name := by
  cases denied <;> simp [Frame.unroutable]

theorem unroutable_eq_noEndpointAvailable :
    Frame.unroutable target denied = .noEndpointAvailable target.text ↔ denied = none := by
  cases denied <;> simp [Frame.unroutable]

theorem firstDenied_eq_none : firstDenied e looks = none ↔ ∀ l ∈ looks, l.denied e = false := by
  simp [firstDenied]

/-- A search that was denied nothing but what it could have chosen blames the first of that. -/
theorem firstDenied_of_not_mixed (all : ∀ l ∈ looks, l.available = true → l.denied e = true) :
    firstDenied e looks = (looks.find? (·.available)).map (·.name) := by
  have same : ∀ l ∈ looks, l.denied e = l.available := fun l hl => by
    cases ha : l.available with
    | true => exact all l hl ha
    | false =>
      refine eq_false_of_ne_true fun hd => ?_
      rw [Look.available_of_denied hd] at ha
      cases ha
  unfold firstDenied
  congr 1
  induction looks with
  | nil => rfl
  | cons l looks ih =>
    have rest := ih (fun l hl => all l (List.mem_cons_of_mem _ hl))
      fun l hl => same l (List.mem_cons_of_mem _ hl)
    rw [List.find?_cons, List.find?_cons, same l List.mem_cons_self, rest]

/-- The error that the router gives is fair unless candidates were treated differently. -/
theorem fair_iff :
    Fair e target looks (Frame.unroutable target (firstDenied e looks)) ↔ ¬Mixed e looks := by
  constructor
  · rintro fair ⟨⟨l, hl, denied⟩, l', hl', available, admitted⟩
    obtain ⟨name, hn⟩ : ∃ name, firstDenied e looks = some name := by
      refine Option.ne_none_iff_exists'.1 fun hn => ?_
      rw [firstDenied_eq_none.1 hn l hl] at denied
      cases denied
    have all := (fair.blames.1 ⟨name, unroutable_eq_notAuthorized.2 hn⟩).2
    rw [all l' hl' available] at admitted
    cases admitted
  · intro alike
    by_cases some : ∃ l ∈ looks, l.denied e = true
    · have all : ∀ l ∈ looks, l.available = true → l.denied e = true := fun l hl available =>
        eq_true_of_ne_false fun admitted => alike ⟨some, l, hl, available, admitted⟩
      obtain ⟨l, hl, denied⟩ := some
      obtain ⟨name, hn⟩ : ∃ name, firstDenied e looks = .some name := by
        refine Option.ne_none_iff_exists'.1 fun hn => ?_
        rw [firstDenied_eq_none.1 hn l hl] at denied
        cases denied
      have blamed : Frame.unroutable target (firstDenied e looks) = .notAuthorized name :=
        unroutable_eq_notAuthorized.2 hn
      refine ⟨⟨fun _ => ⟨⟨l, hl, Look.available_of_denied denied⟩, all⟩, fun _ => ⟨name, blamed⟩⟩,
        fun name' hn' => ?_, fun other => absurd blamed (other name)⟩
      rw [← firstDenied_of_not_mixed all]
      exact unroutable_eq_notAuthorized.1 hn'
    · have none : firstDenied e looks = none := firstDenied_eq_none.2 fun l hl =>
        eq_false_of_ne_true fun denied => some ⟨l, hl, denied⟩
      rw [none]
      refine ⟨⟨fun ⟨name, hn⟩ => (by cases hn), fun ⟨⟨l, hl, available⟩, all⟩ => ?_⟩,
        fun name hn => (by cases hn), fun _ => rfl⟩
      exact absurd ⟨l, hl, all l hl available⟩ some

/-- A first send that has found no destination has looked at all candidates of its target.  It
fails, with its next move, with the name of the first candidate that was denied when it was looked
at, or with the target if none was.  This is fair unless one candidate was denied and another was
admitted; then authorization is blamed although it is not the reason. -/
theorem Run.fair_iff_not_mixed (run : Run config h m) (tame : Tame h)
    (hf : (m.task t).frames = .lost hop err :: below) (first : hop.first = true)
    (vacant : (m.router.exchange hop.exchange).destination = none) :
    ∃ target looks, (m.router.exchange hop.exchange).target = some target ∧
      Survey h hop target looks [] ∧
      (∀ name, err = .notAuthorized name ↔
        (looks.find? (·.denied hop.exchange)).map (·.name) = some name) ∧
      (err = .noEndpointAvailable target.text ↔ ∀ l ∈ looks, l.denied hop.exchange = false) ∧
      (Fair hop.exchange target looks err ↔ ¬Mixed hop.exchange looks) ∧
      ∃ m', m.move? (.advance t) = some m' ∧
        (m'.router.exchange hop.exchange).status = .error ∧
        (m'.router.exchange hop.exchange).error = some (.router err) ∧
        (m'.router.exchange hop.exchange).destination = none := by
  have recorded : Recorded h m.router (.lost hop err) :=
    run.recorded tame t _ (hf ▸ List.mem_cons_self)
  obtain ⟨target, looks, asked, survey, blames⟩ := recorded first vacant
  have returns : Frame.step ⟨m.routerAlive, m.now, (m.task t).reply⟩ m.router (.lost hop err) =
      .next [.announce .failed hop.exchange, .hand hop.sender hop.exchange, .release hop.exchange]
        (m.router.setExchange hop.exchange ((m.router.exchange hop.exchange).returned err)) := by
    rw [Frame.step, Frame.stepLost, if_pos first]
    rfl
  have fails := Machine.advance_of_step hf returns fun ho => by cases ho
  refine ⟨target, looks, asked, survey, fun name => ?_, ?_, ?_, _, fails, ?_⟩
  · rw [blames]
    exact unroutable_eq_notAuthorized
  · rw [blames]
    exact unroutable_eq_noEndpointAvailable.trans firstDenied_eq_none
  · rw [blames]
    exact fair_iff
  · rw [Machine.settle, Machine.setTask, Router.exchange_setExchange_self]
    exact ⟨rfl, rfl, vacant⟩

end

/-! ## Two endpoints, one of which may be used -/

/-- A client asks for endpoints of one kind.  It may not use the first of two, and no flow takes
the exchange to the second. -/
def Cue.mixedQuery : List Cue :=
  enrolment "closed" ++ enrolment "open" ++
    [operate (.setAuthorization ((({} : Authorization).register "admin"
        ⟨.add, 0, "open", none, .ofList [.any]⟩).toOption.getD {})),
      operate (.setFlows [⟨some "picky", .custom, ∅⟩]),
      operate .openChannel, operate (.create .inOut),
      operate (.change ⟨0⟩ (.message .input default)),
      operate (.change ⟨0⟩ (.target (.properties (.ofList [("KIND", "service")])))),
      request 0 (.send ⟨2⟩ ⟨0⟩), runs 0, answer 0 (.answer false),
      halts 0 .loses]

/-- A task is about to give up the first send of an exchange, as it is found out by looking. -/
def Machine.givesUp? (m : Machine) (t : Nat) (e : ExchangeId) : Option RouterError :=
  match (m.task t).frames with
  | .lost hop err :: _ =>
    if hop.first && hop.exchange == e && (m.router.exchange e).destination.isNone then some err
    else none
  | _ => none

theorem Machine.frames_of_givesUp? {m : Machine} {t : Nat} {e : ExchangeId} {err : RouterError}
    (h : m.givesUp? t e = some err) : ∃ hop below, (m.task t).frames = .lost hop err :: below ∧
      hop.first = true ∧ hop.exchange = e ∧ (m.router.exchange e).destination = none := by
  unfold givesUp? at h
  split at h
  · rename_i hop err' below hf
    split at h
    · rename_i gives
      obtain rfl := Option.some.inj h
      simp only [Bool.and_eq_true, beq_iff_eq, Option.isNone_iff_eq_none] at gives
      exact ⟨hop, below, hf, gives.1.1, gives.1.2, gives.2⟩
    · cases h
  · cases h

/-- The exchange fails for the sake of the first endpoint. -/
theorem Run.fair_iff_not_mixed_query : ∃ h m hop below, Run { enforceAuthorization := true } h m ∧
    Tame h ∧ (m.task 0).frames = .lost hop (.notAuthorized "closed") :: below ∧
    hop.first = true ∧ (m.router.exchange hop.exchange).destination = none ∧
    ∃ target looks, Survey h hop target looks [] ∧
      (looks.find? (·.denied hop.exchange)).map (·.name) = some "closed" ∧
      ∃ m', m.move? (.advance 0) = some m' ∧
        (m'.router.exchange hop.exchange).error = some (.router (.notAuthorized "closed")) := by
  obtain ⟨h, m, path, hq⟩ := Path.exists_of_enact .guarded Cue.mixedQuery (fun p =>
    p.1.all (fun q => q.1.isTame q.2) && p.2.givesUp? 0 ⟨0⟩ == some (.notAuthorized "closed"))
    (by rfl)
  simp only [Bool.and_eq_true, beq_iff_eq, List.all_eq_true] at hq
  obtain ⟨tame, gives⟩ := hq
  obtain ⟨hop, below, hf, first, he, vacant⟩ := Machine.frames_of_givesUp? gives
  have run : Run { enforceAuthorization := true } h m := ⟨_, rfl, path⟩
  rw [← he] at vacant
  obtain ⟨target, looks, -, survey, named, -, -, m', fails, -, error, -⟩ :=
    run.fair_iff_not_mixed tame hf first vacant
  exact ⟨h, m, hop, below, run, tame, hf, first, vacant, target, looks, survey,
    (named _).1 rfl, m', fails, error⟩

/-- A search finds two slots for an exchange, both of which could be chosen and the first of which
is denied, as it is found out by looking. -/
def Machine.deniesFirst (m : Machine) (mv : Move) (e : ExchangeId) : Bool :=
  match m.deed mv with
  | .work _ (.route _) =>
    (m.router.exchange e).target.any fun target => m.router.choose target == [⟨0⟩, ⟨1⟩]
  | .work _ (.offer _ _ (s :: _) _) =>
    (m.router.slot s).isAvailable && m.router.denies e s == (s == ⟨0⟩)
  | _ => true

theorem Survey.mixed {h : History} {hop : Hop} {target : Reference} {looks : List Look}
    (survey : Survey h hop target looks [])
    (denies : ∀ q ∈ h, q.1.deniesFirst q.2 hop.exchange = true) : Mixed hop.exchange looks := by
  have looked : ∀ l ∈ looks, l.available = true ∧ l.denied hop.exchange = (l.slot == ⟨0⟩) := by
    intro l hl
    obtain ⟨q, hq, router, c, rest, denied, hd⟩ := survey.looked l hl
    have found := denies q hq
    rw [Machine.deniesFirst, hd] at found
    simp only [Bool.and_eq_true, beq_iff_eq, router] at found
    exact found
  obtain ⟨q, hq, ⟨c, hd⟩, asked, chosen⟩ := survey.chosen
  have found := denies q hq
  rw [Machine.deniesFirst, hd, asked] at found
  simp only [Option.any_some, beq_iff_eq] at found
  rw [found, List.append_nil] at chosen
  obtain ⟨l, rest, rfl, hl, hrest⟩ := List.map_eq_cons_iff.1 chosen.symm
  obtain ⟨l', rest', rfl, hl', -⟩ := List.map_eq_cons_iff.1 hrest
  have second := looked l' (List.mem_cons_of_mem _ List.mem_cons_self)
  refine ⟨⟨l, List.mem_cons_self, ?_⟩, l', List.mem_cons_of_mem _ List.mem_cons_self, second.1, ?_⟩
  · rw [(looked l List.mem_cons_self).2, hl]
    rfl
  · rw [second.2, hl']
    rfl

/-- This is not fair: the second endpoint could be chosen and may be used, and what is missing is a
flow. -/
theorem Run.not_fair_mixedQuery : ∃ h m hop below target looks,
    Run { enforceAuthorization := true } h m ∧ Tame h ∧
    (m.task 0).frames = .lost hop (.notAuthorized "closed") :: below ∧ hop.first = true ∧
    (m.router.exchange hop.exchange).destination = none ∧ Survey h hop target looks [] ∧
    Mixed hop.exchange looks ∧ ¬Fair hop.exchange target looks (.notAuthorized "closed") := by
  obtain ⟨h, m, path, hq⟩ := Path.exists_of_enact .guarded Cue.mixedQuery (fun p =>
    p.1.all (fun q => q.1.isTame q.2) && p.2.givesUp? 0 ⟨0⟩ == some (.notAuthorized "closed") &&
      p.1.all fun q => q.1.deniesFirst q.2 ⟨0⟩) (by rfl)
  simp only [Bool.and_eq_true, beq_iff_eq, List.all_eq_true] at hq
  obtain ⟨⟨tame, gives⟩, denies⟩ := hq
  obtain ⟨hop, below, hf, first, he, vacant⟩ := Machine.frames_of_givesUp? gives
  have run : Run { enforceAuthorization := true } h m := ⟨_, rfl, path⟩
  rw [← he] at vacant denies
  have recorded : Recorded h m.router (.lost hop (.notAuthorized "closed")) :=
    run.recorded tame 0 _ (hf ▸ List.mem_cons_self)
  obtain ⟨target, looks, -, survey, blames⟩ := recorded first vacant
  have mixed := survey.mixed denies
  exact ⟨h, m, hop, below, target, looks, run, tame, hf, first, vacant, survey, mixed,
    blames ▸ fun fair => fair_iff.1 fair mixed⟩

end MessageRouter.Engine
