import MessageRouter.Proofs.Closing
import MessageRouter.Proofs.Script

/-!
# Who is left waiting

A party that waits inside a send is claimed when the exchange comes back to it or cannot be passed
on.  When an exchange is over, a party may instead be passed by: the last duty that could have
claimed it does something else.  `Run.waiting_iff` shows that nobody waits for an exchange that is
over but those who have been passed by, and that everyone who was claimed has been woken.
-/

namespace MessageRouter.Engine

namespace Deed

variable (e : ExchangeId) (role : Role) (x : Exchange)

/-- A party that waits is claimed: it will be given its answer. -/
def claims : Deed → Bool
  | .work _ (.hand _ e') => e' == e && x.role.opposite == role && x.waiting.get role
  | .work _ (.lost h _) => h.exchange == e && !h.first && h.role == role && x.waiting.get role
  | _ => false

/-- A party that was claimed is given its answer. -/
def wakes : Deed → Bool
  | .work _ (.wake e' role') => e' == e && role' == role
  | _ => false

/-- A party does not wait any more: its send was refused, or it has waited long enough. -/
def withdraws : Deed → Bool
  | .work c (.marked e' role' _) => e' == e && role' == role && c.reply.isRefusal
  | .work _ (.waiting e' role' _) => e' == e && role' == role && !x.token.get role
  | _ => false

/-- A party that waits for an exchange that is over is passed by: it sent the exchange itself and
the other party gets it; or a later hop is lost, which only its sender learns; or whoever carries
the exchange does not deliver it. -/
def passesBy : Deed → Bool
  | .work _ (.hand _ e') => e' == e && x.role == role && x.completed && x.waiting.get role
  | .work _ (.lost h _) =>
    h.exchange == e && !h.first && h.role.opposite == role && x.waiting.get role
  | .work c (.deliver _ e') => e' == e && !c.alive && x.completed && x.waiting.get role
  | .answer (.carry _ h _ _) refused =>
    h.exchange == e && !refused && x.completed && x.waiting.get role
  | _ => false

end Deed

/-- The deeds of a history, the latest first, each with the state in which it found an exchange. -/
def deedsOf (e : ExchangeId) (h : History) : List (Exchange × Deed) :=
  h.map fun p => (p.1.router.exchange e, p.1.deed p.2)

/-- A party has been passed by, and it has been neither claimed since nor has it withdrawn. -/
def leftWaiting (e : ExchangeId) (role : Role) : List (Exchange × Deed) → Bool
  | [] => false
  | (x, d) :: rest => d.passesBy e role x ||
    (!d.claims e role x && !d.withdraws e role x && leftWaiting e role rest)

namespace Frame

/-- The frame may claim a party, or will be followed by one that may. -/
def mayClaim : Frame → Bool
  | .sent _ | .lost _ _ | .route _ | .offer .. | .offered .. | .routeTo .. | .reaching ..
  | .deliver .. | .hand .. | .call (.carry ..) => true
  | _ => false

/-- The frame wakes a party. -/
def isWake (role : Role) : Frame → Bool
  | .wake _ role' => role' == role
  | _ => false

end Frame

section

variable {c : Context} {tame : Bool} {e : ExchangeId} {role : Role} {d : Deed} {f : Frame}
  {x x' : Exchange} {fs : List Frame} {N D D' : Multiset Frame}

/-- A party that waits for an exchange that is over goes on waiting unless it is claimed or
withdraws. -/
theorem Work.waits (w : Work c x e f x' fs) (ended : x.completed = true)
    (waits : x.waiting.get role = true) (claimed : (Deed.work c f).claims e role x = false)
    (withdrawn : (Deed.work c f).withdraws e role x = false) :
    x'.completed = true ∧ x'.waiting.get role = true := by
  have clear {role' : Role} (h : role' ≠ role) : (x.waiting.set role' false).get role = true := by
    rw [PerRole.get_set, if_neg h, waits]
  cases w with
  | mark s e timeout active =>
    refine ⟨ended, ?_⟩
    simp only [Exchange.setWaiting, PerRole.get_set]
    split
    · rfl
    · exact waits
  | unmark e role' timeout refused =>
    refine ⟨ended, clear fun h => ?_⟩
    simp [Deed.withdraws, h, refused] at withdrawn
  | @giveUp e role' deadline waits' empty =>
    refine ⟨ended, clear fun h => ?_⟩
    subst h
    simp [Deed.withdraws, empty] at withdrawn
  | accept s e allowed =>
    have := (Exchange.checkSend_ok.1 allowed).1.going
    rw [ended] at this
    cases this
  | sendBack => exact ⟨rfl, waits⟩
  | @strandWaiter h err later waits' | @strand h err later free =>
    all_goals
      refine ⟨rfl, clear fun hrole => ?_⟩
      simp [Deed.claims, hrole, later, waits] at claimed
  | answers s e waits' =>
    refine ⟨ended, clear fun h => ?_⟩
    simp [Deed.claims, h, waits] at claimed
  | _ => exact ⟨ended, waits⟩

/-- A party that waits for an exchange that is over has just been passed by, may still be claimed,
or has been waiting for it before, and nothing has been done about that. -/
theorem Work.attended (w : Work c x e f x' fs)
    (terminal : x.completed = true → x.status.isTerminal = true) (N : Multiset Frame)
    (ended : x'.completed = true) (waits : x'.waiting.get role = true) :
    (Deed.work c f).passesBy e role x = true ∨ 0 < count Frame.mayClaim (fs + N) ∨
      x.completed = true ∧ x.waiting.get role = true ∧ f.mayClaim = false ∧
        (Deed.work c f).claims e role x = false ∧ (Deed.work c f).withdraws e role x = false := by
  have kept {role' : Role} (h : (x.waiting.set role' false).get role = true) :
      role' ≠ role ∧ x.waiting.get role = true := by
    rw [PerRole.get_set] at h
    split at h
    · cases h
    · exact ⟨by assumption, h⟩
  have other {role' : Role} (h : role'.opposite ≠ role) : role' = role := by
    cases role' <;> cases role <;> first | rfl | exact absurd rfl h
  cases w with
  | ends subject mayEnd =>
    refine .inr (.inr ⟨ended, waits, ?_⟩)
    cases f <;> first | exact ⟨rfl, rfl, rfl⟩ | cases mayEnd
  | mark s e timeout active =>
    rw [terminal ended] at active
    cases active
  | unmark e role' timeout refused =>
    obtain ⟨hne, hw⟩ := kept waits
    exact .inr (.inr ⟨ended, hw, rfl, rfl, by simp [Deed.withdraws, hne]⟩)
  | wait e role' timeout deadline sent =>
    exact .inr (.inr ⟨ended, waits, rfl, rfl, by simp [Deed.withdraws, sent]⟩)
  | @giveUp e role' deadline waits' empty =>
    obtain ⟨hne, hw⟩ := kept waits
    exact .inr (.inr ⟨ended, hw, rfl, rfl, by simp [Deed.withdraws, hne]⟩)
  | @takeToken e role' deadline token =>
    have : role' = role → x.token.get role = true := fun h => h ▸ token
    exact .inr (.inr ⟨ended, waits, rfl, rfl, by simpa [Deed.withdraws] using this⟩)
  | @waitOn e role' deadline claimed =>
    have : role' ≠ role := fun h => by
      rw [h] at claimed
      exact absurd (claimed.symm.trans waits) Bool.false_ne_true
    exact .inr (.inr ⟨ended, waits, rfl, rfl, by simp [Deed.withdraws, this]⟩)
  | @strandWaiter h err later waits' | @strand h err later free =>
    all_goals
      obtain ⟨hne, hw⟩ := kept waits
      refine .inl ?_
      have : h.role.opposite = role := by
        cases hr : h.role <;> cases role <;> first | rfl | exact absurd hr hne
      simp [Deed.passesBy, later, this, hw]
  | answers s e waits' =>
    obtain ⟨hne, hw⟩ := kept waits
    have hc : x.completed = true := ended
    exact .inl (by simp [Deed.passesBy, other hne, hc, hw])
  | turnsOver s e busy =>
    have hne : x.role.opposite ≠ role := fun h => by
      rw [h] at busy
      exact absurd (busy.symm.trans waits) Bool.false_ne_true
    exact .inl (by simp [Deed.passesBy, other hne, ended, waits])
  | notDelivered s e gone => exact .inl (by simp [Deed.passesBy, gone, ended, waits])
  | pins target rest denied carrier | reaches carrier =>
    all_goals
      obtain rfl | ⟨name, rfl⟩ := Frame.eq_of_isCarrier carrier <;>
        exact .inr (.inl (by simp [Frame.mayClaim]))
  | accept | sent | sendBack | searches | goesTo | loses | passesOver | considers | noFlow | seeks
    | deliver => exact .inr (.inl (by simp [Frame.mayClaim]))
  | _ => exact .inr (.inr ⟨ended, waits, rfl, rfl, rfl⟩)

/-- What a step claims it puts down to be woken, and what it wakes it takes off. -/
theorem Work.claimed (w : Work c x e f x' fs) (role : Role) (N : Multiset Frame) :
    count (Frame.isWake role) (fs + N) + ((Deed.work c f).wakes e role).toNat =
      count (Frame.isWake role) (f ::ₘ N) + ((Deed.work c f).claims e role x).toNat := by
  cases w with
  | ends subject mayEnd =>
    cases f with
    | send | sendSync | mark | dispatch | accept | enter | handle | routed =>
      all_goals simp [Frame.isWake, Deed.claims, Deed.wakes]
    | _ => cases mayEnd
  | loses err hop =>
    cases f with
    | route | offer | offered | routeTo | reaching =>
      all_goals simp [Frame.isWake, Deed.claims, Deed.wakes]
    | _ => cases hop
  | pins target rest denied carrier | reaches carrier =>
    all_goals
      obtain rfl | ⟨name, rfl⟩ := Frame.eq_of_isCarrier carrier <;>
        simp [Frame.isWake, Deed.claims, Deed.wakes]
  | @strandWaiter h err later waits =>
    by_cases hr : h.role = role
    · simp [Frame.isWake, Deed.claims, Deed.wakes, later, hr, hr ▸ waits]
    · simp [Frame.isWake, Deed.claims, Deed.wakes, beq_eq_false_iff_ne.2 hr]
  | @strand h err later free =>
    by_cases hr : h.role = role
    · simp [Frame.isWake, Deed.claims, Deed.wakes, hr ▸ free]
    · simp [Frame.isWake, Deed.claims, Deed.wakes, hr]
  | answers s e waits =>
    by_cases hr : x.role.opposite = role
    · simp [Frame.isWake, Deed.claims, Deed.wakes, hr, hr ▸ waits]
    · simp [Frame.isWake, Deed.claims, Deed.wakes, beq_eq_false_iff_ne.2 hr]
  | turnsOver s e busy =>
    by_cases hr : x.role.opposite = role
    · simp [Frame.isWake, Deed.claims, Deed.wakes, hr ▸ busy]
    · simp [Frame.isWake, Deed.claims, Deed.wakes, hr]
  | sendBack first => simp [Frame.isWake, Deed.claims, Deed.wakes, first]
  | _ => simp [Frame.isWake, Deed.claims, Deed.wakes]

/-- What is known of the parties that wait for an exchange, from the deeds that were done, the
state of the exchange and the duties about it. -/
structure Attended (e : ExchangeId) (role : Role) (deeds : List (Exchange × Deed)) (x : Exchange)
    (D : Multiset Frame) : Prop where
  terminal : x.completed = true → x.status.isTerminal = true
  attended : x.completed = true → x.waiting.get role = true →
    leftWaiting e role deeds = true ∨ 0 < count Frame.mayClaim D
  left : leftWaiting e role deeds = true → x.completed = true ∧ x.waiting.get role = true
  woken : (deeds.countP fun p => p.2.claims e role p.1) =
    (deeds.countP fun p => p.2.wakes e role) + count (Frame.isWake role) D

namespace Attended

variable {deeds : List (Exchange × Deed)}

/-- A deed that has nothing to do with parties that wait. -/
theorem congr (h : Attended e role deeds x D)
    (terminal : x'.completed = true → x'.status.isTerminal = true)
    (completed : x'.completed = x.completed) (waiting : x'.waiting = x.waiting)
    (claimers : count Frame.mayClaim D ≤ count Frame.mayClaim D')
    (wakes : count (Frame.isWake role) D' = count (Frame.isWake role) D)
    (passesBy : d.passesBy e role x = false) (claims : d.claims e role x = false)
    (withdraws : d.withdraws e role x = false) (woken : d.wakes e role = false) :
    Attended e role ((x, d) :: deeds) x' D' where
  terminal
  attended hc hw := by
    rw [completed] at hc
    rw [waiting] at hw
    refine (h.attended hc hw).imp (fun hl => ?_) fun hpos => Nat.lt_of_lt_of_le hpos claimers
    simp [leftWaiting, claims, withdraws, hl]
  left hl := by
    rw [completed, waiting]
    exact h.left (by simpa [leftWaiting, passesBy, claims, withdraws] using hl)
  woken := by
    rw [List.countP_cons, List.countP_cons, h.woken, wakes]
    simp [claims, woken]

end Attended

/-- What is done to another exchange is nothing to a party that waits for this one. -/
theorem Deed.eq_false_of_subject (h : f.subject ≠ some e) :
    (Deed.work c f).passesBy e role x = false ∧ (Deed.work c f).claims e role x = false ∧
      (Deed.work c f).withdraws e role x = false ∧ (Deed.work c f).wakes e role = false := by
  have hne {e' : ExchangeId} (he : f.subject = some e') : (e' == e) = false :=
    beq_eq_false_iff_ne.2 fun h' => h (he.trans (congrArg some h'))
  cases f with
  | hand s e' | deliver s e' | marked e' role' timeout | waiting e' role' deadline
    | wake e' role' =>
    all_goals simp [passesBy, claims, withdraws, wakes, hne rfl]
  | lost h' err => simp [passesBy, claims, withdraws, wakes, hne rfl]
  | _ => exact ⟨rfl, rfl, rfl, rfl⟩

/-- Whoever is passed by goes on waiting, and the exchange is over. -/
theorem Work.passed (w : Work c x e f x' fs) (h : (Deed.work c f).passesBy e role x = true) :
    x'.completed = true ∧ x'.waiting.get role = true := by
  have opposite_ne : role.opposite ≠ role := by cases role <;> exact fun h => by cases h
  cases w with
  | answers s e waits =>
    simp only [Deed.passesBy, Bool.and_eq_true, beq_iff_eq] at h
    obtain ⟨⟨⟨-, hr⟩, hc⟩, hw⟩ := h
    refine ⟨hc, ?_⟩
    simp only [Exchange.answered, Exchange.setWaiting, hr, PerRole.get_set, if_neg opposite_ne, hw]
  | turnsOver s e busy =>
    simp only [Deed.passesBy, Bool.and_eq_true] at h
    exact ⟨h.1.2, h.2⟩
  | sendBack first => simp [Deed.passesBy, first] at h
  | @strandWaiter hop err later waits | @strand hop err later free =>
    all_goals
      simp only [Deed.passesBy, Bool.and_eq_true, beq_iff_eq] at h
      obtain ⟨⟨-, hr⟩, hw⟩ := h
      have hne : hop.role ≠ role := fun heq => opposite_ne (heq ▸ hr)
      refine ⟨rfl, ?_⟩
      simp only [Exchange.stranded, PerRole.get_set, if_neg hne, hw]
  | deliver s e alive => simp [Deed.passesBy, alive] at h
  | notDelivered s e gone =>
    simp only [Deed.passesBy, Bool.and_eq_true] at h
    exact ⟨h.1.2, h.2⟩
  | ends subject mayEnd =>
    cases f with
    | send | sendSync | mark | dispatch | accept | enter | handle | routed => all_goals cases h
    | _ => cases mayEnd
  | loses err hop =>
    cases f with
    | route | offer | offered | routeTo | reaching => all_goals cases h
    | _ => cases hop
  | _ => cases h

theorem Work.isAttended {deeds : List (Exchange × Deed)} (w : Work c x e f x' fs)
    (h : Attended e role deeds x (f ::ₘ N)) :
    Attended e role ((x, .work c f) :: deeds) x' (fs + N) where
  terminal := w.terminal h.terminal
  attended ended waits := by
    rcases w.attended h.terminal N ended waits with hp | hc | ⟨hx, hw, hf, hclaims, hwithdraws⟩
    · exact .inl (by simp [leftWaiting, hp])
    · exact .inr hc
    · refine (h.attended hx hw).imp (fun hl => ?_) fun hpos => ?_
      · simp [leftWaiting, hclaims, hwithdraws, hl]
      · rw [count_cons, hf] at hpos
        refine Nat.lt_of_lt_of_le hpos ?_
        exact Multiset.countP_le_of_le _ (Multiset.le_add_left _ _)
  left hl := by
    simp only [leftWaiting, Bool.or_eq_true, Bool.and_eq_true, Bool.not_eq_true'] at hl
    rcases hl with hp | ⟨⟨hclaims, hwithdraws⟩, hl⟩
    · exact w.passed hp
    · obtain ⟨hc, hw⟩ := h.left hl
      exact w.waits hc hw hclaims hwithdraws
  woken := by
    have := w.claimed role N
    have toNat (b : Bool) : (if b = true then 1 else 0) = b.toNat := by cases b <;> rfl
    rw [List.countP_cons, List.countP_cons, h.woken, toNat, toNat]
    dsimp only
    omega

/-- A turn keeps what is known of the parties that wait. -/
theorem Turn.attended {deeds : List (Exchange × Deed)} (t : Turn tame e d x D x' D')
    (h : Attended e role deeds x D) : Attended e role ((x, d) :: deeds) x' D' := by
  have terminal := t.terminal h.terminal
  cases t with
  | idle idle =>
    have : d.passesBy e role x = false ∧ d.claims e role x = false ∧
        d.withdraws e role x = false ∧ d.wakes e role = false := by
      cases d with
      | work c f => cases f <;> first | exact ⟨rfl, rfl, rfl, rfl⟩ | cases idle
      | answer c refused => cases idle
      | other => exact ⟨rfl, rfl, rfl, rfl⟩
    exact h.congr terminal rfl rfl (Nat.le_refl _) rfl this.1 this.2.1 this.2.2.1 this.2.2.2
  | elsewhere other =>
    obtain ⟨hp, hc, hw, hk⟩ := Deed.eq_false_of_subject other
    exact h.congr terminal rfl rfl (Nat.le_refl _) rfl hp hc hw hk
  | @elsewhereAnswer call refused x D other =>
    refine h.congr terminal rfl rfl (Nat.le_refl _) rfl ?_ rfl rfl rfl
    cases call with
    | carry name hop s delivered =>
      have : (hop.exchange == e) = false :=
        beq_eq_false_iff_ne.2 fun h' => other (congrArg some h')
      simp [Deed.passesBy, this]
    | _ => rfl
  | work w => exact w.isAttended h
  | send | sendSync | deliver =>
    all_goals
      exact h.congr terminal rfl rfl (by simp) (by simp [Frame.isWake]) rfl rfl rfl rfl
  | delivers name s N same =>
    exact h.congr terminal rfl rfl (by simp [Frame.mayClaim]) (by simp [Frame.isWake]) rfl rfl rfl
      rfl
  | @answer x hop name s delivered N same =>
    have hp : (Deed.answer (.carry name hop s delivered) false).passesBy e role x =
        (x.completed && x.waiting.get role) := by simp [Deed.passesBy, same]
    refine ⟨terminal, fun hc hw => .inl ?_, fun hl => ?_, ?_⟩
    · simp [leftWaiting, hp, hc, hw]
    · simp only [leftWaiting, hp, Bool.or_eq_true, Bool.and_eq_true] at hl
      exact hl.elim id fun hl => h.left hl.2
    · rw [List.countP_cons, List.countP_cons, h.woken]
      simp [Deed.claims, Deed.wakes, Frame.isWake]
  | refuse name s err N same undelivered =>
    refine h.congr terminal rfl rfl ?_ ?_ ?_ rfl rfl rfl
    · simp [Frame.mayClaim]
    · simp [Frame.isWake]
    · simp [Deed.passesBy]
  | create p => exact h.congr terminal rfl rfl (Nat.le_refl _) rfl rfl rfl rfl rfl
  | change c changed =>
    have same := (Exchange.change_ok changed).1
    exact h.congr terminal same.completed same.waiting (Nat.le_refl _) rfl rfl rfl rfl rfl

end

/-! ## Quiet machines -/

namespace Frame

/-- The frame belongs to a delivery that is in progress. -/
def delivers : Frame → Bool
  | .deliver .. | .hand .. | .call (.carry ..) | .wake .. => true
  | _ => false

theorem mayClaim_eq_false {f : Frame} (hd : f.dispatches = false) (hl : f.delivers = false) :
    f.mayClaim = false := by
  cases f with
  | call c => cases c <;> first | rfl | exact hl
  | deliver | hand => exact hl
  | sent | lost | route | offer | offered | routeTo | reaching => all_goals cases hd
  | _ => rfl

end Frame

namespace Machine

variable {m : Machine}

/-- Neither a dispatch is in progress nor a delivery, which a flow may ask for at any time. -/
structure Quiet (m : Machine) : Prop where
  calm : m.Calm
  still : ∀ t, ∀ f ∈ (m.task t).frames, f.delivers = false

/-- Quiet, as it is found out by looking at all stacks. -/
def isQuiet (m : Machine) : Bool :=
  m.tasks.rows.all fun t => t.frames.all fun f => !f.dispatches && !f.delivers

theorem quiet_of_isQuiet (h : m.isQuiet = true) : m.Quiet := by
  have quiet (t : Nat) (f : Frame) (hf : f ∈ (m.task t).frames) :
      f.dispatches = false ∧ f.delivers = false := by
    have hframes := List.all_eq_true.1 h _ (mem_rows_of_mem_frames hf)
    simpa using List.all_eq_true.1 hframes f hf
  exact ⟨fun t f hf => (quiet t f hf).1, fun t f hf => (quiet t f hf).2⟩

theorem Quiet.delivers (quiet : m.Quiet) {f : Frame} (hf : f ∈ m.duties) :
    f.delivers = false := by
  obtain ⟨t, hf | ⟨h, err, rfl, -⟩⟩ := exists_frame_of_mem hf
  · exact quiet.still t f hf
  · rfl

theorem Quiet.claimers (quiet : m.Quiet) (e : ExchangeId) :
    count Frame.mayClaim (m.dutiesFor e) = 0 := by
  refine Multiset.countP_eq_zero.2 fun f hf hclaims => ?_
  have hf := (Multiset.mem_filter.1 hf).1
  rw [Frame.mayClaim_eq_false (quiet.calm.dispatches hf) (quiet.delivers hf)] at hclaims
  cases hclaims

theorem Quiet.wakes (quiet : m.Quiet) (e : ExchangeId) (role : Role) :
    count (Frame.isWake role) (m.dutiesFor e) = 0 := by
  refine Multiset.countP_eq_zero.2 fun f hf hwakes => ?_
  have := quiet.delivers (Multiset.mem_filter.1 hf).1
  cases f <;> first | cases hwakes | cases this

end Machine

variable {config : Config} {h : History} {m : Machine}

theorem Run.attended (run : Run config h m) (e : ExchangeId) (role : Role) :
    Attended e role (deedsOf e h) (m.router.exchange e) (m.dutiesFor e) := by
  obtain ⟨r, hr, p⟩ := run
  refine p.turns (P := fun h x D => Attended e role (deedsOf e h) x D) e
    (Machine.stacked_ofRouter r) (fun h : false = true => by cases h) ?_
    fun h m m' mv attended hm t => t.attended attended
  rw [Machine.dutiesFor_ofRouter, Machine.ofRouter, exchange_start hr]
  constructor
  case terminal => exact fun h => by cases h
  case attended => exact fun h => by cases h
  case left => exact fun h => by cases h
  case woken => rfl

/-- When everything is quiet, a party waits for an exchange that is over if and only if it has been
passed by; and all that have been claimed have been woken. -/
theorem Run.waiting_iff (run : Run config h m) (quiet : m.Quiet) {e : ExchangeId}
    (ended : (m.router.exchange e).completed = true) (role : Role) :
    ((m.router.exchange e).waiting.get role = true ↔ leftWaiting e role (deedsOf e h) = true) ∧
      ((deedsOf e h).countP fun p => p.2.claims e role p.1) =
        (deedsOf e h).countP fun p => p.2.wakes e role := by
  have attended := run.attended e role
  refine ⟨⟨fun hw => ?_, fun hl => (attended.left hl).2⟩, ?_⟩
  · refine (attended.attended ended hw).resolve_right fun hpos => ?_
    rw [quiet.claimers] at hpos
    exact absurd hpos (Nat.lt_irrefl 0)
  · rw [attended.woken, quiet.wakes, Nat.add_zero]

/-- The consumer waits for an exchange that comes back done. -/
def Cue.answered : List Cue :=
  awaiting .inOnly ++ [operate (.change ⟨0⟩ (.status .done)), request 1 (.send ⟨0⟩ ⟨0⟩), runs 1]

theorem Run.waiting_iff_answered : ∃ h m, Run {} h m ∧ m.Quiet ∧
    (m.router.exchange ⟨0⟩).completed = true ∧
    ((m.router.exchange ⟨0⟩).waiting.get .consumer = true ↔
      leftWaiting ⟨0⟩ .consumer (deedsOf ⟨0⟩ h) = true) ∧
    ((deedsOf ⟨0⟩ h).countP fun p => p.2.claims ⟨0⟩ .consumer p.1) =
      (deedsOf ⟨0⟩ h).countP fun p => p.2.wakes ⟨0⟩ .consumer := by
  obtain ⟨h, m, p, hq⟩ := Path.exists_of_enact .usual Cue.answered
    (fun p => p.2.isQuiet && (p.2.router.exchange ⟨0⟩).completed) (by rfl)
  obtain ⟨hquiet, ended⟩ := Bool.and_eq_true_iff.1 hq
  have quiet := Machine.quiet_of_isQuiet hquiet
  exact ⟨h, m, p.run, quiet, ended, p.run.waiting_iff quiet ended .consumer⟩

/-- The consumer waits, and the only flow carries the exchange to the provider but not back. -/
def Cue.refusedReply : List Cue :=
  opening .inOut ++
    [operate (.setFlows [⟨some "flow", .custom, ∅⟩]), request 0 (.sendSync ⟨1⟩ ⟨0⟩ none), runs 0,
      answer 0 (.answer true), runs 0, request 0 (.deliver ⟨0⟩ ⟨0⟩), runs 0, answer 0 .done, runs 0,
      runs 1] ++
    answering 1 ++ [answer 1 (.answer false), runs 1]

/-- The exchange is over, nothing is under way, and the consumer still waits. -/
theorem Run.waiting_refusedReply : ∃ h m, Run {} h m ∧ Tame h ∧ m.Quiet ∧
    (m.router.exchange ⟨0⟩).completed = true ∧
    (m.router.exchange ⟨0⟩).waiting.get .consumer = true := by
  obtain ⟨h, m, p, hq⟩ := Path.exists_of_enact .usual Cue.refusedReply
    (fun p => p.1.all (fun q => q.1.isTame q.2) && p.2.isQuiet &&
      (p.2.router.exchange ⟨0⟩).completed && (p.2.router.exchange ⟨0⟩).waiting.get .consumer)
    (by rfl)
  simp only [Bool.and_eq_true, List.all_eq_true] at hq
  obtain ⟨⟨⟨tame, hquiet⟩, ended⟩, waits⟩ := hq
  exact ⟨h, m, p.run, tame, Machine.quiet_of_isQuiet hquiet, ended, waits⟩

end MessageRouter.Engine
