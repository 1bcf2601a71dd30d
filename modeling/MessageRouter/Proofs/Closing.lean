import MessageRouter.Proofs.Custody

/-!
# How an exchange ends

The dispatch that completes an exchange releases it before it is through: until then exactly one
duty, `Frame.closes`, has that still to do.  As long as a dispatch has not passed the exchange on
it is not released, so the slots that it names are counted for it.
-/

namespace MessageRouter.Engine

namespace Frame

/-- The hop that a dispatch has not found a carrier for yet. -/
def routing? : Frame → Option Hop
  | .sent h | .lost h _ | .route h | .offer h _ _ _ | .offered h _ _ _ _ | .routeTo h _
  | .reaching h _ => some h
  | _ => none

/-- The hop whose exchange has not been delivered yet. -/
def aloft? : Frame → Option Hop
  | .call (.carry _ h _ false) => some h
  | f => f.routing?

/-- The frame of the dispatch that will release the exchange before it is through. -/
def closes : Frame → Bool
  | .release _ => true
  | .routed h => h.terminal
  | f => f.routing?.any (·.terminal)

/-- A slot is looked for. -/
def searching : Frame → Bool
  | .offer .. | .offered .. => true
  | _ => false

/-- The exchange is on its way to a slot that it has been pinned to before. -/
def boundTo (s : SlotId) : Frame → Bool
  | .routeTo _ s' | .reaching _ s' => s' == s
  | _ => false

variable {f : Frame} {h : Hop}

theorem aloft?_of_routing? (hf : f.routing? = some h) : f.aloft? = some h := by
  cases f <;> first | exact hf | cases hf

theorem carries_of_aloft? (hf : f.aloft? = some h) : f.carries = true := by
  unfold aloft? at hf
  split at hf
  · rfl
  · cases f <;> first | rfl | cases hf

theorem aloft?_eq_none_of_carries (hf : f.carries = false) : f.aloft? = none := by
  by_contra hne
  obtain ⟨h, hh⟩ := Option.ne_none_iff_exists'.1 hne
  rw [carries_of_aloft? hh] at hf
  cases hf

theorem routing?_of_hop? (hf : f.hop? = some h) : f.routing? = some h := by
  cases f <;> first | exact hf | cases hf

/-- A hop that no dispatch looks a way for any more is carried by a flow. -/
theorem eq_carry_of_aloft? (hf : f.aloft? = some h) (hr : f.routing? = none) :
    ∃ name s, f = .call (.carry name h s false) := by
  unfold aloft? at hf
  split at hf
  · cases hf
    exact ⟨_, _, rfl⟩
  · rw [hr] at hf
    cases hf

theorem closes_of_routing? (hf : f.routing? = some h) : f.closes = h.terminal := by
  cases f <;> cases hf <;> rfl

theorem routing?_eq_none (hf : f.aloft? = none) : f.routing? = none := by
  by_contra hne
  obtain ⟨h, hh⟩ := Option.ne_none_iff_exists'.1 hne
  rw [aloft?_of_routing? hh] at hf
  cases hf

theorem searching_eq_false (hf : f.routing? = none) : f.searching = false := by
  cases f <;> first | rfl | cases hf

theorem boundTo_eq_false {s : SlotId} (hf : f.routing? = none) : f.boundTo s = false := by
  cases f <;> first | rfl | cases hf

end Frame

/-- What the duties about an exchange say about its state. -/
structure Sound (x : Exchange) (D : Multiset Frame) : Prop where
  custody : InCustody x D
  released : x.released = true → x.completed = true
  /-- Until an exchange that is over has been released, one duty has that still to do. -/
  closing : count Frame.closes D = (x.completed && !x.released).toNat
  aloft : ∀ f ∈ D, ∀ h, f.aloft? = some h →
    h.terminal = x.completed ∧ x.released = false ∧ x.source.isSome = true
  started : x.destination.isSome = true → x.source.isSome = true
  unpinned : ∀ f ∈ D, f.searching = true → x.destination = none
  bound : ∀ f ∈ D, ∀ s, f.boundTo s = true → x.source = some s ∨ x.destination = some s

theorem count_quiet {p : Frame → Bool} {fs : List Frame} (h : ∀ f ∈ fs, p f = false)
    (N : Multiset Frame) : count p (fs + N) = count p N := by
  induction fs with
  | nil => exact count_nil_add ..
  | cons f fs ih =>
    rw [count_cons_add, ih fun g hg => h g (List.mem_cons_of_mem _ hg), h f List.mem_cons_self]
    rfl

namespace Sound

variable {x x' : Exchange} {D D' N : Multiset Frame} {f g : Frame} {fs : List Frame} {h : Hop}

/-- The duties of dispatches are left alone by anything that neither ends nor moves the exchange. -/
theorem congr (sound : Sound x D) (custody : InCustody x' D')
    (closing : count Frame.closes D' = count Frame.closes D)
    (known : ∀ f ∈ D', f.aloft? ≠ none → f ∈ D)
    (source : x'.source = x.source) (destination : x'.destination = x.destination)
    (completed : x'.completed = x.completed) (released : x'.released = x.released) :
    Sound x' D' where
  custody
  released := by rw [released, completed]; exact sound.released
  closing := by rw [released, completed, closing]; exact sound.closing
  aloft f hf h hh := by
    rw [completed, released, source]
    exact sound.aloft f (known f hf (by rw [hh]; exact Option.some_ne_none h)) h hh
  started := by rw [source, destination]; exact sound.started
  unpinned f hf hs := by
    rw [destination]
    refine sound.unpinned f (known f hf fun ha => ?_) hs
    rw [Frame.searching_eq_false (Frame.routing?_eq_none ha)] at hs
    cases hs
  bound f hf s hs := by
    rw [source, destination]
    refine sound.bound f (known f hf fun ha => ?_) s hs
    rw [Frame.boundTo_eq_false (Frame.routing?_eq_none ha)] at hs
    cases hs

/-- Frames that are no part of a dispatch come and go. -/
theorem quiet (sound : Sound x (f ::ₘ N)) (custody : InCustody x' (fs + N))
    (hf : f.closes = false) (hfs : ∀ g ∈ fs, g.closes = false ∧ g.aloft? = none)
    (source : x'.source = x.source) (destination : x'.destination = x.destination)
    (completed : x'.completed = x.completed) (released : x'.released = x.released) :
    Sound x' (fs + N) := by
  refine sound.congr custody ?_ (fun g hg hs => ?_) source destination completed released
  · rw [count_quiet fun g hg => (hfs g hg).1, count_cons, hf]
    rfl
  · rcases Multiset.mem_add.1 hg with hg | hg
    · exact absurd (hfs g hg).2 hs
    · exact Multiset.mem_cons_of_mem hg

/-- A hop that no flow carries yet goes on to its next frame. -/
theorem hop (sound : Sound x (f ::ₘ N)) (custody : InCustody x ([g] + N))
    (hf : f.routing? = some h) (hg : g.routing? = some h)
    (searching : g.searching = true → x.destination = none)
    (boundTo : ∀ s, g.boundTo s = true → x.source = some s ∨ x.destination = some s) :
    Sound x ([g] + N) where
  custody
  released := sound.released
  closing := by
    rw [← sound.closing]
    simp only [count_cons_add, count_nil_add, count_cons, Frame.closes_of_routing? hf,
      Frame.closes_of_routing? hg]
  aloft g' hg' h' hh' := by
    rcases Multiset.mem_add.1 hg' with hg' | hg'
    · obtain rfl := List.mem_singleton.1 hg'
      have hhop := (Frame.aloft?_of_routing? hg).symm.trans hh'
      exact sound.aloft f (Multiset.mem_cons_self ..) h'
        ((Frame.aloft?_of_routing? hf).trans hhop)
    · exact sound.aloft g' (Multiset.mem_cons_of_mem hg') h' hh'
  started := sound.started
  unpinned g' hg' hs := by
    rcases Multiset.mem_add.1 hg' with hg' | hg'
    · obtain rfl := List.mem_singleton.1 hg'
      exact searching hs
    · exact sound.unpinned g' (Multiset.mem_cons_of_mem hg') hs
  bound g' hg' s hs := by
    rcases Multiset.mem_add.1 hg' with hg' | hg'
    · obtain rfl := List.mem_singleton.1 hg'
      exact boundTo s hs
    · exact sound.bound g' (Multiset.mem_cons_of_mem hg') s hs

/-- Once no dispatch looks for a slot only the end of the exchange is at issue. -/
theorem of_closing (custody : InCustody x D) (released : x.released = true → x.completed = true)
    (closing : count Frame.closes D = (x.completed && !x.released).toNat)
    (started : x.destination.isSome = true → x.source.isSome = true)
    (aloft : ∀ f ∈ D, f.aloft? = none ∨ f.searching = false ∧ (∀ s, f.boundTo s = false) ∧
      ∀ h, f.aloft? = some h →
        h.terminal = x.completed ∧ x.released = false ∧ x.source.isSome = true) :
    Sound x D where
  custody
  released
  closing
  started
  aloft f hf h hh := by
    obtain ha | ⟨-, -, ha⟩ := aloft f hf
    · rw [ha] at hh
      cases hh
    · exact ha h hh
  unpinned f hf hs := by
    obtain ha | ⟨ha, -, -⟩ := aloft f hf
    · rw [Frame.searching_eq_false (Frame.routing?_eq_none ha)] at hs
      cases hs
    · rw [ha] at hs
      cases hs
  bound f hf s hs := by
    obtain ha | ⟨-, ha, -⟩ := aloft f hf
    · rw [Frame.boundTo_eq_false (Frame.routing?_eq_none ha)] at hs
      cases hs
    · rw [ha s] at hs
      cases hs

theorem aloft?_eq_none (sound : Sound x (f ::ₘ N)) (hf : f.carries = true) (hg : g ∈ N) :
    g.aloft? = none :=
  Frame.aloft?_eq_none_of_carries (sound.custody.alone hf hg)

/-- A flow takes over the exchange, and the hop waits for it. -/
theorem carried {s : SlotId} (sound : Sound x (f ::ₘ N))
    (custody : InCustody x' ([g, .routed h] + N)) (hf : f.routing? = some h)
    (hg : g.isCarrier s h = true) (source : x'.source = x.source)
    (completed : x'.completed = x.completed) (released : x'.released = x.released) :
    Sound x' ([g, .routed h] + N) := by
  have hx := sound.aloft f (Multiset.mem_cons_self ..) h (Frame.aloft?_of_routing? hf)
  have others : ∀ g ∈ N, g.aloft? = none := fun g hg =>
    sound.aloft?_eq_none (Frame.carries_of_aloft? (Frame.aloft?_of_routing? hf)) hg
  rw [← completed, ← released, ← source] at hx
  refine of_closing custody (by rw [completed, released]; exact sound.released) ?_
    (fun _ => hx.2.2) ?_
  · rw [completed, released, ← sound.closing]
    simp only [count_cons_add, count_nil_add, count_cons, Frame.closes_of_routing? hf]
    obtain rfl | ⟨name, rfl⟩ := Frame.eq_of_isCarrier hg <;> rfl
  · simp only [Multiset.mem_add, Multiset.mem_coe, List.mem_cons, List.not_mem_nil, or_false]
    rintro g' ((rfl | rfl) | hg')
    · obtain rfl | ⟨name, rfl⟩ := Frame.eq_of_isCarrier hg
      · exact .inl rfl
      · exact .inr ⟨rfl, fun _ => rfl, fun h' hh' => Option.some.inj hh' ▸ hx⟩
    · exact .inl rfl
    · exact .inl (others g' hg')

/-- A dispatch that has lost the exchange ends it, and will release it. -/
theorem lost {err : RouterError} (sound : Sound x (.lost h err ::ₘ N))
    (custody : InCustody x' (fs + N)) (hfs : ∀ g ∈ fs, g.aloft? = none)
    (closes : count Frame.closes (fs + N) = count Frame.closes N + 1)
    (source : x'.source = x.source) (completed : x'.completed = true)
    (released : x'.released = x.released) : Sound x' (fs + N) := by
  obtain ⟨hx, hr, hs⟩ := sound.aloft _ (Multiset.mem_cons_self ..) h rfl
  have others : ∀ g ∈ N, g.aloft? = none := fun g hg => sound.aloft?_eq_none rfl hg
  have landed : ∀ g ∈ (fs + N : Multiset Frame), g.aloft? = none := fun g hg =>
    (Multiset.mem_add.1 hg).elim (hfs g) (others g)
  refine of_closing custody (fun _ => completed) ?_ (fun _ => source ▸ hs)
    fun g hg => .inl (landed g hg)
  have := sound.closing
  simp only [count_cons, Frame.closes, Frame.routing?, Option.any_some, hx, hr, Bool.not_false,
    Bool.and_true] at this
  rw [closes, completed, released, hr, Bool.not_false, Bool.and_true, Bool.toNat_true]
  omega

/-- An accepted send finds the exchange at rest: nobody has it, and nothing is to be released. -/
theorem accepted {s : SlotId} {e : ExchangeId} (sound : Sound x (.accept s e ::ₘ N))
    (custody : InCustody (x.sentBy s) ([Frame.sent h] + N)) (rest : x.AtRest)
    (terminal : h.terminal = x.status.isTerminal) : Sound (x.sentBy s) ([Frame.sent h] + N) := by
  have hr : x.released = false := by
    by_contra hr
    have := sound.released (eq_true_of_ne_false hr)
    rw [rest.going] at this
    cases this
  have none : ∀ g ∈ N, g.aloft? = none := fun g hg =>
    Frame.aloft?_eq_none_of_carries
      (sound.custody.carries_eq_false rest.arrived (Multiset.mem_cons_of_mem hg))
  have hclosing := sound.closing
  simp only [count_cons, Frame.closes, Frame.routing?, rest.going, Option.any_none,
    Bool.false_and, Bool.toNat_false] at hclosing
  refine of_closing custody (fun h => absurd (hr.symm.trans h) Bool.false_ne_true) ?_
    (fun _ => rfl) ?_
  · simp only [count_cons_add, count_nil_add, Frame.closes, Frame.routing?, Option.any_some,
      terminal, Exchange.sentBy, hr, Bool.not_false, Bool.and_true]
    omega
  · simp only [Multiset.mem_add, Multiset.mem_coe, List.mem_singleton]
    rintro g (rfl | hg)
    · refine .inr ⟨rfl, fun _ => rfl, fun h' hh' => ?_⟩
      cases hh'
      exact ⟨terminal, hr, rfl⟩
    · exact .inl (none g hg)

/-- Nobody has an exchange that is about to be released. -/
theorem landed {e : ExchangeId} (sound : Sound x (.release e ::ₘ N)) (paired : Paired N) :
    x.completed = true ∧ count Frame.closes N = 0 ∧ ∀ g ∈ N, g.aloft? = none := by
  have hclosing := sound.closing
  have hle := Bool.toNat_le (x.completed && !x.released)
  simp only [count_cons, Frame.closes, Bool.toNat_true] at hclosing
  have hx : (x.completed && !x.released) = true := by
    by_contra hx
    rw [eq_false_of_ne_true hx] at hclosing
    cases hclosing
  have hnone : count Frame.closes N = 0 := by omega
  have hcompleted := (Bool.and_eq_true_iff.1 hx).1
  refine ⟨hcompleted, hnone, fun g hg => ?_⟩
  by_contra hne
  obtain ⟨h, hh⟩ := Option.ne_none_iff_exists'.1 hne
  have hterminal := (sound.aloft g (Multiset.mem_cons_of_mem hg) h hh).1.trans hcompleted
  -- The hop is terminal, so its dispatch has a duty of its own to release the exchange.
  obtain ⟨g', hg', hcloses⟩ : ∃ g' ∈ N, g'.closes = true := by
    rcases hr : g.routing? with _ | h'
    · obtain ⟨name, s, rfl⟩ := Frame.eq_carry_of_aloft? hh hr
      exact ⟨_, paired _ _ _ _ hg, hterminal⟩
    · obtain rfl := Option.some.inj ((Frame.aloft?_of_routing? hr).symm.trans hh)
      exact ⟨g, hg, (Frame.closes_of_routing? hr).trans hterminal⟩
  have : 0 < count Frame.closes N := count_pos.2 ⟨g', hg', hcloses⟩
  omega

theorem released_step {e : ExchangeId} (sound : Sound x (.release e ::ₘ N)) (paired : Paired N)
    (custody : InCustody { x with released := true } N) :
    Sound { x with released := true } N := by
  obtain ⟨hcompleted, hnone, hlanded⟩ := sound.landed paired
  exact of_closing custody (fun _ => hcompleted) (by simpa using hnone) sound.started
    fun g hg => .inl (hlanded g hg)

end Sound

/-! ## Turns -/

section

variable {c : Context} {x x' : Exchange} {e : ExchangeId} {f : Frame} {fs : List Frame}
  {N : Multiset Frame}

/-- The work on a duty keeps what the duties say. -/
theorem Work.sound (w : Work c x e f x' fs) (h : Sound x (f ::ₘ N)) (paired : Paired N) :
    Sound x' (fs + N) := by
  have custody := w.inCustody h.custody
  cases w with
  | accept s e allowed => exact h.accepted custody (Exchange.checkSend_ok.1 allowed).1 rfl
  | sent hop => exact h.hop custody rfl rfl (by intro h; cases h) (by intro _ h; cases h)
  | sendBack first =>
    refine h.lost custody ?_ (by simp [Frame.closes, Frame.routing?]) rfl rfl rfl
    simp [Frame.aloft?, Frame.routing?]
  | strandWaiter later waits | strand later free =>
    refine h.lost custody ?_ (by simp [Frame.closes, Frame.routing?]) (x.source_stranded ..) rfl
      (x.released_stranded ..)
    simp [Frame.aloft?, Frame.routing?]
  | ended terminal =>
    refine h.congr custody ?_ ?_ rfl rfl rfl rfl
    · simp [Frame.closes, terminal]
    · simp only [Multiset.mem_add, Multiset.mem_coe, List.mem_singleton]
      rintro g (rfl | hg) hne
      · exact absurd rfl hne
      · exact Multiset.mem_cons_of_mem hg
  | release e =>
    rw [Multiset.coe_nil, zero_add] at custody ⊢
    exact h.released_step paired custody
  | searches turn unpinned =>
    exact h.hop custody rfl rfl (fun _ => unpinned) (by intro _ h; cases h)
  | goesTo known =>
    refine h.hop custody rfl rfl (by intro h; cases h) fun s hs => ?_
    obtain rfl := beq_iff_eq.1 hs
    exact known.elim (fun hk => .inr hk.2) fun hk => .inl hk.2
  | loses err hop =>
    exact h.hop custody (Frame.routing?_of_hop? hop) rfl (by intro h; cases h)
      (by intro _ h; cases h)
  | passesOver | considers | noFlow =>
    exact h.hop custody rfl rfl (fun _ => h.unpinned _ (Multiset.mem_cons_self ..) rfl)
      (by intro _ h; cases h)
  | seeks hop s =>
    exact h.hop custody rfl rfl (by intro h; cases h) fun s' hs =>
      h.bound _ (Multiset.mem_cons_self ..) s' hs
  | pins target rest denied carrier => exact h.carried custody rfl carrier rfl rfl rfl
  | reaches carrier => exact h.carried custody rfl carrier rfl rfl rfl
  | ends subject mayEnd =>
    refine h.quiet custody ?_ (by simp) rfl rfl rfl rfl
    cases f <;> first | rfl | cases mayEnd | skip
    simpa [Frame.mayEnd, Frame.closes] using mayEnd
  | _ =>
    refine h.quiet custody rfl ?_ rfl rfl rfl rfl
    simp [Frame.closes, Frame.aloft?, Frame.routing?]

/-- A turn keeps what the duties about an exchange say. -/
theorem Turn.sound {d : Deed} {D D' : Multiset Frame} (t : Turn true e d x D x' D')
    (h : Sound x D) : Sound x' D' := by
  have custody := t.inCustody h.custody
  cases t with
  | idle | elsewhere | elsewhereAnswer => exact h
  | work w paired => exact w.sound h paired
  | send | sendSync =>
    refine h.congr custody (by simp [Frame.closes, Frame.routing?]) (fun g hg hne => ?_) rfl rfl
      rfl rfl
    rcases Multiset.mem_cons.1 hg with rfl | hg
    · exact absurd rfl hne
    · exact hg
  | deliver s wild => cases wild
  | delivers name s N same =>
    refine h.congr custody (by simp [Frame.closes, Frame.routing?]) (fun g hg hne => ?_) rfl rfl
      rfl rfl
    rcases Multiset.mem_cons.1 hg with rfl | hg
    · exact absurd rfl hne
    · rcases Multiset.mem_cons.1 hg with rfl | hg
      · exact absurd rfl hne
      · exact Multiset.mem_cons_of_mem hg
  | answer name s delivered N same =>
    exact h.congr custody (by simp [Frame.closes, Frame.routing?])
      (fun g hg _ => Multiset.mem_cons_of_mem hg) rfl rfl rfl rfl
  | @refuse x hop delivered name s err N same undelivered =>
    cases undelivered rfl
    have hx := h.aloft _ (Multiset.mem_cons_self ..) hop rfl
    refine .of_closing custody h.released ?_ h.started fun g hg => ?_
    · rw [← h.closing]
      simp [Frame.closes, Frame.routing?]
    · rcases Multiset.mem_cons.1 hg with rfl | hg
      · exact .inr ⟨rfl, fun _ => rfl, fun h' hh' => Option.some.inj hh' ▸ hx⟩
      · exact .inl (h.aloft?_eq_none rfl (Multiset.mem_cons_of_mem hg))
  | create p =>
    exact h.congr custody rfl (fun _ hg _ => hg) rfl rfl rfl rfl
  | change c changed =>
    have same := (Exchange.change_ok changed).1
    exact h.congr custody rfl (fun _ hg _ => hg) same.source same.destination same.completed
      same.released

theorem Work.terminal (w : Work c x e f x' fs)
    (h : x.completed = true → x.status.isTerminal = true) :
    x'.completed = true → x'.status.isTerminal = true := by
  cases w with
  | accept => exact id
  | sendBack => exact fun _ => rfl
  | strandWaiter later waits | strand later free =>
    all_goals exact fun _ => x.isTerminal_stranded ..
  | fails => exact fun _ => rfl
  | _ => exact h

/-- An exchange that is over has ended done or failed. -/
theorem Turn.terminal {tame : Bool} {d : Deed} {D D' : Multiset Frame}
    (t : Turn tame e d x D x' D')
    (h : x.completed = true → x.status.isTerminal = true) :
    x'.completed = true → x'.status.isTerminal = true := by
  cases t with
  | work w => exact w.terminal h
  | create => exact h
  | change c changed =>
    obtain ⟨same, going⟩ := Exchange.change_ok changed
    intro hc
    rw [h (same.completed ▸ hc)] at going
    cases going
  | _ => exact h

end

/-- In every run an exchange that is over has ended done or failed. -/
theorem Run.terminal {config : Config} {h : History} {m : Machine} (run : Run config h m)
    (e : ExchangeId) : (m.router.exchange e).completed = true →
      (m.router.exchange e).status.isTerminal = true := by
  refine run.turns (P := fun x _ => x.completed = true → x.status.isTerminal = true) e
    (fun h : false = true => by cases h) (fun h => by cases h) ?_
  exact fun _ _ _ _ _ h t => t.terminal h

/-- Nobody has anything to do with a new exchange. -/
theorem sound_start : Sound default 0 :=
  .of_closing (Nat.le_refl _) (by intro h; cases h) rfl (by intro h; cases h)
    fun f hf => absurd hf (Multiset.notMem_zero f)

/-- In a tame run the duties about every exchange say the truth about it. -/
theorem Run.sound {config : Config} {h : History} {m : Machine} (run : Run config h m)
    (tame : Tame h) (e : ExchangeId) : Sound (m.router.exchange e) (m.dutiesFor e) :=
  run.turns e (fun _ => tame) sound_start fun _ _ _ _ _ hs t => t.sound hs

/-! ## Dispatches in progress -/

namespace Frame

/-- The frame belongs to a dispatch that has not returned yet. -/
def dispatches : Frame → Bool
  | .dispatch .. | .accept .. | .routed _ | .release _ => true
  | f => f.routing?.isSome

theorem dispatches_of_closes {f : Frame} (h : f.closes = true) : f.dispatches = true := by
  cases f <;> first | rfl | cases h

end Frame

namespace Machine

variable {m : Machine}

/-- No dispatch is in progress. -/
def Calm (m : Machine) : Prop := ∀ t, ∀ f ∈ (m.task t).frames, f.dispatches = false

/-- Without a dispatch no frame of one is a duty. -/
theorem Calm.dispatches (calm : m.Calm) {f : Frame} (hf : f ∈ m.duties) : f.dispatches = false := by
  obtain ⟨t, hf | ⟨h, err, rfl, hr⟩⟩ := exists_frame_of_mem hf
  · exact calm t f hf
  · exact absurd (calm t _ hr) (fun h => by cases h)

/-- Without a dispatch nothing is left to be released. -/
theorem Calm.closes (calm : m.Calm) (e : ExchangeId) : count Frame.closes (m.dutiesFor e) = 0 := by
  refine Multiset.countP_eq_zero.2 fun f hf hcloses => ?_
  have := calm.dispatches (Multiset.mem_filter.1 hf).1
  rw [Frame.dispatches_of_closes hcloses] at this
  cases this

end Machine

end MessageRouter.Engine
