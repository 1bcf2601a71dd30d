import MessageRouter.Proofs.Stacks

/-!
# Effects

What a move does to the router and to the duties of the machine.  A move works on one duty, or
adds one, or a call is answered; all other duties stay as they are.  `Machine.effect_of_move`
forgets on which task a duty is, which no property of the router as a whole depends on.
-/

namespace MessageRouter.Engine

/-- What is done in a move. -/
inductive Deed where
  /-- A task works on its top frame. -/
  | work (c : Context) (f : Frame)
  /-- Someone answers a call. -/
  | answer (c : Call) (refused : Bool)
  | other

namespace Deed

/-- A deed after which everything may be as it was: a hop learns of a refusal that counts as
its duty already. -/
def mayIdle : Deed → Bool
  | .work _ (.routed _) | .other => true
  | _ => false

end Deed

/-- What a move is about. -/
def Machine.deed (m : Machine) : Move → Deed
  | .advance t =>
    match (m.task t).frames with
    | f :: _ => .work ⟨m.routerAlive, m.now, (m.task t).reply⟩ f
    | [] => .other
  | .answer t reply =>
    match (m.task t).call? with
    | some c => .answer c reply.isRefusal
    | none => .other
  | _ => .other

namespace Call

/-- A flow is asked to carry an exchange. -/
def isCarry : Call → Bool
  | .carry .. => true
  | _ => false

end Call

/-! ## Flows and the hops they carry -/

/-- Under every call of a flow there is the hop that it carries. -/
def Paired (N : Multiset Frame) : Prop :=
  ∀ name h s delivered, .call (.carry name h s delivered) ∈ N → .routed h ∈ N

theorem paired_of_stacked {frames : List Frame} (h : Stacked frames) :
    Paired (frames : Multiset Frame) := by
  intro name hop s delivered hmem
  induction frames with
  | nil => cases hmem
  | cons f rest ih =>
    rcases List.mem_cons.1 hmem with rfl | hmem
    · have htop := h.1
      cases rest with
      | nil => cases htop
      | cons g rest =>
        cases g with
        | routed hop' =>
          have : hop = hop' := htop
          exact List.mem_cons_of_mem _ (this ▸ List.mem_cons_self)
        | _ => cases htop
    · exact List.mem_cons_of_mem _ (ih h.2 hmem)

theorem paired_dutiesOn {frames : List Frame} (h : Stacked frames) (reply : Reply) :
    Paired (dutiesOn reply frames : Multiset Frame) := by
  intro name hop s delivered hmem
  cases frames with
  | nil => cases hmem
  | cons f rest =>
    have hf : .call (.carry name hop s delivered) ∈ f :: rest := by
      rcases List.mem_cons.1 hmem with hf | hmem
      · refine List.mem_cons.2 (.inl ?_)
        cases reply <;> cases f <;> first | exact hf | cases hf
      · exact List.mem_cons_of_mem _ hmem
    rcases List.mem_cons.1 (paired_of_stacked h _ _ _ _ hf) with hr | hr
    · rw [← hr] at h
      rcases List.mem_cons.1 hf with hf | hf
      · rw [← hf] at hr
        cases hr
      · exact List.mem_cons_of_mem _ (paired_of_stacked h.2 _ _ _ _ hf)
    · exact List.mem_cons_of_mem _ hr

theorem Paired.add {M N : Multiset Frame} (hM : Paired M) (hN : Paired N) : Paired (M + N) :=
  fun name h s delivered hmem => Multiset.mem_add.2 <|
    (Multiset.mem_add.1 hmem).imp (hM name h s delivered) (hN name h s delivered)

/-! ## Effects of deeds -/

/-- What a deed makes of a router and the duties on it.  In a tame run flows keep their
contract. -/
inductive Effect (tame : Bool) :
    Deed → Router → Multiset Frame → Router → Multiset Frame → Prop
  | idle {d : Deed} {r : Router} {D : Multiset Frame} (idle : d.mayIdle = true) :
    Effect tame d r D r D
  | work {c : Context} {r : Router} {f : Frame} {o : Outcome} {N : Multiset Frame}
    (step : Frame.Becomes c r f o) (ready : f.pending c.reply = f) (paired : Paired N) :
    Effect tame (.work c f) r (f ::ₘ N) (o.router r) (o.frames + N)
  | request {r : Router} {D : Multiset Frame} {f : Frame} (request : f.isRequest = true)
    (other : ∀ s e, f ≠ .deliver s e) : Effect tame .other r D r (f ::ₘ D)
  | deliver {r : Router} {D : Multiset Frame} (s : SlotId) (e : ExchangeId)
    (wild : tame = false) : Effect tame .other r D r (.deliver s e ::ₘ D)
  | delivers {r : Router} (name : String) (h : Hop) (s : SlotId) (N : Multiset Frame) :
    Effect tame .other r (.call (.carry name h s false) ::ₘ N) r
      (.deliver s h.exchange ::ₘ .call (.carry name h s true) ::ₘ N)
  | answer {r : Router} {c : Call} {refused : Bool} (N : Multiset Frame)
    (carried : c.isCarry = true → refused = false) :
    Effect tame (.answer c refused) r (.call c ::ₘ N) r N
  | refuse {r : Router} {name : String} {s : SlotId} {delivered : Bool} {h : Hop}
    (err : RouterError) (N : Multiset Frame) (undelivered : tame = true → delivered = false) :
    Effect tame (.answer (.carry name h s delivered) true) r
      (.call (.carry name h s delivered) ::ₘ .routed h ::ₘ N) r (.lost h err ::ₘ N)
  | operate {r : Router} {D : Multiset Frame} (o : Operation) (alive : Bool) :
    Effect tame .other r D (o.apply alive r) D
  | fork {r : Router} {D : Multiset Frame} :
    Effect tame .other r D r (.call .application ::ₘ D)

/-- What is known of the data of duties stays known if it is known of the data of those that a step
leaves; what comes from outside, and a hop that is refused, has no such data. -/
theorem Effect.traced {α : Type} (data : Frame → Option α) (known : α → Prop) {tame : Bool}
    {d : Deed} {r r' : Router} {D D' : Multiset Frame} (ef : Effect tame d r D r' D')
    (request : ∀ f, f.isRequest = true → data f = none) (call : ∀ c, data (.call c) = none)
    (lost : ∀ h err, data (.lost h err) = none)
    (before : ∀ f ∈ D, ∀ a, data f = some a → known a)
    (left : ∀ c f o, d = .work c f → f ∈ D → Frame.Becomes c r f o → ∀ g ∈ o.frames, ∀ a,
      data g = some a → known a) :
    ∀ f ∈ D', ∀ a, data f = some a → known a := by
  have none {f : Frame} {a : α} (hn : data f = none) (ha : data f = some a) : known a := by
    rw [hn] at ha
    cases ha
  intro g hg a ha
  cases ef with
  | idle | operate => all_goals exact before g hg a ha
  | work step ready paired =>
    rcases Multiset.mem_add.1 hg with hg | hg
    · exact left _ _ _ rfl (Multiset.mem_cons_self ..) step g hg a ha
    · exact before g (Multiset.mem_cons_of_mem hg) a ha
  | @request _ _ f isRequest =>
    rcases Multiset.mem_cons.1 hg with rfl | hg
    · exact none (request g isRequest) ha
    · exact before g hg a ha
  | deliver =>
    rcases Multiset.mem_cons.1 hg with rfl | hg
    · exact none (request _ rfl) ha
    · exact before g hg a ha
  | delivers =>
    simp only [Multiset.mem_cons] at hg
    rcases hg with rfl | rfl | hg
    · exact none (request _ rfl) ha
    · exact none (call _) ha
    · exact before g (Multiset.mem_cons_of_mem hg) a ha
  | answer => exact before g (Multiset.mem_cons_of_mem hg) a ha
  | refuse =>
    rcases Multiset.mem_cons.1 hg with rfl | hg
    · exact none (lost _ _) ha
    · exact before g (Multiset.mem_cons_of_mem (Multiset.mem_cons_of_mem hg)) a ha
  | fork =>
    rcases Multiset.mem_cons.1 hg with rfl | hg
    · exact none (call _) ha
    · exact before g hg a ha

namespace Machine

variable {m m' : Machine}

/-- A task has frames only if it is there. -/
theorem mem_rows_of_mem_frames {t : Nat} {f : Frame} (hf : f ∈ (m.task t).frames) :
    m.task t ∈ m.tasks.rows := by
  unfold task Table.get at hf ⊢
  rw [List.getD_eq_getElem?_getD] at hf ⊢
  rcases ht : m.tasks.rows[t]? with _ | task
  · rw [ht] at hf
    cases hf
  · exact List.mem_of_getElem? ht

theorem routerAlive_of_mem {t : Nat} {f : Frame} (hf : f ∈ (m.task t).frames)
    (hh : f.holdsRouter = true) : m.routerAlive = true := by
  unfold routerAlive
  rw [Bool.or_eq_true, List.any_eq_true]
  exact .inr ⟨_, mem_rows_of_mem_frames hf, List.any_eq_true.2 ⟨f, hf, hh⟩⟩

/-- A reply changes the duties on a stack only if it is the refusal that a hop waits for. -/
theorem dutiesOn_eq {reply : Reply} {frames : List Frame}
    (h : ∀ h rest, frames = .routed h :: rest → reply.isRefusal = false) :
    dutiesOn reply frames = frames := by
  cases frames with
  | nil => rfl
  | cons f rest =>
    have hp : f.pending reply = f := by
      by_cases hr : ∃ h, f = .routed h
      · obtain ⟨hop, rfl⟩ := hr
        have := h hop rest rfl
        cases reply <;> first | rfl | cases this
      · exact Frame.pending_of_ne (fun hop he => hr ⟨hop, he⟩) reply
    exact congrArg (· :: rest) hp

/-- The reply of a step is no refusal for the hop below. -/
theorem dutiesOn_of_becomes {t : Nat} {f : Frame} {rest : List Frame} {reply : Reply} {r : Router}
    (hs : m.Stacked) (hf : (m.task t).frames = f :: rest)
    (b : Frame.Becomes ⟨m.routerAlive, m.now, (m.task t).reply⟩ m.router f (.through reply r)) :
    dutiesOn reply rest = rest := by
  refine dutiesOn_eq fun h rest' hrest => ?_
  have ht := hs t
  rw [hf, hrest] at ht
  refine b.carried (h := h) ht.1 (routerAlive_of_mem (t := t) (f := .routed h) ?_ rfl)
  rw [hf, hrest]
  exact List.mem_cons_of_mem _ List.mem_cons_self

/-- The duties of one task stand beside those of the others, among which all hops are paired. -/
theorem Stacked.exists_duties (hs : m.Stacked) (t : Nat) :
    ∃ others : Multiset Frame, Paired others ∧ m.duties = (m.task t).duties + others ∧
      ∀ task, (m.setTask t task).duties = task.duties + others :=
  exists_others (fun _ _ _ _ hmem => absurd hmem (Multiset.notMem_zero _)) (fun _ _ => .add)
    (fun t => paired_dutiesOn (hs t) _) t

/-! ## Moves -/

/-- What comes of the top frame of a task takes its place among the duties. -/
theorem duties_settle {t : Nat} {f : Frame} {rest : List Frame} {o : Outcome}
    (hs : m.Stacked) (hf : (m.task t).frames = f :: rest)
    (b : Frame.Becomes ⟨m.routerAlive, m.now, (m.task t).reply⟩ m.router f o) :
    ∃ N : Multiset Frame, Paired N ∧ m.duties = f.pending (m.task t).reply ::ₘ N ∧
      (m.settle t rest o).duties = o.frames + N ∧
      (m.settle t rest o).router = o.router m.router := by
  obtain ⟨others, hp, hm, hset⟩ := hs.exists_duties t
  refine ⟨rest + others, Paired.add (paired_of_stacked (hf ▸ hs t).2) hp, ?_, ?_, ?_⟩
  · rw [hm, Task.duties, hf, dutiesOn, ← Multiset.cons_coe, Multiset.cons_add]
  · cases o with
    | blocked => cases b
    | next fs r =>
      refine (hset _).trans ?_
      simp [Task.duties, Outcome.frames, add_assoc, ← Multiset.coe_add]
    | through reply r =>
      refine (hset _).trans ?_
      simp [Task.duties, Outcome.frames, dutiesOn_of_becomes hs hf b]
    | spawn lane fs r =>
      refine (Table.sum_add ..).trans ?_
      refine (congrArg (· + _) (hset _)).trans ?_
      simp [Task.duties, Outcome.frames, add_comm]
  · cases o <;> rfl

theorem effect_of_advance {t : Nat} (tame : Bool) (hs : m.Stacked) (hm : m.advance? t = some m') :
    Effect tame (m.deed (.advance t)) m.router m.duties m'.router m'.duties := by
  obtain ⟨f, rest, o, hf, b, rfl⟩ := exists_becomes hm
  obtain ⟨N, paired, hd, hd', hr⟩ := duties_settle hs hf b
  have hdeed : m.deed (.advance t) = .work ⟨m.routerAlive, m.now, (m.task t).reply⟩ f := by
    simp [deed, hf]
  rw [hdeed, hd, hd', hr]
  by_cases hp : f.pending (m.task t).reply = f
  · rw [hp]
    exact .work b hp paired
  · obtain ⟨h, err, rfl, hreply⟩ := Frame.eq_routed_of_pending hp
    rw [hreply] at b ⊢
    cases b with
    | refused hc =>
      cases hc
      exact .idle rfl
    | ended hc => cases hc
    | passed hc => cases hc

/-- A task that is called has the call on top of its stack. -/
theorem frames_of_call? {t : Nat} {c : Call} (hc : (m.task t).call? = some c) :
    ∃ rest, (m.task t).frames = .call c :: rest := by
  unfold Task.call? at hc
  split at hc
  · rename_i c' rest hf
    exact ⟨rest, by rw [hf, Option.some.inj hc]⟩
  · cases hc

/-- A call on top of a stack is one of the duties. -/
theorem exists_duties_call {t : Nat} {c : Call} {rest : List Frame}
    (hf : (m.task t).frames = .call c :: rest) :
    ∃ others : Multiset Frame, m.duties = .call c ::ₘ ((rest : Multiset Frame) + others) ∧
      ∀ task, (m.setTask t task).duties = task.duties + others := by
  obtain ⟨others, hm, hset⟩ := m.exists_duties_setTask t
  refine ⟨others, ?_, hset⟩
  rw [hm, Task.duties, hf, dutiesOn, Frame.pending_of_ne (by intro _ h; cases h),
    ← Multiset.cons_coe, Multiset.cons_add]

/-- Only a flow takes note of what it asks for, and in a tame run it asks for nothing else. -/
theorem effect_of_deliver {r : Router} {c : Call} {s : SlotId} {e : ExchangeId} {tame : Bool}
    (N : Multiset Frame)
    (ht : tame = true → ∃ name h, c = .carry name h s false ∧ h.exchange = e) :
    Effect tame .other r (.call c ::ₘ N) r
      (.deliver s e ::ₘ Frame.note (.deliver s e) (.call c) ::ₘ N) := by
  by_cases hc : ∃ name h, c = .carry name h s false ∧ h.exchange = e
  · obtain ⟨name, h, rfl, rfl⟩ := hc
    have : Effect tame .other r _ r _ := .delivers name h s N
    simpa [Frame.note] using this
  · have hn : Frame.note (.deliver s e) (.call c) = .call c := by
      cases c <;> first | rfl | skip
      rename_i name h s' delivered
      cases delivered with
      | true => rfl
      | false =>
        simp only [Frame.note, Bool.false_or]
        by_cases hse : (s == s' && e == h.exchange) = true
        · simp only [Bool.and_eq_true, beq_iff_eq] at hse
          exact absurd ⟨name, h, by rw [hse.1], hse.2.symm⟩ hc
        · rw [Bool.eq_false_of_not_eq_true hse]
    rw [hn]
    exact .deliver s e (Bool.eq_false_of_not_eq_true fun h => hc (ht h))

theorem effect_of_request {t : Nat} {f : Frame} {tame : Bool} (hc : (m.task t).call?.isSome)
    (hf : f.isRequest = true) (ht : tame = true → m.isTame (.request t f) = true) :
    Effect tame .other m.router m.duties (m.request t f).router (m.request t f).duties := by
  obtain ⟨c, hc⟩ := Option.isSome_iff_exists.1 hc
  obtain ⟨rest, hframes⟩ := frames_of_call? hc
  obtain ⟨others, hd, hset⟩ := exists_duties_call hframes
  have hd' : (m.request t f).duties =
      f ::ₘ f.note (.call c) ::ₘ ((rest : Multiset Frame) + others) := by
    refine (hset _).trans ?_
    simp only [Task.duties, hframes, dutiesOn_done, List.modifyHead_cons, ← Multiset.cons_coe,
      Multiset.cons_add]
  rw [hd, hd']
  by_cases hdel : ∃ s e, f = .deliver s e
  · obtain ⟨s, e, rfl⟩ := hdel
    refine effect_of_deliver _ fun h => ?_
    have := ht h
    simp only [isTame, hc] at this
    split at this
    · rename_i name hop s' delivered hcarry
      simp only [Bool.and_eq_true, beq_iff_eq, Bool.not_eq_true'] at this
      obtain ⟨⟨rfl, rfl⟩, rfl⟩ := this
      exact ⟨name, hop, Option.some.inj hcarry, rfl⟩
    · cases this
  · have hn : f.note (.call c) = .call c := by
      unfold Frame.note
      split
      · exact absurd ⟨_, _, rfl⟩ hdel
      · rfl
    rw [hn]
    exact .request hf fun s e h => hdel ⟨s, e, h⟩

theorem effect_of_finish {t : Nat} {reply : Reply} {tame : Bool} (hs : m.Stacked)
    (hc : (m.task t).call?.isSome) (ht : tame = true → m.isTame (.answer t reply) = true) :
    Effect tame (m.deed (.answer t reply)) m.router m.duties (m.finish t reply).router
      (m.finish t reply).duties := by
  obtain ⟨c, hc⟩ := Option.isSome_iff_exists.1 hc
  obtain ⟨rest, hframes⟩ := frames_of_call? hc
  obtain ⟨others, hd, hset⟩ := exists_duties_call hframes
  have hd' : (m.finish t reply).duties = (dutiesOn reply rest : Multiset Frame) + others := by
    refine (hset _).trans ?_
    simp only [Task.duties, hframes, List.tail_cons]
  have hdeed : m.deed (.answer t reply) = .answer c reply.isRefusal := by simp only [deed, hc]
  have htop := (hframes ▸ hs t : Engine.Stacked (.call c :: rest)).1
  rw [hdeed, hd, hd']
  by_cases hr : ∃ h rest', rest = .routed h :: rest' ∧ reply.isRefusal = true
  · obtain ⟨h, rest', rfl, hreply⟩ := hr
    obtain ⟨err, rfl⟩ : ∃ err, reply = .refused err := by
      cases reply <;> first | exact ⟨_, rfl⟩ | cases hreply
    cases c with
    | carry name hop s delivered =>
      have he : hop = h := htop
      subst he
      rw [dutiesOn, ← Multiset.cons_coe, ← Multiset.cons_coe, Multiset.cons_add, Multiset.cons_add]
      refine .refuse err _ fun h => ?_
      simpa only [isTame, hc, Bool.not_eq_true'] using ht h
    | _ => exact htop.elim
  · rw [dutiesOn_eq fun h rest' hrest => by
      by_contra hreply
      exact hr ⟨h, rest', hrest, by simpa using hreply⟩]
    refine .answer _ fun hcarry => ?_
    cases c with
    | carry name e s delivered =>
      cases rest with
      | nil => cases htop
      | cons g rest' =>
        cases g with
        | routed h =>
          by_contra hreply
          exact hr ⟨_, _, rfl, by simpa using hreply⟩
        | _ => cases htop
    | _ => cases hcarry

/-- The effect of a move. -/
theorem effect_of_move {mv : Move} {tame : Bool} (hs : m.Stacked)
    (ht : tame = true → m.isTame mv = true) (hm : m.move? mv = some m') :
    Effect tame (m.deed mv) m.router m.duties m'.router m'.duties := by
  cases mv with
  | advance t => exact effect_of_advance tame hs hm
  | request t f =>
    obtain ⟨⟨call, request⟩, rfl⟩ := request_of_move hm
    exact effect_of_request call request ht
  | answer t reply =>
    obtain ⟨call, rfl⟩ := finish_of_move hm
    exact effect_of_finish hs call ht
  | operate o => exact Option.some.inj hm ▸ .operate o m.routerAlive
  | fork =>
    cases hm
    have : duties { m with tasks := (m.tasks.add Task.application).2 } =
        .call .application ::ₘ m.duties := by
      refine (Table.sum_add ..).trans ?_
      rw [add_comm]
      rfl
    rw [this]
    exact .fork
  | elapse duration => exact Option.some.inj hm ▸ .idle rfl

end Machine

/-- What the history tells of the data of all duties, if it tells it of the data of those that a
step leaves. -/
theorem Run.traced {α : Type} (data : Frame → Option α) (known : History → α → Prop)
    {config : Config} {h : History} {m : Machine} (run : Run config h m)
    (request : ∀ f, f.isRequest = true → data f = none) (call : ∀ c, data (.call c) = none)
    (lost : ∀ h err, data (.lost h err) = none)
    (grows : ∀ q h a, known h a → known (q :: h) a)
    (left : ∀ h m mv c f o, Run config h m → m.deed mv = .work c f →
      (∀ a, data f = some a → known h a) → Frame.Becomes c m.router f o →
        ∀ g ∈ o.frames, ∀ a, data g = some a → known ((m, mv) :: h) a) :
    ∀ f ∈ m.duties, ∀ a, data f = some a → known h a := by
  obtain ⟨r, hr, p⟩ := run
  induction p with
  | nil =>
    intro f hf a ha
    have : f ∈ (([.call .application] : List Frame) : Multiset Frame) + 0 := hf
    rw [add_zero, Multiset.mem_coe, List.mem_singleton] at this
    rw [this, call] at ha
    cases ha
  | cons p hm ih =>
    have run : Run config _ _ := ⟨r, hr, p⟩
    have effect : Effect false _ _ _ _ _ :=
      Machine.effect_of_move run.stacked (fun h => by cases h) hm
    exact effect.traced data _ request call lost (fun f hf a ha => grows _ _ a (ih f hf a ha))
      fun c f o hd hf step => left _ _ _ c f o run hd (ih f hf) step

end MessageRouter.Engine
