import MessageRouter.Proofs.Catalogue
import MessageRouter.Proofs.Script

/-!
# Listings

What can be relied on when endpoints are registered, searched for and unregistered: searches find
each endpoint once and in the order of the registrations in force, registering again changes
nothing but the properties, and unregistering tells whether there was anything to do
(`Run.catalogued_and_finds`).

A request is answered when its own frames are through, and listeners may do what they like before
that.  So what is said of a reply is that no other comes (`Path.yields`), and that it does come if
the listeners only observe (`Machine.exists_told`).
-/

namespace MessageRouter.Engine

/-! ## Replies -/

section Replies

variable {m m' : Machine} {t : Nat} {reply : Reply} {rest above : List Frame} {s : SlotId}
  {event : EndpointEvent}

/-- A reply is on its way to what waits for it below: it can come without a change of the router,
and the frames that bring it stay where they are until it does. -/
structure Machine.Replies (m : Machine) (t : Nat) (reply : Reply) (rest : List Frame) : Prop where
  comes : ∃ h m', Path m h m' ∧ (m'.task t).frames = rest ∧ (m'.task t).reply = reply ∧
    m'.router = m.router
  only : ∀ h m', Path m h m' → (∃ above, (m'.task t).frames = above ++ .yields reply :: rest) ∨
    ∃ h₁ h₂ m₁, h = h₂ ++ h₁ ∧ Path m h₁ m₁ ∧ Path m₁ h₂ m' ∧
      (m₁.task t).frames = rest ∧ (m₁.task t).reply = reply

/-- A frame that yields a reply stays where it is until it has done so. -/
theorem Path.yields {h : History} (p : Path m h m')
    (hf : (m.task t).frames = above ++ .yields reply :: rest) :
    (∃ above, (m'.task t).frames = above ++ .yields reply :: rest) ∨
      ∃ h₁ h₂ m₁, h = h₂ ++ h₁ ∧ Path m h₁ m₁ ∧ Path m₁ h₂ m' ∧
        (m₁.task t).frames = rest ∧ (m₁.task t).reply = reply := by
  induction p with
  | nil => exact .inl ⟨above, hf⟩
  | @cons h m₁ m₂ mv p hm ih =>
    rcases ih with ⟨above, hf⟩ | ⟨h₁, h₂, m', rfl, p₁, p₂, hf, hr⟩
    · cases above with
      | nil =>
        rcases Machine.work_of_move hm hf (fun c h => by cases h) with
          ⟨same, -⟩ | ⟨-, o, b, frames, hreply, -⟩
        · exact .inl ⟨[], by rw [same, hf]⟩
        · cases b
          exact .inr ⟨_, [], _, rfl, p.cons hm, .nil, frames, hreply⟩
      | cons f above =>
        obtain ⟨above', frames⟩ := Machine.frames_of_move hm hf
        exact .inl ⟨above' ++ above, by rw [frames, List.append_assoc]; rfl⟩
    · exact .inr ⟨h₁, _ :: h₂, m', rfl, p₁, p₂.cons hm, hf, hr⟩

namespace Machine

/-- Listeners that only observe let the task go on. -/
theorem exists_told {ls : List String} (hf : (m.task t).frames = .notifySlot event s ls :: rest) :
    ∃ h m', Path m h m' ∧ (m'.task t).frames = rest ∧ m'.router = m.router := by
  induction ls generalizing m with
  | nil =>
    have step : m.move? (.advance t) = some (m.settle t rest (.through .done m.router)) :=
      advance_of_step hf rfl nofun
    have b : Frame.Becomes ⟨m.routerAlive, m.now, (m.task t).reply⟩ m.router _ _ :=
      .slotNotified event s
    exact ⟨_, _, .cons .nil step, frames_settle b, router_settle b⟩
  | cons l ls ih =>
    have step : m.move? (.advance t) = some (m.settle t rest
        (.next [.call (.slotEvent l event s), .notifySlot event s ls] m.router)) :=
      advance_of_step hf rfl nofun
    generalize hm₁ : m.settle t rest _ = m₁ at step
    have hf₁ : (m₁.task t).frames =
        .call (.slotEvent l event s) :: .notifySlot event s ls :: rest :=
      hm₁ ▸ frames_settle_next
    have answer : m₁.move? (.answer t .done) = some (m₁.finish t .done) := by
      rw [move?, if_pos (by simp [Task.call?, hf₁])]
    have hf₂ : ((m₁.finish t .done).task t).frames = .notifySlot event s ls :: rest := by
      rw [finish, task_setTask_self, hf₁]
      rfl
    obtain ⟨h, m', p, frames, router⟩ := ih hf₂
    exact ⟨_, m', .append (.cons (.cons .nil step) answer) p, frames, router.trans (hm₁ ▸ rfl)⟩

/-- When the listeners have been told, the reply follows. -/
theorem replies_announced
    (hf : (m.task t).frames = .announceSlot event s :: .yields reply :: rest) :
    m.Replies t reply rest := by
  refine ⟨?_, fun h m' p => p.yields (List.singleton_append ▸ hf)⟩
  have step : m.move? (.advance t) = some (m.settle t (.yields reply :: rest)
      (.next [.notifySlot event s (Frame.hearing m.router Listener.hearsEndpoints)] m.router)) :=
    advance_of_step hf rfl nofun
  generalize hm₁ : m.settle t _ _ = m₁ at step
  have hf₁ : (m₁.task t).frames = .notifySlot event s _ :: .yields reply :: rest :=
    hm₁ ▸ frames_settle_next
  obtain ⟨h, m', p, frames, router⟩ := exists_told hf₁
  have last : m'.move? (.advance t) = some (m'.settle t rest (.through reply m'.router)) :=
    advance_of_step frames rfl nofun
  have b : Frame.Becomes ⟨m'.routerAlive, m'.now, (m'.task t).reply⟩ m'.router _ _ :=
    .yields reply
  exact ⟨_, _, .cons (.append (.cons .nil step) p) last, frames_settle b, reply_settle b,
    (router_settle b).trans (router.trans (hm₁ ▸ rfl))⟩

/-- A reply that has come is there. -/
theorem replies_given (hf : (m.task t).frames = rest) (hr : (m.task t).reply = reply) :
    m.Replies t reply rest :=
  ⟨⟨[], m, .nil, hf, hr, rfl⟩,
    fun h _ p => .inr ⟨[], h, m, (List.append_nil h).symm, .nil, p, hf, hr⟩⟩

end Machine

end Replies

/-! ## Searches -/

namespace Machine

variable {m m' : Machine} {name name' : String} {g g' : Registration} {t : Nat}
  {rest : List Frame} {config : Config} {h : History}

/-- An endpoint is registered and has been given its channel. -/
def Lists (m : Machine) (name : String) (g : Registration) : Prop :=
  m.router.registry.find? name = some g ∧ ∀ t, .bound name g ∉ (m.task t).frames

/-- Registered endpoints, their slots and their numbers are in one-to-one correspondence, the slots
are there, and the order is that of the listed registrations. -/
structure Catalogued (m : Machine) : Prop where
  slot : ∀ name name' g g', m.router.registry.find? name = some g →
    m.router.registry.find? name' = some g' → g.slot = g'.slot → name = name'
  number : ∀ name name' g g', m.router.registry.find? name = some g →
    m.router.registry.find? name' = some g' → g.number = g'.number → name = name'
  live : ∀ name g, m.router.registry.find? name = some g →
    m.router.isPresent g.slot = true ∧ (m.router.slot g.slot).retired = false
  mem_order : ∀ g, g ∈ m.router.registry.order ↔ ∃ name, m.Lists name g
  ascending : m.router.registry.order.Pairwise (·.number < ·.number)

/-- What a search for slots finds: every listed endpoint with such a slot, once, and nothing else,
in the order of the registrations. -/
structure Finds (m : Machine) (p : Slot → Bool) (found : List SlotId) : Prop where
  mem_iff : ∀ s, s ∈ found ↔ ∃ name g, m.Lists name g ∧ g.slot = s ∧ p (m.router.slot s) = true
  once : found.Nodup
  inOrder : found.Pairwise fun s s' => ∀ name name' g g', m.router.registry.find? name = some g →
    m.router.registry.find? name' = some g' → g.slot = s → g'.slot = s' → g.number < g'.number

theorem mem_bindings {name : String} {g : Registration} :
    (name, g) ∈ Frame.bindings m.duties ↔ ∃ t, .bound name g ∈ (m.task t).frames := by
  rw [Frame.bindings, Multiset.mem_filterMap]
  constructor
  · rintro ⟨f, hf, hb⟩
    obtain rfl : f = .bound name g := by
      unfold Frame.binding? at hb
      split at hb <;> cases hb
      rfl
    obtain ⟨t, hf | ⟨hop, err, hf, -⟩⟩ := exists_frame_of_mem hf
    · exact ⟨t, hf⟩
    · cases hf
  · rintro ⟨t, hf⟩
    exact ⟨.bound name g, mem_duties hf (fun h => nofun), rfl⟩

theorem Catalogued.of_catalogue (h : Catalogue m.router (Frame.bindings m.duties))
    (ordered : m.router.registry.Ordered) : m.Catalogued := by
  obtain ⟨-, once, apart⟩ := Multiset.nodup_add.1 h.distinct
  constructor
  case slot => exact fun name name' g g' hg hg' same => h.slot_inj hg hg' same
  case number => exact ordered.unique
  case live => exact fun name g hg => ⟨(h.serves name g hg).present, (h.serves name g hg).going⟩
  case mem_order =>
    intro g
    constructor
    · intro hmem
      obtain ⟨name, hg⟩ := ordered.current g hmem
      refine ⟨name, hg, fun t hf => ?_⟩
      have hb := Multiset.mem_map_of_mem (·.2.number) (mem_bindings.2 ⟨t, hf⟩)
      exact Multiset.disjoint_left.1 apart hb (Multiset.mem_coe.2 (List.mem_map_of_mem hmem))
    · rintro ⟨name, hg, unbound⟩
      refine (h.listed name g hg).resolve_right fun hb => ?_
      obtain ⟨t, hf⟩ := mem_bindings.1 hb
      exact unbound t hf
  case ascending =>
    have distinct := List.pairwise_map.1 (Multiset.coe_nodup.1 once)
    exact (ordered.ascending.and distinct).imp fun h => Nat.lt_of_le_of_ne h.1 h.2

/-- Registrations of the same slot are the same. -/
theorem Catalogued.eq_of_slot (h : m.Catalogued) (hg : m.router.registry.find? name = some g)
    (hg' : m.router.registry.find? name' = some g') (same : g.slot = g'.slot) : g = g' := by
  obtain rfl := h.slot _ _ _ _ hg hg' same
  exact Option.some.inj (hg.symm.trans hg')

theorem Catalogued.finds (h : m.Catalogued) (p : Slot → Bool) : m.Finds p (m.router.select p) := by
  have mem_iff (s : SlotId) : s ∈ m.router.select p ↔
      ∃ name g, m.Lists name g ∧ g.slot = s ∧ p (m.router.slot s) = true := by
    simp only [Router.select, Registry.slots, List.mem_filter, List.mem_map, Bool.and_eq_true]
    constructor
    · rintro ⟨⟨g, hmem, rfl⟩, -, hp⟩
      obtain ⟨name, lists⟩ := (h.mem_order g).1 hmem
      exact ⟨name, g, lists, rfl, hp⟩
    · rintro ⟨name, g, lists, rfl, hp⟩
      exact ⟨⟨g, (h.mem_order g).2 ⟨name, lists⟩, rfl⟩, (h.live name g lists.1).1, hp⟩
  have inOrder : (m.router.select p).Pairwise fun s s' => ∀ name name' g g',
      m.router.registry.find? name = some g → m.router.registry.find? name' = some g' →
        g.slot = s → g'.slot = s' → g.number < g'.number := by
    refine List.Pairwise.filter _ (List.pairwise_map.2 (h.ascending.imp_of_mem ?_))
    intro k k' hk hk' less name name' g g' hg hg' hs hs'
    obtain ⟨_, lists⟩ := (h.mem_order k).1 hk
    obtain ⟨_, lists'⟩ := (h.mem_order k').1 hk'
    rwa [h.eq_of_slot hg lists.1 hs, h.eq_of_slot hg' lists'.1 hs']
  refine ⟨mem_iff, inOrder.imp_of_mem fun {s s'} hs _ less same => ?_, inOrder⟩
  subst same
  obtain ⟨name, g, lists, hg, -⟩ := (mem_iff s).1 hs
  exact absurd (less name name g g lists.1 lists.1 hg hg) (Nat.lt_irrefl _)

/-! ## Requests -/

/-- What becomes of a request to register an endpoint.  If it is registered already, it gets new
properties and nothing else; otherwise it comes last and has still to be given its channel. -/
inductive Registers (m : Machine) (t : Nat) (name : String) (properties : Properties)
    (rest : List Frame) (m' : Machine) : Prop
  | again {g : Registration} (known : m.router.registry.find? name = some g)
    (same : m'.router = m.router.modifySlot g.slot fun slot => { slot with properties })
    (reply : m'.Replies t (.slot g.slot) rest)
  | first {g : Registration} (unknown : m.router.registry.find? name = none)
    (find : ∀ other, m'.router.registry.find? other =
      if other = name then some g else m.router.registry.find? other)
    (last : ∀ other g', m.router.registry.find? other = some g' →
      g'.number < g.number ∧ g'.slot ≠ g.slot)
    (order : m'.router.registry.order = m.router.registry.order)
    (properties : (m'.router.slot g.slot).properties = properties)
    (slots : ∀ s, s ≠ g.slot → m'.router.slot s = m.router.slot s)
    (frames : (m'.task t).frames = .call (.bind name g.slot) :: .bound name g :: rest)

/-- What becomes of a request to unregister an endpoint.  If it is registered, its registration
and its slot are given up and nothing else is; otherwise there is nothing to do. -/
inductive Unregisters (m : Machine) (t : Nat) (name : String) (rest : List Frame)
    (m' : Machine) : Prop
  | known {g : Registration} (known : m.router.registry.find? name = some g)
    (find : ∀ other, m'.router.registry.find? other =
      if other = name then none else m.router.registry.find? other)
    (order : m'.router.registry.order = m.router.registry.order.filter (· ≠ g))
    (slots : ∀ s, s ≠ g.slot → m'.router.slot s = m.router.slot s)
    (retired : (m'.router.slot g.slot).retired = true)
    (reply : m'.Replies t (.answer true) rest)
  | unknown (unknown : m.router.registry.find? name = none) (same : m'.router = m.router)
    (reply : m'.Replies t (.answer false) rest)

variable {properties : Properties}

/-- The step of a task in terms of its top frame. -/
theorem becomes_of_advance {f : Frame} (hm : m.move? (.advance t) = some m')
    (hf : (m.task t).frames = f :: rest) (call : ∀ c, f ≠ .call c) :
    ∃ o, Frame.Becomes ⟨m.routerAlive, m.now, (m.task t).reply⟩ m.router f o ∧
      (m'.task t).frames = o.above ++ rest ∧ (m'.task t).reply = o.reply ∧
        m'.router = o.router m.router :=
  ((work_of_move hm hf call).resolve_left fun h => h.2 rfl).2

theorem registers_of_move (h : Catalogue m.router (Frame.bindings m.duties))
    (ordered : m.router.registry.Ordered)
    (hf : (m.task t).frames = .register name properties :: rest)
    (hm : m.move? (.advance t) = some m') : m.Registers t name properties rest m' := by
  obtain ⟨o, b, frames, reply, router⟩ := becomes_of_advance hm hf nofun
  cases b with
  | registered known => exact .again known router (replies_announced frames)
  | @reserves _ _ g r' unknown reserved =>
    obtain rfl : (m.router.registry.reserve name ⟨m.router.slots.size⟩).1 = g :=
      congrArg Prod.fst reserved
    obtain rfl : { (m.router.addSlot { owner := .endpoint name, properties }).2 with
      registry := (m.router.registry.reserve name ⟨m.router.slots.size⟩).2 } = r' :=
      congrArg Prod.snd reserved
    have slot (s : SlotId) : m'.router.slot s =
        if s.index = m.router.slots.size then { owner := .endpoint name, properties }
        else m.router.slot s := by
      rw [router]
      exact Router.Ledger.slot_addSlot
    refine .first unknown (fun other => ?_)
      (fun other g' hg' => ⟨ordered.numbered other g' hg', ?_⟩) ?_ ?_ (fun s hs => ?_) frames
    · rw [router]
      exact Dict.get?_insert ..
    · intro same
      have lt := Router.Ledger.index_lt_of_isPresent (h.serves other g' hg').present
      rw [same] at lt
      exact Nat.lt_irrefl _ lt
    · rw [router]
      rfl
    · exact congrArg Slot.properties ((slot _).trans (if_pos rfl))
    · rw [slot, if_neg]
      rintro index
      exact hs (by cases s; exact congrArg SlotId.mk index)

/-- Whatever has become of the registration, it is told its slot. -/
theorem replies_of_bound (hf : (m.task t).frames = .bound name g :: rest)
    (hm : m.move? (.advance t) = some m') : m'.Replies t (.slot g.slot) rest := by
  obtain ⟨o, b, frames, reply, -⟩ := becomes_of_advance hm hf nofun
  cases b with
  | confirms => exact replies_announced frames
  | notConfirmed => exact replies_given frames reply

theorem unregisters_of_move (ordered : m.router.registry.Ordered)
    (hf : (m.task t).frames = .unregister name :: rest)
    (hm : m.move? (.advance t) = some m') : m.Unregisters t name rest m' := by
  rcases hu : m.router.unregister name with _ | ⟨s, r'⟩
  · have step : m.move? (.advance t) = some (m.settle t rest (.through (.answer false) m.router)) :=
      advance_of_step hf (by simp only [Frame.step, Frame.stepUnregister, hu]) (by rintro ⟨⟩)
    obtain rfl := Option.some.inj (hm.symm.trans step)
    have unknown : m.router.registry.find? name = none := by
      simpa [Router.unregister, Registry.remove] using hu
    exact .unknown unknown rfl (replies_given (congrArg Task.frames (task_setTask_self ..))
      (congrArg Task.reply (task_setTask_self ..)))
  · have step : m.move? (.advance t) = some (m.settle t rest
        (.next [.announceSlot .unregistered s, .yields (.answer true)] r')) :=
      advance_of_step hf (by simp only [Frame.step, Frame.stepUnregister, hu]) (by rintro ⟨⟩)
    obtain rfl := Option.some.inj (hm.symm.trans step)
    obtain ⟨g, registry, removed, rfl, rfl⟩ := Router.unregister_eq_some.1 hu
    obtain ⟨known, rfl⟩ := Registry.remove_eq_some.1 removed
    refine .known known (m.router.registry.find?_remove name · _) ?_
      (fun s hs => Router.slot_setSlot_ne (Ne.symm hs)) ?_ (replies_announced frames_settle_next)
    · refine List.filter_congr fun k hk => ?_
      obtain ⟨name', hk⟩ := ordered.current k hk
      rw [Bool.eq_iff_iff, bne_iff_ne, decide_eq_true_iff, not_iff_not]
      refine ⟨fun same => ?_, congrArg _⟩
      obtain rfl := ordered.unique name' name k g hk known same
      exact Option.some.inj (hk.symm.trans known)
    · show (Router.slot (Router.setSlot _ _ _) g.slot).retired = true
      rw [Router.slot_setSlot, if_pos rfl, Slot.retire, Slot.retired_reap]

end Machine

/-- In every run endpoints, slots and numbers of the registrations agree; searches find the listed
endpoints that match, once each and in the order of their registrations; registering a registered
endpoint replaces its properties and is told its slot; and unregistering is told whether the
endpoint was registered, and does nothing if it was not. -/
theorem Run.catalogued_and_finds {config : Config} {h : History} {m : Machine}
    (run : Run config h m) :
    m.Catalogued ∧
    (m.Finds (fun _ => true) (m.router.select fun _ => true) ∧
      (∀ q, m.Finds (fun slot => slot.properties.satisfies (Wire.resolve m.router.wires q))
        (m.router.query q)) ∧
      ∀ f, m.Finds (fun slot => f.holds slot.properties) (m.router.queryFilter f)) ∧
    ∀ t rest m', m.move? (.advance t) = some m' →
      (∀ name properties, (m.task t).frames = .register name properties :: rest →
        m.Registers t name properties rest m') ∧
      (∀ name g, (m.task t).frames = .bound name g :: rest →
        m'.Replies t (.slot g.slot) rest) ∧
      ∀ name, (m.task t).frames = .unregister name :: rest → m.Unregisters t name rest m' := by
  have catalogue := run.catalogue
  have ordered := run.setup.2
  have catalogued : m.Catalogued := .of_catalogue catalogue ordered
  refine ⟨catalogued,
    ⟨catalogued.finds _, fun q => catalogued.finds _, fun f => catalogued.finds _⟩,
    fun t rest m' hm => ⟨fun name properties hf => ?_, fun name g hf => ?_, fun name hf => ?_⟩⟩
  · exact Machine.registers_of_move catalogue ordered hf hm
  · exact Machine.replies_of_bound hf hm
  · exact Machine.unregisters_of_move ordered hf hm

/-- Two endpoints are registered, the first of them again and then anew, and the other is about to
be unregistered. -/
def Cue.enlisting : List Cue :=
  registers "a" ∅ ++ registers "b" ∅ ++
    [request 0 (.register "a" ∅), runs 0, request 0 (.unregister "a"), runs 0] ++
    registers "a" ∅ ++ [request 0 (.unregister "b")]

/-- A task is about to unregister an endpoint, as it is found out by looking. -/
def Machine.isUnregistering (m : Machine) (t : Nat) (name : String) : Bool :=
  match (m.task t).frames with
  | .unregister name' :: _ => name' == name
  | _ => false

theorem Machine.frames_of_isUnregistering {m : Machine} {t : Nat} {name : String}
    (h : m.isUnregistering t name = true) :
    ∃ rest, (m.task t).frames = .unregister name :: rest := by
  unfold isUnregistering at h
  split at h
  · rename_i name' rest hf
    exact ⟨rest, by rw [hf, beq_iff_eq.1 h]⟩
  · cases h

theorem Run.catalogued_and_finds_anew : ∃ h m m' rest, Run {} h m ∧
    m.router.select (fun _ => true) = [⟨1⟩, ⟨2⟩] ∧ m.Finds (fun _ => true) [⟨1⟩, ⟨2⟩] ∧
      m.Catalogued ∧ m.move? (.advance 0) = some m' ∧ m.Unregisters 0 "b" rest m' := by
  obtain ⟨h, m, p, hq⟩ := Path.exists_of_enact .usual Cue.enlisting (fun p =>
    p.2.router.select (fun _ => true) == [⟨1⟩, ⟨2⟩] && p.2.isUnregistering 0 "b" &&
      (p.2.move? (.advance 0)).isSome) (by rfl)
  simp only [Bool.and_eq_true, beq_iff_eq, Option.isSome_iff_exists] at hq
  obtain ⟨⟨found, unregistering⟩, m', hm⟩ := hq
  obtain ⟨rest, hf⟩ := Machine.frames_of_isUnregistering unregistering
  obtain ⟨catalogued, ⟨finds, -⟩, requests⟩ := p.run.catalogued_and_finds
  exact ⟨h, m, m', rest, p.run, found, found ▸ finds, catalogued, hm,
    (requests 0 rest m' hm).2.2 "b" hf⟩

end MessageRouter.Engine
