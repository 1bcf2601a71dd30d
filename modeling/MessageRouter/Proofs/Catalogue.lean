import Mathlib.Data.Multiset.Filter
import Mathlib.Data.Multiset.UnionInter
import MessageRouter.Proofs.Ledger
import MessageRouter.Proofs.Registrations
import MessageRouter.Proofs.SlotChanges

/-!
# The catalogue of endpoints

Registrations are kept three times: by endpoint, by number and as slots.  The three go on to agree
whatever is done to the router.  What joins them is that a number is in use once, be it in the
order of searches or with a task that has still to bind a channel (`Catalogue.distinct`), and that
the slot of a registration goes on to serve its endpoint until the endpoint is unregistered
(`Router.Upholds`).
-/

namespace MessageRouter

/-! ## Slots that serve -/

namespace Slot

variable {slot slot' : Slot} {name : String}

/-- The slot of a registered endpoint: it is in the router and takes exchanges. -/
structure Serves (slot : Slot) (name : String) : Prop where
  present : slot.present = true
  going : slot.retired = false
  owner : slot.owner = .endpoint name

/-- What has become of a slot serves whom the slot has served. -/
def Upholds (slot slot' : Slot) : Prop := ∀ name, slot.Serves name → slot'.Serves name

theorem upholds_of_eq (present : slot'.present = slot.present)
    (retired : slot'.retired = slot.retired) (owner : slot'.owner = slot.owner) :
    slot.Upholds slot' :=
  fun _ h => ⟨present.trans h.present, retired.trans h.going, owner.trans h.owner⟩

/-- Only a client's slot is retired with its channel, and the slot of a client serves no
endpoint. -/
theorem lasting_upholds : Lasting Upholds where
  refl _ _ h := h
  trans h h' name hs := h' name (h name hs)
  added slot name h := by cases h.present
  counts _ _ := upholds_of_eq rfl rfl rfl
  reap slot name h := by
    rw [reap, if_neg (by simp [h.going])]
    exact h
  closes slot name h := by
    rw [if_neg (by simp [isClient, h.owner])]
    exact ⟨h.present, h.going, h.owner⟩
  mail _ _ owner name h := by cases owner.symm.trans h.owner

end Slot

namespace Router

/-- Every slot goes on to serve whom it has served. -/
def Upholds (r r' : Router) : Prop := ∀ s, (r.slot s).Upholds (r'.slot s)

end Router

/-! ## Numbers in use -/

namespace Registry

variable {g : Registration} {order : List Registration}

theorem perm_place : (place g order).Perm (g :: order) := by
  induction order with
  | nil => exact .refl _
  | cons k rest ih =>
    unfold place
    split
    · exact .refl _
    · exact (ih.cons k).trans (.swap g k rest)

/-- The numbers of the registrations that searches look at and of those that are still to be
confirmed. -/
def numbers (r : Registry) (pending : Multiset (String × Registration)) : Multiset Nat :=
  pending.map (·.2.number) + (r.order.map (·.number) : List Nat)

theorem numbers_reserve (r : Registry) (name : String) (s : SlotId)
    (pending : Multiset (String × Registration)) :
    (r.reserve name s).2.numbers ((name, (r.reserve name s).1) ::ₘ pending) =
      r.nextNumber ::ₘ r.numbers pending := by
  simp [numbers, reserve]

end Registry

/-- What slots and registry know of each other, and what has still to be confirmed. -/
structure Catalogue (r : Router) (pending : Multiset (String × Registration)) : Prop where
  distinct : (r.registry.numbers pending).Nodup
  given : ∀ n ∈ r.registry.numbers pending, n < r.registry.nextNumber
  listed : ∀ name g, r.registry.find? name = some g →
    g ∈ r.registry.order ∨ (name, g) ∈ pending
  serves : ∀ name g, r.registry.find? name = some g → (r.slot g.slot).Serves name

namespace Catalogue

variable {r r' : Router} {pending : Multiset (String × Registration)} {name name' : String}
  {g g' : Registration} {s : SlotId}

theorem empty {config : Config} (h : Router.start config = .ok r) : Catalogue r 0 := by
  rw [Router.eq_of_start h]
  refine ⟨Multiset.nodup_zero, fun n hn => absurd hn (Multiset.notMem_zero n), ?_, ?_⟩ <;>
    exact fun name g hg => by cases hg

/-- Slots that go on to serve are all that a change has to leave if it is not about
registrations. -/
theorem uphold (h : Catalogue r pending) (registry : r'.registry = r.registry)
    (upholds : r.Upholds r') : Catalogue r' pending := by
  refine ⟨registry ▸ h.distinct, registry ▸ h.given, registry ▸ h.listed, ?_⟩
  exact fun name g hg => upholds _ _ (h.serves name g (registry ▸ hg))

theorem reserve {properties : Properties} (h : Catalogue r pending)
    (hr : r.reserve name properties = (g, r')) : Catalogue r' ((name, g) ::ₘ pending) := by
  obtain rfl : (r.registry.reserve name ⟨r.slots.size⟩).1 = g := congrArg Prod.fst hr
  obtain rfl : { (r.addSlot { owner := .endpoint name, properties }).2 with
      registry := (r.registry.reserve name ⟨r.slots.size⟩).2 } = r' := congrArg Prod.snd hr
  have upholds : r.Upholds (r.addSlot { owner := .endpoint name, properties }).2 :=
    Router.Relates.addSlot Slot.lasting_upholds
  have find (other : String) : (r.registry.reserve name ⟨r.slots.size⟩).2.find? other =
      if other = name then some ⟨r.registry.nextNumber, ⟨r.slots.size⟩⟩
      else r.registry.find? other := Dict.get?_insert ..
  have numbers := r.registry.numbers_reserve name ⟨r.slots.size⟩ pending
  refine ⟨?_, fun n hn => ?_, fun other k hk => ?_, fun other k hk => ?_⟩
  · rw [numbers]
    exact Multiset.nodup_cons.2 ⟨fun hn => absurd (h.given _ hn) (Nat.lt_irrefl _), h.distinct⟩
  · rw [numbers] at hn
    show n < r.registry.nextNumber + 1
    obtain rfl | hn := Multiset.mem_cons.1 hn
    · exact Nat.lt_succ_self _
    · exact Nat.lt_succ_of_lt (h.given n hn)
  · rw [find] at hk
    split at hk
    · subst ‹other = name›
      cases hk
      exact .inr (Multiset.mem_cons_self ..)
    · exact (h.listed other k hk).imp_right Multiset.mem_cons_of_mem
  · rw [find] at hk
    show ((r.addSlot { owner := .endpoint name, properties }).2.slot k.slot).Serves other
    split at hk
    · subst ‹other = name›
      cases hk
      rw [Router.Ledger.slot_addSlot, if_pos rfl]
      exact ⟨rfl, rfl, rfl⟩
    · exact upholds _ _ (h.serves other k hk)

theorem confirm {b : Bool} {registry : Registry} (h : Catalogue r ((name, g) ::ₘ pending))
    (hc : r.registry.confirm name g = (b, registry)) : Catalogue { r with registry } pending := by
  unfold Registry.confirm at hc
  split at hc
  · cases hc
    have same : ({ r.registry with order := Registry.place g r.registry.order } : Registry).numbers
        pending = r.registry.numbers ((name, g) ::ₘ pending) := by
      have : ((Registry.place g r.registry.order).map (·.number) : Multiset Nat) =
          g.number ::ₘ (r.registry.order.map (·.number) : List Nat) :=
        Multiset.coe_eq_coe.2 (Registry.perm_place.map _)
      simp only [Registry.numbers, this, Multiset.map_cons, Multiset.cons_add, Multiset.add_cons]
    refine ⟨same ▸ h.distinct, fun n hn => h.given n (same ▸ hn), fun other k hk => ?_, h.serves⟩
    rcases h.listed other k hk with hk | hk
    · exact .inl (Registry.mem_place.2 (.inr hk))
    · rcases Multiset.mem_cons.1 hk with hk | hk
      · cases hk
        exact .inl (Registry.mem_place.2 (.inl rfl))
      · exact .inr hk
  · rename_i given
    cases hc
    have less : r.registry.numbers pending ≤ r.registry.numbers ((name, g) ::ₘ pending) := by
      simp only [Registry.numbers, Multiset.map_cons, Multiset.cons_add]
      exact Multiset.le_cons_self ..
    refine ⟨Multiset.nodup_of_le less h.distinct,
      fun n hn => h.given n (Multiset.mem_of_le less hn), fun other k hk => ?_, h.serves⟩
    refine (h.listed other k hk).imp_right fun hk' => ?_
    rcases Multiset.mem_cons.1 hk' with hk' | hk'
    · cases hk'
      exact absurd hk given
    · exact hk'

theorem slot_inj (h : Catalogue r pending) (hg : r.registry.find? name = some g)
    (hg' : r.registry.find? name' = some g') (same : g.slot = g'.slot) : name = name' := by
  have owner := (h.serves name g hg).owner
  rw [same, (h.serves name' g' hg').owner] at owner
  exact (SlotOwner.endpoint.inj owner).symm

theorem unregister (h : Catalogue r pending) (ordered : r.registry.Ordered)
    (hu : r.unregister name = some (s, r')) : Catalogue r' pending := by
  obtain ⟨g, registry, removed, rfl, rfl⟩ := Router.unregister_eq_some.1 hu
  obtain ⟨known, rfl⟩ := Registry.remove_eq_some.1 removed
  have less : ({ r.registry with
      endpoints := r.registry.endpoints.erase name
      order := r.registry.order.filter (·.number != g.number) } : Registry).numbers pending ≤
      r.registry.numbers pending :=
    Multiset.add_le_add_left (Multiset.coe_le.2 (List.filter_sublist.map _).subperm)
  refine ⟨Multiset.nodup_of_le less h.distinct,
    fun n hn => h.given n (Multiset.mem_of_le less hn), fun other k hk => ?_, fun other k hk => ?_⟩
  all_goals
    replace hk := (r.registry.find?_remove name other _).symm.trans hk
    split at hk
    · cases hk
  · rename_i hne
    refine (h.listed other k hk).imp_left fun hmem => List.mem_filter.2 ⟨hmem, ?_⟩
    rw [bne_iff_ne]
    exact fun same => hne (ordered.unique other name k g hk known same)
  · rename_i hne
    rw [Router.modifySlot, Router.slot_setSlot_ne]
    · exact h.serves other k hk
    · exact fun same => hne (h.slot_inj hk known same.symm)

end Catalogue

namespace Engine

/-! ## Steps -/

namespace Frame

variable {c : Context} {r : Router} {f : Frame} {o : Outcome} {N : Multiset Frame}

/-- The registration that a frame has still to confirm. -/
def binding? : Frame → Option (String × Registration)
  | .bound name g => some (name, g)
  | _ => none

theorem binding?_carryFrame (f : Flow) (h : Hop) (s : SlotId) :
    (carryFrame f h s).binding? = none := by
  unfold carryFrame
  split <;> rfl

/-- The registrations that are still to be confirmed. -/
def bindings (D : Multiset Frame) : Multiset (String × Registration) := D.filterMap binding?

theorem bindings_cons (hf : f.binding? = none) : bindings (f ::ₘ N) = bindings N :=
  Multiset.filterMap_cons_none f N hf

theorem bindings_bound (name : String) (g : Registration) (N : Multiset Frame) :
    bindings (.bound name g ::ₘ N) = (name, g) ::ₘ bindings N :=
  Multiset.filterMap_cons_some binding? _ N rfl

theorem bindings_append {fs : List Frame} (hfs : ∀ g ∈ fs, g.binding? = none) :
    bindings ((fs : Multiset Frame) + N) = bindings N := by
  induction fs with
  | nil => rw [Multiset.coe_nil, zero_add]
  | cons g gs ih =>
    rw [← Multiset.cons_coe, Multiset.cons_add, bindings_cons (hfs g List.mem_cons_self)]
    exact ih fun g hg => hfs g (List.mem_cons_of_mem _ hg)

/-- A step that is not about registrations leaves them alone, and no slot stops to serve. -/
theorem Becomes.setAside (b : Becomes c r f o) (hf : f.registers = false) :
    (o.router r).registry = r.registry ∧ r.Upholds (o.router r) ∧
      ∀ g ∈ o.frames, g.binding? = none := by
  have none {fs : List Frame} (hfs : fs.all (fun g => g.binding?.isNone) = true) :
      ∀ g ∈ fs, g.binding? = none := fun g hg =>
    Option.isNone_iff_eq_none.1 (List.all_eq_true.1 hfs g hg)
  refine and_left_comm.1 ⟨b.relates Slot.lasting_upholds hf, ?_⟩
  cases b
  case accept accepted => exact ⟨(Router.SameSetup.accept accepted).registry, none rfl⟩
  case notAccepted refused => exact ⟨(Router.SameSetup.accept refused).registry, none rfl⟩
  case release => exact ⟨Router.SameSetup.releasePins.registry, none rfl⟩
  case pins pinned =>
    refine ⟨(Router.SameSetup.pin pinned).registry, none ?_⟩
    simp only [Outcome.frames, List.all_cons, binding?_carryFrame]
    rfl
  case cannotPin retired => exact ⟨(Router.SameSetup.pin retired).registry, none rfl⟩
  case reaches =>
    refine ⟨rfl, none ?_⟩
    simp only [Outcome.frames, List.all_cons, binding?_carryFrame]
    rfl
  case registered | reserves | confirms | notConfirmed | unregisters | notRegistered =>
    all_goals cases hf
  all_goals exact ⟨rfl, none rfl⟩

/-- A step of a registration moves its number on, or gives it up. -/
theorem Becomes.catalogue_of_registers (b : Becomes c r f o) (hf : f.registers = true)
    (ordered : r.registry.Ordered) (h : Catalogue r (bindings (f ::ₘ N))) :
    Catalogue (o.router r) (bindings (o.frames + N)) := by
  cases b
  case registered =>
    rw [bindings_cons rfl] at h
    rw [bindings_append (by simp [Outcome.frames, binding?])]
    exact h.uphold rfl
      (Router.Relates.setSlot Slot.lasting_upholds (Slot.upholds_of_eq rfl rfl rfl))
  case reserves name properties g r' unknown reserved =>
    rw [bindings_cons rfl] at h
    rw [Outcome.frames, ← Multiset.cons_coe, Multiset.cons_add, bindings_cons rfl,
      ← Multiset.cons_coe, Multiset.cons_add, bindings_bound, Multiset.coe_nil, zero_add]
    exact h.reserve reserved
  case confirms confirmed =>
    rw [bindings_bound] at h
    rw [bindings_append (by simp [Outcome.frames, binding?])]
    exact h.confirm confirmed
  case notConfirmed given =>
    rw [bindings_bound] at h
    rw [bindings_append (by simp [Outcome.frames])]
    exact h.confirm given
  case unregisters removed =>
    rw [bindings_cons rfl] at h
    rw [bindings_append (by simp [Outcome.frames, binding?])]
    exact h.unregister ordered removed
  case notRegistered =>
    rw [bindings_cons rfl] at h
    rwa [bindings_append (by simp [Outcome.frames])]
  all_goals cases hf

/-- Every step keeps the catalogue. -/
theorem Becomes.catalogue (b : Becomes c r f o) (ordered : r.registry.Ordered)
    (h : Catalogue r (bindings (f ::ₘ N))) : Catalogue (o.router r) (bindings (o.frames + N)) := by
  by_cases hf : f.registers = true
  · exact b.catalogue_of_registers hf ordered h
  · have hf := eq_false_of_ne_true hf
    obtain ⟨registry, upholds, frames⟩ := b.setAside hf
    rw [bindings_append frames]
    rw [bindings_cons (by cases f <;> first | rfl | cases hf)] at h
    exact h.uphold registry upholds

end Frame

theorem Effect.catalogue {tame : Bool} {d : Deed} {r r' : Router} {D D' : Multiset Frame}
    (ef : Effect tame d r D r' D') (ordered : r.registry.Ordered)
    (h : Catalogue r (Frame.bindings D)) : Catalogue r' (Frame.bindings D') := by
  cases ef with
  | idle => exact h
  | work step => exact step.catalogue ordered h
  | @request _ _ f request =>
    rwa [Frame.bindings_cons (by cases f <;> first | rfl | cases request)]
  | deliver s e => rwa [Frame.bindings_cons rfl]
  | delivers name hop s N =>
    rw [Frame.bindings_cons rfl] at h
    rwa [Frame.bindings_cons rfl, Frame.bindings_cons rfl]
  | answer N => rwa [Frame.bindings_cons rfl] at h
  | refuse err N =>
    rw [Frame.bindings_cons rfl, Frame.bindings_cons rfl] at h
    rwa [Frame.bindings_cons rfl]
  | operate o alive => exact h.uphold (o.setup alive r).2 (o.relates Slot.lasting_upholds alive r)
  | fork => rwa [Frame.bindings_cons rfl]

/-- In every run slots and registry agree. -/
theorem Run.catalogue {config : Config} {h : History} {m : Machine} (run : Run config h m) :
    Catalogue m.router (Frame.bindings m.duties) := by
  obtain ⟨r, hr, p⟩ := run
  induction p with
  | nil =>
    have : Frame.bindings (Machine.ofRouter r).duties = 0 := rfl
    rw [this]
    exact .empty hr
  | cons p hm ih =>
    have run : Run config _ _ := ⟨r, hr, p⟩
    have effect : Effect false _ _ _ _ _ :=
      Machine.effect_of_move run.stacked (fun h => by cases h) hm
    exact effect.catalogue run.setup.2 ih

end Engine

end MessageRouter
