import Mathlib.Algebra.Ring.Nat
import Mathlib.Data.List.Nodup
import Mathlib.Data.List.Perm.Basic
import MessageRouter.Proofs.RouterState
import MessageRouter.Proofs.Duties
import MessageRouter.Proofs.SendRules

/-!
# What slots count

A slot counts the unreleased exchanges that name it as their source and those that name it as
their destination.  `Router.Ledger` says so for all slots at once, up to a list of slots that are
still owed a release; every operation on a router keeps it.
-/

namespace MessageRouter

namespace Exchange

/-- How often an exchange is counted by a slot. -/
def pinsOn (s : SlotId) (x : Exchange) : Nat :=
  (!x.released && x.source == some s).toNat + (!x.released && x.destination == some s).toNat

/-- The slots that an exchange names. -/
def ends (x : Exchange) : List SlotId := x.source.toList ++ x.destination.toList

theorem pinsOn_of_released {x : Exchange} (h : x.released = true) (s : SlotId) :
    x.pinsOn s = 0 := by
  simp [pinsOn, h]

theorem pinsOn_of_not_released {x : Exchange} (h : x.released = false) (s : SlotId) :
    x.pinsOn s = x.ends.count s := by
  have side (o : Option SlotId) : o.toList.count s = (o == some s).toNat := by
    cases o with
    | none => rfl
    | some t =>
      by_cases ht : t = s
      · simp [ht]
      · have hne : (t == s) = false := beq_eq_false_iff_ne.2 ht
        simp [ht, hne]
  simp [pinsOn, h, ends, List.count_append, side]

end Exchange

namespace Slot

/-- What a slot must show if it is named a number of times: it counts them all, it has left the
router if and only if it is retired and not needed, and a client's slot is retired with its
channel. -/
structure Accounts (slot : Slot) (pins : Nat) : Prop where
  counted : slot.inFlight = pins
  reaped : slot.present = false ↔ slot.retired = true ∧ slot.inFlight = 0
  shut : slot.isClient = true → slot.closed = slot.retired

namespace Accounts

variable {slot slot' : Slot} {pins : Nat}

theorem present (h : slot.Accounts (pins + 1)) : slot.present = true := by
  have := h.counted
  by_contra hp
  have := (h.reaped.1 (eq_false_of_ne_true hp)).2
  omega

theorem reap_eq (h : slot.Accounts pins) : slot.reap = slot := by
  unfold reap
  split
  · rename_i hr
    have := h.reaped.2 hr
    rw [← this]
  · rfl

/-- Slots that agree on what is counted show the same. -/
theorem congr (h : slot.Accounts pins) (present : slot'.present = slot.present)
    (inFlight : slot'.inFlight = slot.inFlight) (retired : slot'.retired = slot.retired)
    (shut : slot'.isClient = true → slot'.closed = slot'.retired) : slot'.Accounts pins :=
  ⟨inFlight.trans h.counted, by rw [present, inFlight, retired]; exact h.reaped, shut⟩

theorem pinned (h : slot.Accounts pins) (hr : slot.retired = false) :
    slot.pinned.Accounts (pins + 1) where
  counted := congrArg (· + 1) h.counted
  reaped := by
    have : slot.present = true := by
      by_contra hp
      have := (h.reaped.1 (eq_false_of_ne_true hp)).1
      rw [hr] at this
      cases this
    simp [Slot.pinned, this]
  shut := h.shut

theorem reap (counted : slot.inFlight = pins) (present : slot.present = true)
    (shut : slot.isClient = true → slot.closed = slot.retired) : slot.reap.Accounts pins := by
  unfold Slot.reap
  split
  · rename_i hr
    exact ⟨counted, by simpa using hr, shut⟩
  · rename_i hr
    exact ⟨counted, by simpa [present] using hr, shut⟩

theorem release (h : slot.Accounts (pins + 1)) : slot.release.Accounts pins := by
  have counted : slot.inFlight - 1 = pins := by simp [h.counted]
  exact reap counted h.present h.shut

theorem retire (h : slot.Accounts pins) (shut : slot.isClient = true → slot.closed = true) :
    slot.retire.Accounts pins := by
  by_cases hp : slot.present = true
  · exact reap h.counted hp shut
  · obtain ⟨hr, hi⟩ := h.reaped.1 (eq_false_of_ne_true hp)
    have : slot.retire = slot := by
      unfold Slot.retire
      rw [← hr]
      exact h.reap_eq
    rw [this]
    exact h

end Accounts

end Slot

namespace Router

/-- How many unreleased exchanges name a slot as their source, and how many as their
destination. -/
def pins (r : Router) (s : SlotId) : Nat :=
  r.exchanges.rows.countP (fun x => !x.released && x.source == some s) +
    r.exchanges.rows.countP (fun x => !x.released && x.destination == some s)

theorem pins_eq_sum (r : Router) (s : SlotId) :
    r.pins s = (r.exchanges.rows.map (·.pinsOn s)).sum := by
  unfold pins
  induction r.exchanges.rows with
  | nil => rfl
  | cons x rows ih =>
    rw [List.map_cons, List.sum_cons, ← ih, List.countP_cons, List.countP_cons, Exchange.pinsOn]
    cases x.released <;> cases x.source == some s <;> cases x.destination == some s <;>
      simp <;> omega

/-- Replacing one exchange changes the count by its own part. -/
theorem pins_setExchange (r : Router) (e : ExchangeId) (x : Exchange) (s : SlotId) :
    (r.setExchange e x).pins s + (r.exchange e).pinsOn s = r.pins s + x.pinsOn s := by
  obtain ⟨n, hn, hset⟩ := r.exchanges.exists_sum_set e.index (·.pinsOn s) rfl
  rw [pins_eq_sum, pins_eq_sum, hn]
  have : ((r.setExchange e x).exchanges.rows.map (·.pinsOn s)).sum = x.pinsOn s + n := hset x
  rw [this, exchange]
  omega

theorem pins_addExchange (r : Router) (p : Pattern) (s : SlotId) :
    (r.addExchange p).2.pins s = r.pins s := by
  rw [pins_eq_sum, pins_eq_sum]
  exact (Table.sum_add ..).trans (by rfl)

/-- How many clients have not closed their channels. -/
def openClients (r : Router) : Nat :=
  r.slots.rows.countP fun slot => slot.isClient && !slot.closed

/-- How many slots belong to endpoints that have not been unregistered. -/
def endpointSlots (r : Router) : Nat :=
  r.slots.rows.countP fun slot => !slot.isClient && !slot.retired

/-- What the slots, the exchanges and the registry of a router know of each other; each slot in
`debt` still counts an exchange that does not name it any more, or not yet. -/
structure Ledger (debt : List SlotId) (r : Router) : Prop where
  slots : ∀ s, s.index < r.slots.size → (r.slot s).Accounts (r.pins s + debt.count s)
  ends : ∀ e, ∀ s ∈ (r.exchange e).ends, s.index < r.slots.size
  owed : ∀ s ∈ debt, s.index < r.slots.size
  registered : ∀ name g, r.registry.find? name = some g → g.slot.index < r.slots.size ∧
    (r.slot g.slot).owner = .endpoint name ∧ (r.slot g.slot).retired = false
  enlisted : ∀ s name, s.index < r.slots.size → (r.slot s).owner = .endpoint name →
    (r.slot s).retired = false → ∃ g, r.registry.find? name = some g ∧ g.slot = s

namespace Ledger

variable {debt debt' : List SlotId} {r r' : Router} {s : SlotId} {slot : Slot} {e : ExchangeId}
  {x : Exchange}

theorem size_setSlot (hs : s.index < r.slots.size) :
    (r.setSlot s slot).slots.size = r.slots.size := by
  refine (Table.size_set ..).trans ?_
  omega

/-- A slot is replaced by one that shows what is then asked of it. -/
theorem setSlot (h : Ledger debt r) (hs : s.index < r.slots.size)
    (accounts : slot.Accounts (r.pins s + debt'.count s))
    (others : ∀ t, t ≠ s → debt'.count t = debt.count t)
    (owed : ∀ t ∈ debt', t.index < r.slots.size)
    (owner : ∀ name, slot.owner = .endpoint name ↔ (r.slot s).owner = .endpoint name)
    (retired : ∀ name, slot.owner = .endpoint name → slot.retired = (r.slot s).retired) :
    Ledger debt' (r.setSlot s slot) where
  slots t ht := by
    rw [size_setSlot hs] at ht
    rw [slot_setSlot]
    split
    · rename_i hst
      exact hst ▸ accounts
    · rename_i hst
      rw [others t (Ne.symm hst)]
      exact h.slots t ht
  ends e t ht := by
    rw [size_setSlot hs]
    exact h.ends e t ht
  owed t ht := by
    rw [size_setSlot hs]
    exact owed t ht
  registered name g hg := by
    obtain ⟨hi, ho, hr⟩ := h.registered name g hg
    rw [size_setSlot hs, slot_setSlot]
    split
    · rename_i hst
      subst hst
      have := (owner name).2 ho
      exact ⟨hi, this, (retired name this).trans hr⟩
    · exact ⟨hi, ho, hr⟩
  enlisted t name ht ho hr := by
    rw [size_setSlot hs] at ht
    rw [slot_setSlot] at ho hr
    split at ho
    · rename_i hst
      subst hst
      rw [if_pos rfl] at hr
      exact h.enlisted s name hs ((owner name).1 ho) ((retired name ho).symm.trans hr)
    · rename_i hst
      rw [if_neg hst] at hr
      exact h.enlisted t name ht ho hr

/-- An exchange is replaced by one that the debt makes up for. -/
theorem setExchange (h : Ledger debt r)
    (pins : ∀ t, x.pinsOn t + debt'.count t = (r.exchange e).pinsOn t + debt.count t)
    (ends : ∀ t ∈ x.ends, t.index < r.slots.size) (owed : ∀ t ∈ debt', t.index < r.slots.size) :
    Ledger debt' (r.setExchange e x) where
  slots t ht := by
    have := r.pins_setExchange e x t
    have := pins t
    have hcount : (r.setExchange e x).pins t + debt'.count t = r.pins t + debt.count t := by omega
    rw [hcount]
    exact h.slots t ht
  ends e' t ht := by
    rw [exchange_setExchange] at ht
    split at ht
    · exact ends t ht
    · exact h.ends e' t ht
  owed := owed
  registered := h.registered
  enlisted := h.enlisted

/-- A change that leaves an exchange with its slots leaves all accounts as they are. -/
theorem keepExchange (h : Ledger debt r) (source : x.source = (r.exchange e).source)
    (destination : x.destination = (r.exchange e).destination)
    (released : x.released = (r.exchange e).released) : Ledger debt (r.setExchange e x) := by
  refine h.setExchange (fun t => ?_) (fun t ht => h.ends e t ?_) h.owed
  · rw [Exchange.pinsOn, Exchange.pinsOn, source, destination, released]
  · rwa [Exchange.ends, source, destination] at ht

/-! ## Pins and releases -/

/-- A slot counts an exchange for the first time when the exchange first names it. -/
theorem retain (h : Ledger [] r) (hs : s.index < r.slots.size) (going : (r.slot s).retired = false)
    (pins : ∀ t, x.pinsOn t = (r.exchange e).pinsOn t + [s].count t)
    (ends : ∀ t ∈ x.ends, t = s ∨ t ∈ (r.exchange e).ends) :
    Ledger [] ((r.setSlot s (r.slot s).pinned).setExchange e x) := by
  have hslot : Ledger [s] (r.setSlot s (r.slot s).pinned) := by
    refine h.setSlot hs ?_ (fun t ht => ?_) (by simpa using hs) (fun _ => Iff.rfl) fun _ _ => rfl
    · simpa using (h.slots s hs).pinned going
    · simp [Ne.symm ht]
  refine hslot.setExchange (fun t => by simpa using pins t) (fun t ht => ?_) (by simp)
  rw [size_setSlot hs]
  obtain rfl | ht := ends t ht
  · exact hs
  · exact h.ends e t ht

/-- A retired slot that nobody needs has left the router already. -/
theorem reap (h : Ledger debt r) (hs : s.index < r.slots.size) :
    Ledger debt (r.setSlot s (r.slot s).reap) := by
  rw [(h.slots s hs).reap_eq]
  exact h.setSlot hs (h.slots s hs) (fun _ _ => rfl) h.owed (fun _ => Iff.rfl) fun _ _ => rfl

theorem accept (h : Ledger [] r) (hs : s.index < r.slots.size)
    (going : (r.exchange e).released = false) (ha : r.accept e s = (.ok (), r')) :
    Ledger [] r' := by
  obtain ⟨-, ⟨hsource, rfl⟩ | ⟨hsource, hr, rfl⟩⟩ := accept_ok ha
  · obtain ⟨t, ht⟩ := Option.isSome_iff_exists.1 hsource
    exact h.keepExchange (by simp [Exchange.sentBy, ht]) rfl rfl
  · refine h.retain hs hr (fun t => ?_) fun t ht => ?_
    · simp only [Exchange.pinsOn, Exchange.sentBy, hsource, going]
      cases ht : s == t <;> simp_all
      omega
    · simpa [Exchange.ends, Exchange.sentBy, hsource] using ht

theorem pin (h : Ledger [] r) (hs : s.index < r.slots.size)
    (going : (r.exchange e).released = false) (unpinned : (r.exchange e).destination = none)
    (hp : r.pin e s = (true, r')) : Ledger [] r' := by
  obtain ⟨hr, rfl⟩ := pin_ok hp
  refine h.retain hs hr (fun t => ?_) fun t ht => ?_
  · simp only [Exchange.pinsOn, going, unpinned]
    cases ht : s == t <;> simp_all
  · simp only [Exchange.ends, unpinned, Option.toList_none, Option.toList_some,
      List.append_nil, List.mem_append, List.mem_singleton] at ht ⊢
    exact ht.symm

/-- A slot that is owed a release is still there, so the release counts. -/
theorem unpin (h : Ledger (s :: debt) r) : Ledger debt (r.unpin s) := by
  have hs := h.owed s List.mem_cons_self
  have accounts := h.slots s hs
  rw [List.count_cons_self, ← Nat.add_assoc] at accounts
  rw [Router.unpin, isPresent, if_pos accounts.present]
  refine h.setSlot hs accounts.release (fun t ht => ?_)
    (fun t ht => h.owed t (List.mem_cons_of_mem s ht)) (fun name => ?_) fun name _ => ?_
  · simp [Ne.symm ht]
  · rw [Slot.release, Slot.owner_reap]
  · rw [Slot.release, Slot.retired_reap]

theorem foldl_unpin (h : Ledger debt r) : Ledger [] (debt.foldl Router.unpin r) := by
  induction debt generalizing r with
  | nil => exact h
  | cons s debt ih => exact ih h.unpin

theorem releasePins (h : Ledger [] r) : Ledger [] (r.releasePins e) := by
  by_cases hr : (r.exchange e).released = true
  · rw [releasePins_of_released hr]
    exact h
  · have hr := eq_false_of_ne_true hr
    rw [releasePins_eq hr]
    refine foldl_unpin (h.setExchange (fun t => ?_) (h.ends e) (h.ends e))
    rw [Exchange.pinsOn_of_not_released hr, Exchange.pinsOn_of_released rfl]
    simp [Exchange.ends]

/-! ## Slots of endpoints and clients -/

/-- A slot that still counts the same and belongs to the same. -/
theorem replaceSlot (h : Ledger debt r) (hs : s.index < r.slots.size)
    (present : slot.present = (r.slot s).present) (inFlight : slot.inFlight = (r.slot s).inFlight)
    (retired : slot.retired = (r.slot s).retired)
    (shut : slot.isClient = true → slot.closed = slot.retired)
    (owner : ∀ name, slot.owner = .endpoint name ↔ (r.slot s).owner = .endpoint name) :
    Ledger debt (r.setSlot s slot) :=
  h.setSlot hs ((h.slots s hs).congr present inFlight retired shut) (fun _ _ => rfl) h.owed owner
    fun _ _ => retired

theorem index_lt (h : (r.slot s) ≠ default) : s.index < r.slots.size := by
  by_contra hs
  refine h ?_
  rw [Router.slot, Table.get, List.getD_eq_getElem?_getD, List.getElem?_eq_none (by
    unfold Table.size at hs
    omega)]
  rfl

theorem index_lt_of_isPresent (h : r.isPresent s = true) : s.index < r.slots.size := by
  refine index_lt fun hs => ?_
  rw [isPresent, hs] at h
  cases h

theorem post (h : Ledger debt r) (hp : (r.slot s).post? e = some slot) :
    Ledger debt (r.setSlot s slot) := by
  have hs : s.index < r.slots.size := index_lt fun hs => by
    rw [hs] at hp
    cases hp
  unfold Slot.post? at hp
  split at hp
  · rename_i mailbox ho
    cases hp
    exact h.replaceSlot hs rfl rfl rfl (fun _ => (h.slots s hs).shut (by simp [Slot.isClient, ho]))
      (by simp [ho])
  · cases hp

theorem take (h : Ledger debt r) (ht : (r.slot s).take? = some (e, slot)) :
    Ledger debt (r.setSlot s slot) := by
  have hs : s.index < r.slots.size := index_lt fun hs => by
    rw [hs] at ht
    cases ht
  unfold Slot.take? at ht
  split at ht
  · rename_i receiving e' rest ho
    cases ht
    exact h.replaceSlot hs rfl rfl rfl (fun _ => (h.slots s hs).shut (by simp [Slot.isClient, ho]))
      (by simp [ho])
  · cases ht

theorem abandon (h : Ledger debt r) (hs : s.index < r.slots.size) :
    Ledger debt (r.modifySlot s Slot.abandon) := by
  unfold modifySlot Slot.abandon
  have shut := (h.slots s hs).shut
  split
  · rename_i receiving mailbox ho
    exact h.replaceSlot hs rfl rfl rfl (fun _ => shut (by simp [Slot.isClient, ho])) (by simp [ho])
  · exact h.replaceSlot hs rfl rfl rfl shut fun _ => Iff.rfl

/-- A channel is closed; that of a client takes its slot with it. -/
theorem closeChannel (h : Ledger debt r) : Ledger debt (r.closeChannel s) := by
  unfold Router.closeChannel
  split
  · rename_i hp
    have hs := index_lt_of_isPresent hp
    have accounts := h.slots s hs
    unfold modifySlot
    dsimp only
    split
    · rename_i hc
      have ho : (r.slot s).close.retire.owner = (r.slot s).owner := Slot.owner_reap _
      have none (name : String) : (r.slot s).owner ≠ .endpoint name := fun ho => by
        simp [Slot.isClient, ho] at hc
      have hclosed : (r.slot s).close.retire.Accounts (r.pins s + debt.count s) := by
        refine Slot.Accounts.reap accounts.counted ?_ fun _ => rfl
        exact hp
      exact h.setSlot hs hclosed (fun _ _ => rfl) h.owed (fun name => by rw [ho])
        fun name hn => absurd (ho ▸ hn) (none name)
    · rename_i hc
      exact h.replaceSlot hs rfl rfl rfl (fun hclient => absurd hclient hc) fun _ => Iff.rfl
  · exact h

theorem slot_addSlot :
    (r.addSlot slot).2.slot s = if s.index = r.slots.size then slot else r.slot s :=
  Table.get_add ..

/-- Nothing names a slot that is still to come. -/
theorem pins_eq_zero (h : Ledger debt r) (hs : r.slots.size ≤ s.index) : r.pins s = 0 := by
  rw [pins_eq_sum]
  refine List.sum_eq_zero fun n hn => ?_
  obtain ⟨x, hx, rfl⟩ := List.mem_map.1 hn
  by_cases hr : x.released = true
  · exact Exchange.pinsOn_of_released hr s
  · rw [Exchange.pinsOn_of_not_released (eq_false_of_ne_true hr), List.count_eq_zero]
    intro hmem
    obtain ⟨i, hi, rfl⟩ := List.mem_iff_getElem.1 hx
    have := h.ends ⟨i⟩ s (by
      rwa [exchange, Table.get, List.getD_eq_getElem?_getD, List.getElem?_eq_getElem hi])
    omega

/-- A slot of its own is given to a client, or to an endpoint that is registered with it. -/
theorem addSlot {registry : Registry} (h : Ledger debt r) (accounts : slot.Accounts 0)
    (registered : ∀ name g, registry.find? name = some g →
      r.registry.find? name = some g ∨ g.slot = ⟨r.slots.size⟩ ∧ slot.owner = .endpoint name ∧
        slot.retired = false)
    (enlisted : ∀ name g, r.registry.find? name = some g → registry.find? name = some g)
    (own : ∀ name, slot.owner = .endpoint name →
      ∃ g, registry.find? name = some g ∧ g.slot = ⟨r.slots.size⟩) :
    Ledger debt { (r.addSlot slot).2 with registry } := by
  have size : (r.addSlot slot).2.slots.size = r.slots.size + 1 := Table.size_add ..
  have old (t : SlotId) (ht : t.index < r.slots.size) : (r.addSlot slot).2.slot t = r.slot t := by
    rw [slot_addSlot, if_neg (by omega)]
  have new (t : SlotId) (ht : t.index < r.slots.size + 1) (hn : ¬t.index < r.slots.size) :
      t = ⟨r.slots.size⟩ := by
    cases t
    simp only [SlotId.mk.injEq] at *
    omega
  have newSlot : (r.addSlot slot).2.slot ⟨r.slots.size⟩ = slot := by rw [slot_addSlot, if_pos rfl]
  constructor
  case slots =>
    intro t ht
    change ((r.addSlot slot).2.slot t).Accounts (r.pins t + debt.count t)
    by_cases hlt : t.index < r.slots.size
    · rw [old t hlt]
      exact h.slots t hlt
    · obtain rfl := new t (size ▸ ht) hlt
      have : debt.count ⟨r.slots.size⟩ = 0 := List.count_eq_zero.2 fun hd =>
        absurd (h.owed _ hd) (Nat.lt_irrefl _)
      rw [newSlot, h.pins_eq_zero (s := ⟨r.slots.size⟩) (Nat.le_refl _), this]
      exact accounts
  case ends => exact fun e t ht => Nat.lt_of_lt_of_eq (Nat.lt_succ_of_lt (h.ends e t ht)) size.symm
  case owed => exact fun t ht => Nat.lt_of_lt_of_eq (Nat.lt_succ_of_lt (h.owed t ht)) size.symm
  case registered =>
    intro name g hg
    change g.slot.index < (r.addSlot slot).2.slots.size ∧
      ((r.addSlot slot).2.slot g.slot).owner = _ ∧ ((r.addSlot slot).2.slot g.slot).retired = _
    obtain hg | ⟨hi, ho, hr⟩ := registered name g hg
    · obtain ⟨hi, ho, hr⟩ := h.registered name g hg
      rw [old g.slot hi, size]
      exact ⟨Nat.lt_succ_of_lt hi, ho, hr⟩
    · rw [hi, newSlot, size]
      exact ⟨Nat.lt_succ_self _, ho, hr⟩
  case enlisted =>
    intro t name ht ho hr
    change ((r.addSlot slot).2.slot t).owner = _ at ho
    change ((r.addSlot slot).2.slot t).retired = _ at hr
    by_cases hlt : t.index < r.slots.size
    · rw [old t hlt] at ho hr
      obtain ⟨g, hg, hs⟩ := h.enlisted t name hlt ho hr
      exact ⟨g, enlisted name g hg, hs⟩
    · obtain rfl := new t (size ▸ ht) hlt
      exact own name (newSlot ▸ ho)

theorem openChannel (h : Ledger debt r) : Ledger debt r.openChannel.2 :=
  h.addSlot ⟨rfl, by simp, fun _ => rfl⟩ (fun _ _ hg => .inl hg) (fun _ _ hg => hg)
    fun _ ho => by cases ho

theorem reserve {name : String} {properties : Properties} {g : Registration} (h : Ledger debt r)
    (unknown : r.registry.find? name = none) (hr : r.reserve name properties = (g, r')) :
    Ledger debt r' := by
  obtain ⟨registry, hreg⟩ : ∃ registry, registry = (r.registry.reserve name ⟨r.slots.size⟩).2 :=
    ⟨_, rfl⟩
  have find (other : String) : registry.find? other =
      if other = name then some ⟨r.registry.nextNumber, ⟨r.slots.size⟩⟩
      else r.registry.find? other := hreg ▸ Dict.get?_insert ..
  obtain rfl : { (r.addSlot { owner := .endpoint name, properties }).2 with registry } = r' :=
    hreg ▸ congrArg Prod.snd hr
  refine h.addSlot ⟨rfl, by simp, fun hc => by cases hc⟩ (fun other g hg => ?_)
    (fun other g hg => ?_) fun other ho => ?_
  · rw [find] at hg
    split at hg
    · rename_i hn
      cases hg
      exact .inr ⟨rfl, by rw [hn], rfl⟩
    · exact .inl hg
  · rw [find, if_neg]
    · exact hg
    · rintro rfl
      rw [unknown] at hg
      cases hg
  · cases ho
    rw [find, if_pos rfl]
    exact ⟨_, rfl, rfl⟩

/-- Which of the confirmed registrations a search finds is nothing to a slot. -/
theorem confirm {name : String} {g : Registration} {b : Bool} {registry : Registry}
    (h : Ledger debt r) (hc : r.registry.confirm name g = (b, registry)) :
    Ledger debt { r with registry } := by
  have find (other : String) : registry.find? other = r.registry.find? other := by
    unfold Registry.confirm at hc
    split at hc <;> (cases hc; rfl)
  exact ⟨h.slots, h.ends, h.owed, fun other g hg => h.registered other g (find other ▸ hg),
    fun t other ht ho hr => find other ▸ h.enlisted t other ht ho hr⟩

theorem unregister {name : String} (h : Ledger debt r) (hu : r.unregister name = some (s, r')) :
    Ledger debt r' := by
  obtain ⟨g, registry, removed, rfl, rfl⟩ := unregister_eq_some.1 hu
  obtain ⟨hg, rfl⟩ := Registry.remove_eq_some.1 removed
  obtain ⟨hs, ho, hr⟩ := h.registered name g hg
  have hretired : (r.slot g.slot).retire.retired = true := Slot.retired_reap _
  have find (other : String) : (r.registry.endpoints.erase name).get? other =
      if other = name then none else r.registry.find? other :=
    r.registry.find?_remove name other r.registry.order
  have size : (r.setSlot g.slot (r.slot g.slot).retire).slots.size = r.slots.size :=
    size_setSlot hs
  constructor
  case slots =>
    intro t ht
    change (((r.setSlot g.slot (r.slot g.slot).retire)).slot t).Accounts
      (r.pins t + debt.count t)
    rw [slot_setSlot]
    split
    · rename_i hst
      subst hst
      refine (h.slots _ hs).retire fun hc => ?_
      simp [Slot.isClient, ho] at hc
    · exact h.slots t (Nat.lt_of_lt_of_eq ht size)
  case ends => exact fun e t ht => Nat.lt_of_lt_of_eq (h.ends e t ht) size.symm
  case owed => exact fun t ht => Nat.lt_of_lt_of_eq (h.owed t ht) size.symm
  case registered =>
    intro other g' hg'
    rw [show Registry.find? _ other = (r.registry.endpoints.erase name).get? other from rfl,
      find] at hg'
    split at hg'
    · cases hg'
    · rename_i hne
      obtain ⟨hs', ho', hr'⟩ := h.registered other g' hg'
      change g'.slot.index < (r.setSlot g.slot (r.slot g.slot).retire).slots.size ∧
        ((r.setSlot g.slot (r.slot g.slot).retire).slot g'.slot).owner = _ ∧
        ((r.setSlot g.slot (r.slot g.slot).retire).slot g'.slot).retired = _
      rw [size, slot_setSlot_ne]
      · exact ⟨hs', ho', hr'⟩
      · intro heq
        rw [← heq, ho] at ho'
        exact hne (SlotOwner.endpoint.inj ho').symm
  case enlisted =>
    intro t other ht ho' hr'
    change ((r.setSlot g.slot (r.slot g.slot).retire).slot t).owner = _ at ho'
    change ((r.setSlot g.slot (r.slot g.slot).retire).slot t).retired = _ at hr'
    rw [slot_setSlot] at ho' hr'
    split at hr'
    · rw [hretired] at hr'
      cases hr'
    · rename_i hne
      rw [if_neg hne] at ho'
      obtain ⟨g', hg', hs'⟩ := h.enlisted t other (Nat.lt_of_lt_of_eq ht size) ho' hr'
      refine ⟨g', ?_, hs'⟩
      rw [show Registry.find? _ other = (r.registry.endpoints.erase name).get? other from rfl,
        find, if_neg]
      · exact hg'
      · rintro rfl
        rw [hg] at hg'
        cases hg'
        exact hne hs'

/-! ## Exchanges -/

/-- A new exchange names no slot. -/
theorem addExchange (h : Ledger debt r) (p : Pattern) : Ledger debt (r.addExchange p).2 where
  slots s hs := by
    rw [pins_addExchange]
    exact h.slots s hs
  ends e s hs := by
    rw [exchange_addExchange] at hs
    split at hs
    · cases hs
    · exact h.ends e s hs
  owed := h.owed
  registered := h.registered
  enlisted := h.enlisted

theorem change (h : Ledger debt r) (e : ExchangeId) (c : Exchange.Change) :
    Ledger debt (r.change e c).2 := by
  unfold Router.change
  split
  · rename_i x hx
    have same := (Exchange.change_ok hx).1
    exact h.keepExchange same.source same.destination same.released
  · exact h

/-! ## Reading the ledger -/

theorem counted (h : Ledger [] r) (s : SlotId) : (r.slot s).inFlight = r.pins s := by
  by_cases hs : s.index < r.slots.size
  · exact (h.slots s hs).counted
  · rw [h.pins_eq_zero (Nat.le_of_not_lt hs)]
    by_contra hne
    refine hs (index_lt fun hd => hne ?_)
    rw [hd]
    rfl

/-- A slot counts an unreleased exchange as often as the exchange names it. -/
theorem count_ends_le (h : Ledger [] r) (hr : (r.exchange e).released = false) (s : SlotId) :
    (r.exchange e).ends.count s ≤ (r.slot s).inFlight := by
  have := r.pins_setExchange e default s
  have hd : (default : Exchange).pinsOn s = 0 := rfl
  rw [Exchange.pinsOn_of_not_released hr] at this
  rw [h.counted]
  omega

theorem isPresent_of_mem_ends (h : Ledger [] r) (hr : (r.exchange e).released = false)
    (hs : s ∈ (r.exchange e).ends) : r.isPresent s = true := by
  have accounts := h.slots s (h.ends e s hs)
  have hcount := h.count_ends_le hr s
  have := List.count_pos_iff.2 hs
  obtain ⟨n, hn⟩ : ∃ n, r.pins s + [].count s = n + 1 :=
    Nat.exists_eq_succ_of_ne_zero (by rw [← accounts.counted]; omega)
  rw [hn] at accounts
  exact accounts.present

theorem isPresent_of_retired (h : Ledger [] r) (hr : (r.slot s).retired = true)
    (hp : r.pins s = 0) : r.isPresent s = false := by
  have hs : s.index < r.slots.size := index_lt fun hd => by
    rw [hd] at hr
    cases hr
  exact (h.slots s hs).reaped.2 ⟨hr, (h.counted s).trans hp⟩

/-! ## A router without exchanges -/

theorem mem_rows {slot : Slot} (h : slot ∈ r.slots.rows) :
    ∃ s : SlotId, s.index < r.slots.size ∧ r.slot s = slot := by
  obtain ⟨i, hi, rfl⟩ := List.mem_iff_getElem.1 h
  refine ⟨⟨i⟩, hi, ?_⟩
  rw [Router.slot, Table.get, List.getD_eq_getElem?_getD, List.getElem?_eq_getElem hi]
  rfl

/-- Each registration has a slot of its own, and each slot that is not retired its registration. -/
theorem endpointSlots_eq (h : Ledger [] r) : r.endpointSlots = r.registry.endpoints.size := by
  have rows : r.slots.rows = (List.range r.slots.size).map fun i => r.slot ⟨i⟩ := by
    refine List.ext_getElem (by simp [Table.size]) fun i hi _ => ?_
    rw [List.getElem_map, List.getElem_range, Router.slot, Table.get,
      List.getD_eq_getElem?_getD, List.getElem?_eq_getElem hi]
    rfl
  have entry {e : String × Registration} (he : e ∈ r.registry.endpoints.entries) :=
    h.registered e.1 e.2 (Dict.get?_eq_some_iff.2 he)
  have nodup : (r.registry.endpoints.entries.map fun e => e.2.slot.index).Nodup := by
    refine (Dict.nodup_entries _).map_on fun e he e' he' hs => ?_
    have hs : e.2.slot = e'.2.slot := congrArg SlotId.mk hs
    have ho := (entry he).2.1
    rw [hs, (entry he').2.1] at ho
    have hname : e'.1 = e.1 := SlotOwner.endpoint.inj ho
    have he := Dict.get?_eq_some_iff.2 he
    rw [← hname, Dict.get?_eq_some_iff.2 he'] at he
    exact Prod.ext hname.symm (Option.some.inj he).symm
  rw [endpointSlots, rows, List.countP_map, List.countP_eq_length_filter, Dict.size,
    ← List.length_map (fun e : String × Registration => e.2.slot.index)]
  refine List.Perm.length_eq ((List.perm_ext_iff_of_nodup (List.nodup_range.filter _) nodup).2
    fun i => ?_)
  simp only [List.mem_filter, List.mem_range, Function.comp_apply, Bool.and_eq_true,
    Bool.not_eq_true', List.mem_map]
  constructor
  · rintro ⟨hi, hclient, hr⟩
    rcases ho : (r.slot ⟨i⟩).owner with name | _
    · obtain ⟨g, hg, hs⟩ := h.enlisted ⟨i⟩ name hi ho hr
      exact ⟨(name, g), Dict.get?_eq_some_iff.1 hg, congrArg SlotId.index hs⟩
    · simp [Slot.isClient, ho] at hclient
  · rintro ⟨e, he, rfl⟩
    obtain ⟨hi, ho, hr⟩ := entry he
    exact ⟨hi, by simp [Slot.isClient, ho], hr⟩

/-- Without exchanges the router has the slots of its endpoints and of its clients. -/
theorem slotCount (h : Ledger [] r) (free : ∀ s, r.pins s = 0) :
    r.slotCount = r.registry.endpoints.size + r.openClients := by
  have rows : ∀ slot ∈ r.slots.rows, slot.present = !slot.retired ∧
      (slot.isClient = true → slot.closed = slot.retired) := by
    intro slot hslot
    obtain ⟨s, hs, rfl⟩ := mem_rows hslot
    have accounts := h.slots s hs
    have hreaped := accounts.reaped
    rw [accounts.counted, free s] at hreaped
    refine ⟨?_, accounts.shut⟩
    cases hp : (r.slot s).present <;> cases hr : (r.slot s).retired <;> simp_all
  rw [← h.endpointSlots_eq]
  unfold Router.slotCount endpointSlots openClients
  generalize r.slots.rows = l at rows
  induction l with
  | nil => rfl
  | cons slot l ih =>
    obtain ⟨hp, hc⟩ := rows slot List.mem_cons_self
    rw [List.countP_cons, List.countP_cons, List.countP_cons,
      ih fun slot hslot => rows slot (List.mem_cons_of_mem _ hslot), hp]
    cases hclient : slot.isClient
    · simp
      omega
    · rw [hc hclient]
      simp
      omega

end Ledger

end Router

end MessageRouter
