import MessageRouter.Proofs.Closing
import MessageRouter.Proofs.Script

/-!
# How an exchange stays ended

An exchange that has ended stays done or failed, with the failure that it ended with, whoever
changes it and whichever dispatch goes wrong later on.  The one exception is a first send that
finds no way: the exchange goes back to its source as failed, whatever it has come to since the
send was accepted.  `Run.keepsVerdict_iff` says so exactly, and that it happens at most once.
-/

namespace MessageRouter

namespace Exchange

/-- What has become of an exchange is still what has become of it. -/
structure KeepsVerdict (x x' : Exchange) : Prop where
  done : x.status = .done → x'.status = .done
  error : x.status = .error → x'.status = .error
  failure : ∀ f, x.error = some f → x'.error = some f

/-- An exchange that has a failure has failed. -/
def Failed (x : Exchange) : Prop := ∀ f, x.error = some f → x.status = .error

variable {x x' x'' : Exchange}

theorem KeepsVerdict.refl (x : Exchange) : x.KeepsVerdict x := ⟨id, id, fun _ => id⟩

theorem KeepsVerdict.trans (h : x.KeepsVerdict x') (h' : x'.KeepsVerdict x'') :
    x.KeepsVerdict x'' :=
  ⟨h'.done ∘ h.done, h'.error ∘ h.error, fun f => h'.failure f ∘ h.failure f⟩

theorem keepsVerdict_of_eq (status : x'.status = x.status) (error : x'.error = x.error) :
    x.KeepsVerdict x' :=
  ⟨fun h => status.trans h, fun h => status.trans h, fun _ h => error.trans h⟩

theorem Failed.of_eq (h : x.Failed) (status : x'.status = x.status) (error : x'.error = x.error) :
    x'.Failed :=
  fun f hf => status.trans (h f (error ▸ hf))

theorem Failed.error_eq_none (h : x.Failed) (going : x.status.isTerminal = false) :
    x.error = none := by
  by_contra hne
  obtain ⟨f, hf⟩ := Option.ne_none_iff_exists'.1 hne
  rw [h f hf] at going
  cases going

/-- Nothing has become yet of an exchange that goes on. -/
theorem Failed.keepsVerdict (h : x.Failed) (going : x.status.isTerminal = false)
    (x' : Exchange) : x.KeepsVerdict x' := by
  refine ⟨fun hs => ?_, fun hs => ?_, fun f hf => ?_⟩
  · rw [hs] at going
    cases going
  · rw [hs] at going
    cases going
  · rw [h.error_eq_none going] at hf
    cases hf

theorem failed_fail (x : Exchange) (f : Failure) : (x.fail f).Failed := fun _ _ => rfl

theorem Failed.stranded (h : x.Failed) (sender : Role) (err : RouterError) :
    x.KeepsVerdict (x.stranded sender err) ∧ (x.stranded sender err).Failed := by
  by_cases ended : x.status.isTerminal = true
  · have status : (x.stranded sender err).status = x.status := by
      simp only [Exchange.stranded, ended, if_true]
    have error : (x.stranded sender err).error = x.error := by
      simp only [Exchange.stranded, ended, if_true]
    exact ⟨keepsVerdict_of_eq status error, h.of_eq status error⟩
  · have going := eq_false_of_ne_true ended
    refine ⟨h.keepsVerdict going _, fun f _ => ?_⟩
    simp only [Exchange.stranded, going, Bool.false_eq_true, if_false, fail]

/-- Only a failure fails an exchange that goes on. -/
theorem Failed.change {c : Change} (h : x.Failed) (changed : x.change c = .ok x') :
    x.KeepsVerdict x' ∧ x'.Failed := by
  obtain ⟨going, -, rfl⟩ := change_eq_ok.1 changed
  refine ⟨h.keepsVerdict going _, ?_⟩
  have unfailed {y : Exchange} (hy : y.error = none) : y.Failed := by
    intro f hf
    rw [hy] at hf
    cases hf
  have none := h.error_eq_none going
  cases c with
  | message slot m => cases slot <;> exact unfailed none
  | error f => exact failed_fail x f
  | _ => exact unfailed none

end Exchange

namespace Engine

/-! ## Exchanges that are sent back -/

namespace Deed

/-- The error with which an exchange goes back to its source, in a deed in which it does. -/
def sentBack? (e : ExchangeId) : Deed → Option RouterError
  | .work _ (.lost h err) => if h.first ∧ h.exchange = e then some err else none
  | _ => none

end Deed

/-- The errors with which an exchange has gone back to its source, the latest first. -/
def sentBack (e : ExchangeId) (h : History) : List RouterError :=
  h.filterMap fun p => (p.1.deed p.2).sentBack? e

namespace Frame

/-- The frame belongs to the dispatch of a first send that has been accepted. -/
def opens : Frame → Bool
  | .routed h => h.first
  | f => f.routing?.any (·.first)

theorem opens_of_hop? {f : Frame} {h : Hop} (hf : f.hop? = some h) : f.opens = h.first := by
  cases f <;> cases hf <;> rfl

end Frame

variable {tame : Bool} {c : Context} {e : ExchangeId} {d : Deed} {f : Frame}
  {x x' : Exchange} {fs : List Frame} {N D D' : Multiset Frame}

/-- Work on a duty undoes nothing that has become of the exchange, unless it sends it back. -/
theorem Work.keepsVerdict (w : Work c x e f x' fs) (h : x.Failed) :
    (∃ err, (Deed.work c f).sentBack? e = some err ∧ x' = x.returned err) ∨
      (Deed.work c f).sentBack? e = none ∧ x.KeepsVerdict x' ∧ x'.Failed := by
  cases w with
  | @sendBack hop err first => exact .inl ⟨err, by simp [Deed.sentBack?, first], rfl⟩
  | strandWaiter later | strand later =>
    exact .inr ⟨by simp [Deed.sentBack?, later], h.stranded _ _⟩
  | fails s f failed unsent arrived active =>
    exact .inr ⟨rfl, h.keepsVerdict (by rw [active]; rfl) _, Exchange.failed_fail x f⟩
  | ends subject mayEnd =>
    refine .inr ⟨?_, .refl x, h⟩
    cases f <;> first | rfl | cases mayEnd
  | loses err hop =>
    refine .inr ⟨?_, .refl x, h⟩
    cases f <;> first | rfl | cases hop
  | _ => exact .inr ⟨rfl, Exchange.keepsVerdict_of_eq rfl rfl, h.of_eq rfl rfl⟩

theorem Turn.keepsVerdict (t : Turn tame e d x D x' D') (h : x.Failed) :
    (∃ err, d.sentBack? e = some err ∧ x' = x.returned err) ∨
      d.sentBack? e = none ∧ x.KeepsVerdict x' ∧ x'.Failed := by
  cases t with
  | work w => exact w.keepsVerdict h
  | idle idle =>
    refine .inr ⟨?_, .refl x, h⟩
    cases d with
    | work c f => cases f <;> first | rfl | cases idle
    | _ => rfl
  | @elsewhere c f x D other =>
    refine .inr ⟨?_, .refl x, h⟩
    cases f with
    | lost hop err =>
      have : hop.exchange ≠ e := fun he => other (congrArg some he)
      simp [Deed.sentBack?, this]
    | _ => rfl
  | create p => exact .inr ⟨rfl, Exchange.keepsVerdict_of_eq rfl rfl, h.of_eq rfl rfl⟩
  | change c changed => exact .inr ⟨rfl, h.change changed⟩
  | _ => exact .inr ⟨rfl, .refl x, h⟩

/-- Only the acceptance of a first send begins its dispatch, which sends the exchange back at most
once. -/
theorem Work.opens (w : Work c x e f x' fs) :
    ((Deed.work c f).sentBack? e).isSome.toNat + count Frame.opens (fs + N) +
        x.source.isSome.toNat ≤
      count Frame.opens (f ::ₘ N) + x'.source.isSome.toNat := by
  cases w with
  | accept s e allowed =>
    cases hs : x.source <;> simp [Deed.sentBack?, Frame.opens, Frame.routing?, Exchange.sentBy, hs]
  | @sendBack hop err first =>
    simp [Deed.sentBack?, Frame.opens, Frame.routing?, Exchange.returned, Exchange.fail, first]
    omega
  | strandWaiter later | strand later =>
    simp [Deed.sentBack?, Frame.opens, Frame.routing?, later]
  | ends subject mayEnd =>
    have : (Deed.work c f).sentBack? e = none := by
      cases f <;> first | rfl | cases mayEnd
    simp [this]
  | @loses f h err hop =>
    have : (Deed.work c f).sentBack? h.exchange = none := by
      cases f <;> first | rfl | cases hop
    simp only [this, count_cons_add, count_nil_add, count_cons, Frame.opens_of_hop? hop]
    simp [Frame.opens, Frame.routing?]
  | pins target rest denied carrier | reaches carrier =>
    all_goals
      obtain rfl | ⟨name, rfl⟩ := Frame.eq_of_isCarrier carrier <;>
        simp [Deed.sentBack?, Frame.opens, Frame.routing?]
  | _ =>
    simp [Deed.sentBack?, Frame.opens, Frame.routing?, Exchange.setWaiting, Exchange.setToken,
      Exchange.answered, Exchange.turned, Exchange.fail]

theorem Turn.opens (t : Turn tame e d x D x' D') :
    (d.sentBack? e).isSome.toNat + count Frame.opens D' + x.source.isSome.toNat ≤
      count Frame.opens D + x'.source.isSome.toNat := by
  have none (h : d.sentBack? e = none) (hD : count Frame.opens D' = count Frame.opens D)
      (hx : x'.source = x.source) : (d.sentBack? e).isSome.toNat + count Frame.opens D' +
        x.source.isSome.toNat ≤ count Frame.opens D + x'.source.isSome.toNat := by
    rw [h, hD, hx]
    simp
  cases t with
  | work w => exact w.opens
  | idle idle =>
    refine none ?_ rfl rfl
    cases d with
    | work c f => cases f <;> first | rfl | cases idle
    | _ => rfl
  | @elsewhere c f x D other =>
    refine none ?_ rfl rfl
    cases f with
    | lost hop err =>
      have : hop.exchange ≠ e := fun he => other (congrArg some he)
      simp [Deed.sentBack?, this]
    | _ => rfl
  | refuse => exact none rfl (by simp [Frame.opens, Frame.routing?]) rfl
  | change c changed => exact none rfl rfl (Exchange.change_ok changed).1.source
  | _ => exact none rfl (by simp [Frame.opens, Frame.routing?]) rfl

/-! ## Whole runs -/

/-- What is known of an exchange some moves after it was as `x₀`. -/
structure Verdict (e : ExchangeId) (h₀ : History) (x₀ : Exchange) (h : History) (x : Exchange)
    (D : Multiset Frame) : Prop where
  failed : x.Failed
  once : (sentBack e (h ++ h₀)).length + count Frame.opens D ≤ x.source.isSome.toNat
  ended : ∀ err ∈ sentBack e h, x.status = .error ∧ x.error = some (.router err)
  kept : sentBack e h = [] → x₀.KeepsVerdict x

theorem Verdict.move {h₀ h : History} {x₀ : Exchange} {m m' : Machine} {mv : Move}
    (v : Verdict e h₀ x₀ h (m.router.exchange e) (m.dutiesFor e))
    (t : Turn tame e (m.deed mv) (m.router.exchange e) (m.dutiesFor e) (m'.router.exchange e)
      (m'.dutiesFor e)) :
    Verdict e h₀ x₀ ((m, mv) :: h) (m'.router.exchange e) (m'.dutiesFor e) := by
  have opens := t.opens
  have once := v.once
  have hlength : (sentBack e ((m, mv) :: h ++ h₀)).length =
      (sentBack e (h ++ h₀)).length + ((m.deed mv).sentBack? e).isSome.toNat := by
    rw [sentBack, List.cons_append, List.filterMap_cons]
    cases (m.deed mv).sentBack? e <;> rfl
  have once' : (sentBack e ((m, mv) :: h ++ h₀)).length + count Frame.opens (m'.dutiesFor e) ≤
      (m'.router.exchange e).source.isSome.toNat := by
    rw [hlength]
    omega
  rcases t.keepsVerdict v.failed with ⟨err, hback, hx⟩ | ⟨hback, kept, failed⟩
  · have hcons : sentBack e ((m, mv) :: h) = err :: sentBack e h := by
      rw [sentBack, List.filterMap_cons, hback]
      rfl
    -- it has not gone back before
    have hnone : sentBack e h = [] := by
      have := Bool.toNat_le (m'.router.exchange e).source.isSome
      rw [hlength, hback, sentBack, List.filterMap_append, List.length_append] at once'
      simp only [Option.isSome_some, Bool.toNat_true] at once'
      exact List.eq_nil_of_length_eq_zero (by rw [sentBack]; omega)
    rw [hnone] at hcons
    refine ⟨hx ▸ fun _ _ => rfl, once', ?_, fun h => ?_⟩
    · rw [hcons, hx]
      rintro err' herr
      obtain rfl := List.mem_singleton.1 herr
      exact ⟨rfl, rfl⟩
    · rw [hcons] at h
      cases h
  · have hsame : sentBack e ((m, mv) :: h) = sentBack e h := by
      rw [sentBack, List.filterMap_cons, hback]
      rfl
    refine ⟨failed, once', ?_, ?_⟩
    · rw [hsame]
      intro err herr
      obtain ⟨status, error⟩ := v.ended err herr
      exact ⟨kept.error status, kept.failure _ error⟩
    · rw [hsame]
      exact fun h => (v.kept h).trans kept

variable {config : Config} {h₀ h : History} {m m' : Machine}

/-- What has become of an exchange stays so unless the exchange is sent back to its source and was
done by then, or had failed otherwise.  An exchange that is sent back fails with the error of its
dispatch, and this happens at most once in a run. -/
theorem Run.keepsVerdict_iff (run : Run config h₀ m) (p : Path m h m') (e : ExchangeId) :
    ((m.router.exchange e).KeepsVerdict (m'.router.exchange e) ↔
      ∀ err ∈ sentBack e h, (m.router.exchange e).status ≠ .done ∧
        ∀ f, (m.router.exchange e).error = some f → f = .router err) ∧
    (∀ err ∈ sentBack e h, (m'.router.exchange e).status = .error ∧
      (m'.router.exchange e).error = some (.router err)) ∧
    (sentBack e (h ++ h₀)).length ≤ 1 := by
  have stacked : m.Stacked := run.stacked
  have before : Verdict e [] default h₀ (m.router.exchange e) (m.dutiesFor e) := by
    obtain ⟨r, hr, p₀⟩ := run
    refine p₀.turns (P := fun h x D => Verdict e [] default h x D) e
      (Machine.stacked_ofRouter r) (fun h : false = true => by cases h) ?_
      fun h m m' mv v _ t => v.move t
    rw [Machine.dutiesFor_ofRouter, Machine.ofRouter, exchange_start hr]
    exact {
      failed := fun _ hf => by cases hf
      once := Nat.zero_le _
      ended := fun _ herr => by cases herr
      kept := fun _ => .refl _ }
  have after : Verdict e h₀ (m.router.exchange e) h (m'.router.exchange e) (m'.dutiesFor e) := by
    refine p.turns (P := fun h x D => Verdict e h₀ (m.router.exchange e) h x D) e stacked
      (fun h : false = true => by cases h) ?_ fun h m m' mv v _ t => v.move t
    have once := before.once
    rw [List.append_nil] at once
    exact {
      failed := before.failed
      once
      ended := fun _ herr => by cases herr
      kept := fun _ => .refl _ }
  have once := after.once
  have := Bool.toNat_le (m'.router.exchange e).source.isSome
  refine ⟨⟨fun kept err herr => ?_, fun h => ?_⟩, after.ended, by omega⟩
  · obtain ⟨status, error⟩ := after.ended err herr
    refine ⟨fun hdone => ?_, fun f hf => ?_⟩
    · rw [kept.done hdone] at status
      cases status
    · exact Option.some.inj ((kept.failure f hf).symm.trans error)
  · rcases hb : sentBack e _ with _ | ⟨err, errs⟩
    · exact after.kept hb
    · have hmem : err ∈ err :: errs := List.mem_cons_self
      rw [← hb] at hmem
      obtain ⟨status, error⟩ := after.ended err hmem
      obtain ⟨notDone, same⟩ := h err hmem
      refine ⟨fun hdone => absurd hdone notDone, fun _ => status, fun f hf => ?_⟩
      rw [error, same f hf]

/-- No flow carries the exchange that the client sends, and it goes back to the client. -/
def Cue.noWay : List Cue :=
  opening .inOut ++ [operate (.setFlows []), request 0 (.send ⟨1⟩ ⟨0⟩), runs 0]

/-- The client tries in vain to make the exchange that it has got back a success. -/
theorem Run.keepsVerdict_iff_noWay : ∃ h₀ m h m' err, Run {} h₀ m ∧ Path m h m' ∧
    (m.router.exchange ⟨0⟩).error = some (.router err) ∧ h ≠ [] ∧
    (m'.router.exchange ⟨0⟩).error = some (.router err) := by
  obtain ⟨h₀, m, h, m', p, p', hq⟩ := Path.exists_of_enacts .usual Cue.noWay
    [.operate (.change ⟨0⟩ (.status .done)), .runs 0]
    (fun p p' => (sentBack ⟨0⟩ p.1).length == 1 && (sentBack ⟨0⟩ p'.1).isEmpty && !p'.1.isEmpty)
    (by rfl)
  simp only [Bool.and_eq_true, beq_iff_eq, List.isEmpty_iff, Bool.not_eq_true',
    List.isEmpty_eq_false_iff] at hq
  obtain ⟨⟨one, none⟩, moved⟩ := hq
  obtain ⟨err, herr⟩ := List.length_eq_one_iff.1 one
  have ended := (Path.nil.run.keepsVerdict_iff p ⟨0⟩).2.1 err
    (herr ▸ List.mem_singleton_self err)
  have kept := (p.run.keepsVerdict_iff p' ⟨0⟩).1.2 fun err herr => by
    rw [none] at herr
    cases herr
  exact ⟨h₀, m, h, m', err, p.run, p', ended.2, moved, kept.failure _ ended.2⟩

/-- A listener hears of the first send of an exchange that no flow will carry. -/
def Cue.heard : List Cue :=
  opening .inOut ++ [operate (.setFlows []), listen, request 0 (.send ⟨1⟩ ⟨0⟩), runs 0,
    operate (.change ⟨0⟩ (.status .done))]

/-- The listener ends the exchange, which is done then and has failed later. -/
theorem Run.keepsVerdict_listener : ∃ h₀ m h m', Run {} h₀ m ∧ Path m h m' ∧
    (m.router.exchange ⟨0⟩).status = .done ∧ (m'.router.exchange ⟨0⟩).status = .error := by
  obtain ⟨h₀, m, h, m', p, p', hq⟩ := Path.exists_of_enacts .usual Cue.heard
    [.answer 0 .done, .runs 0]
    (fun p p' => (p.2.router.exchange ⟨0⟩).status == .done &&
      (p'.2.router.exchange ⟨0⟩).status == .error) (by rfl)
  simp only [Bool.and_eq_true, beq_iff_eq] at hq
  exact ⟨h₀, m, h, m', p.run, p', hq.1, hq.2⟩

end Engine

end MessageRouter
