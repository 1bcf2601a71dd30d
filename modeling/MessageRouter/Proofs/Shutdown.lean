import MessageRouter.Proofs.DeadEnds
import MessageRouter.Proofs.Registrations

/-!
# A router that is gone

A router is there as long as someone holds it or a task works on it.  Once it is gone it does not
come back (`Machine.gone_of_move`): whoever is still at work has only a channel, and can do nothing
with it that would call the router back.
-/

namespace MessageRouter.Engine

namespace Frame

variable {c : Context} {r : Router} {f : Frame} {o : Outcome}

/-- No step takes the router from its owner. -/
theorem Becomes.owned (b : Becomes c r f o) : (o.router r).owned = r.owned := by
  cases b
  case accept accepted => exact (Router.SameSetup.accept accepted).owned
  case notAccepted refused => exact (Router.SameSetup.accept refused).owned
  case release => exact Router.SameSetup.releasePins.owned
  case pins pinned => exact (Router.SameSetup.pin pinned).owned
  case cannotPin retired => exact (Router.SameSetup.pin retired).owned
  case reserves reserved =>
    cases reserved
    rfl
  case unregisters removed =>
    obtain ⟨g, registry, -, rfl, rfl⟩ := Router.unregister_eq_some.1 removed
    rfl
  all_goals rfl

/-- Once the router is gone, whoever works only through a channel goes on to do so. -/
theorem Becomes.holdsRouter (b : Becomes c r f o) (gone : c.alive = false)
    (hf : f.holdsRouter = false) : ∀ g ∈ o.frames, g.holdsRouter = false := by
  cases b with
  | send usable | sendSync usable =>
    all_goals cases gone.symm.trans (checkChannel_ok.1 usable).1
  | deliver alive => cases gone.symm.trans alive
  | notSent | notSentSync | giveUp | notDelivered | receives | receivesNone | woken =>
    all_goals exact fun g hg => by cases hg
  | takeToken | waitOn =>
    all_goals
      intro g hg
      obtain rfl := List.mem_singleton.1 hg
      rfl
  | _ => cases hf

end Frame

theorem Operation.owned {o : Operation} {alive : Bool} {r : Router}
    (h : (o.apply alive r).owned = true) : r.owned = true := by
  cases o with
  | disown => cases h
  | close s => exact (sameSetup_closeIn alive s r).owned ▸ h
  | abandon s =>
    simp only [apply] at h
    split at h
    · exact ((Router.SameSetup.setSlot _).trans (sameSetup_closeIn alive s _)).owned ▸ h
    · exact h
  | take s =>
    simp only [apply] at h
    split at h
    · exact h
    · exact h
  | change e c =>
    simp only [apply, Router.change] at h
    split at h
    · exact h
    · exact h
  | _ => exact h

/-- Only those who hold the router register endpoints with it and take them out again. -/
def Machine.isEntitled (m : Machine) : Move → Bool
  | .request _ f => !f.holdsRouter || m.routerAlive
  | _ => true

/-- All requests came from those who may make them. -/
def Entitled (h : History) : Prop := ∀ q ∈ h, q.1.isEntitled q.2

theorem Entitled.tail {q : Machine × Move} {h : History} (entitled : Entitled (q :: h)) :
    Entitled h :=
  fun q hq => entitled q (List.mem_cons_of_mem _ hq)

namespace Machine

variable {m m' : Machine} {mv : Move} {h : History}

theorem owned_of_move (hm : m.move? mv = some m') (owned : m'.router.owned = true) :
    m.router.owned = true := by
  rcases router_of_move hm with same | ⟨o, applied⟩ | ⟨c, f, o, b, stepped⟩
  · rwa [same] at owned
  · rw [applied] at owned
    exact Operation.owned owned
  · rwa [stepped, b.owned] at owned

theorem routerAlive_eq_false_iff : m.routerAlive = false ↔
    m.router.owned = false ∧ ∀ t, ∀ f ∈ (m.task t).frames, f.holdsRouter = false := by
  rw [← Bool.not_eq_true, routerAlive_iff]
  simp [Task.holdsRouter]

/-- A router that is gone does not come back. -/
theorem gone_of_move (hm : m.move? mv = some m') (entitled : Entitled ((m, mv) :: h))
    (gone : m.routerAlive = false) : m'.routerAlive = false := by
  obtain ⟨owned, frames⟩ := routerAlive_eq_false_iff.1 gone
  refine routerAlive_eq_false_iff.2 ⟨?_, each_of_move hm frames (fun _ => rfl) ?_ ?_⟩
  · by_contra owned'
    cases owned.symm.trans (owned_of_move hm (eq_true_of_ne_false owned'))
  · intro t f rest o hf b
    exact b.holdsRouter gone (frames t f (hf ▸ List.mem_cons_self))
  · rintro t f rfl -
    simpa [isEntitled, gone] using entitled _ List.mem_cons_self

end Machine

end MessageRouter.Engine
