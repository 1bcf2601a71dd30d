import MessageRouter.Proofs.Steps

/-!
# Stacks

What stands on what.  A hop that is being carried waits for the frames of its delivery and for
nothing else, and a flow carries exchanges only for such a hop.  So the reply that a hop gets is
a refusal only if the flow itself refuses.
-/

namespace MessageRouter.Engine

namespace Frame

/-- A frame works for a hop that waits below until the exchange has been carried. -/
def serves (h : Hop) : Frame → Prop
  | .deliver _ e | .hand _ e | .process _ e | .enter _ e _ | .handle _ e _ | .wake e _ =>
    e = h.exchange
  | .call (.carry _ h' _ _) => h' = h
  | .yields .done => True
  | _ => False

def isCarry : Frame → Bool
  | .call (.carry ..) => true
  | _ => false

/-- A frame may stand on what is below it. -/
def sitsOn (f : Frame) : Option Frame → Prop
  | some (.routed h) => f.serves h
  | _ => f.isCarry = false

/-- What replaces a frame may stand where it stood. -/
theorem sitsOn.imp {f g : Frame} {below : Option Frame} (hf : f.sitsOn below)
    (h : ∀ h, f.serves h → g.serves h) (hg : g.isCarry = false) : g.sitsOn below := by
  cases below with
  | none => exact hg
  | some b => cases b <;> first | exact hg | exact h _ hf

theorem serves_carryFrame (f : Flow) (h : Hop) (s : SlotId) :
    (carryFrame f h s).serves h := by
  unfold carryFrame
  split <;> rfl

/-- The frame of a call goes on to be one. -/
theorem exists_note (f : Frame) (c : Call) : ∃ c', f.note (.call c) = .call c' := by
  unfold note
  split
  · exact ⟨_, rfl⟩
  · exact ⟨_, rfl⟩

theorem sitsOn_note {f g : Frame} {below : Option Frame} (hg : g.sitsOn below) :
    (f.note g).sitsOn below := by
  unfold note
  split
  · cases below with
    | none => exact hg
    | some b => cases b <;> exact hg
  · exact hg

end Frame

/-- Every frame of a stack may stand where it stands. -/
def Stacked : List Frame → Prop
  | [] => True
  | f :: rest => f.sitsOn rest.head? ∧ Stacked rest

namespace Outcome

/-- The frames that come of a step. -/
def frames : Outcome → List Frame
  | .next fs _ | .spawn _ fs _ => fs
  | _ => []

/-- What a step leaves on its stack is well stacked, and so is what it leaves elsewhere. -/
def Stacks (rest : List Frame) : Outcome → Prop
  | .blocked => True
  | .next fs _ => Stacked (fs ++ rest)
  | .through _ _ => Stacked rest
  | .spawn _ fs _ => Stacked fs ∧ Stacked rest

end Outcome

namespace Frame

variable {c : Context} {r : Router} {f : Frame} {o : Outcome} {rest : List Frame}

theorem Becomes.stacks (b : Becomes c r f o) (h : Stacked (f :: rest)) : o.Stacks rest := by
  obtain ⟨hf, hr⟩ := h
  have last : ∀ g : Frame, (∀ h, f.serves h → g.serves h) → g.isCarry = false →
      Stacked (g :: rest) := fun g hg hc => ⟨hf.imp hg hc, hr⟩
  cases b
  -- one frame, which works for the same hop or for none
  case announce | announceSlot | send | sendSync | wait | takeToken | waitOn | dispatch | sent |
      refused | ended | searches | goesTo | noWay | noCandidate | passesOver | cannotPin | noFlow |
      gone | noFlowBack | declines | deliver | turnsOver =>
    all_goals exact last _ (fun _ h => h) rfl
  -- a second frame above it, and a third
  case notify | notifySlot | mark | accept | strand | considers | seeks | asks | answers | process |
      calls | notPosted | registered | reserves | confirms | unregisters =>
    all_goals exact ⟨rfl, last _ (fun _ h => h) rfl⟩
  case sendBack | strandWaiter => all_goals exact ⟨rfl, rfl, last _ (fun _ h => h.elim) rfl⟩
  case fails => exact ⟨rfl, rfl, last _ (fun _ _ => trivial) rfl⟩
  case pins | reaches =>
    all_goals exact ⟨serves_carryFrame _ _ _, last _ (fun _ h => h.elim) rfl⟩
  case leaves => exact ⟨⟨rfl, trivial⟩, hr⟩
  all_goals exact hr

/-- A hop that is being carried hears of a refusal only from a flow. -/
theorem Becomes.carried {reply : Reply} {r' : Router} {h : Hop}
    (b : Becomes c r f (.through reply r')) (hf : f.serves h) (alive : c.alive = true) :
    reply.isRefusal = false := by
  cases b <;> first
    | rfl
    | exact hf.elim
    | skip
  case yields =>
    unfold serves at hf
    split at hf <;> simp_all [Reply.isRefusal]
  case notDelivered gone =>
    rw [alive] at gone
    cases gone

end Frame

/-! ## All stacks of a machine -/

namespace Machine

/-- All stacks are well stacked. -/
def Stacked (m : Machine) : Prop := ∀ t, Engine.Stacked (m.task t).frames

variable {m m' : Machine}

theorem Stacked.setTask (h : m.Stacked) (t : Nat) {task : Task}
    (ht : Engine.Stacked task.frames) : (m.setTask t task).Stacked := by
  intro u
  rw [task_setTask]
  split
  · exact ht
  · exact h u

theorem Stacked.addTask (h : m.Stacked) {task : Task} (ht : Engine.Stacked task.frames) :
    Stacked { m with tasks := (m.tasks.add task).2 } := by
  intro u
  simp only [Machine.task, Table.get_add]
  split
  · exact ht
  · exact h u

theorem Stacked.setRouter (h : m.Stacked) (r : Router) : Stacked { m with router := r } := h

theorem Stacked.advance {t : Nat} (h : m.Stacked) (hm : m.advance? t = some m') :
    m'.Stacked := by
  obtain ⟨f, rest, o, hf, b, rfl⟩ := exists_becomes hm
  have ht := h t
  rw [hf] at ht
  have hs := b.stacks ht
  cases o with
  | blocked => exact h
  | next fs r => exact (h.setRouter r).setTask t hs
  | through reply r => exact (h.setRouter r).setTask t hs
  | spawn lane fs r => exact ((h.setRouter r).setTask t hs.2).addTask hs.1

theorem Stacked.request {t : Nat} {f : Frame} (h : m.Stacked) (hc : (m.task t).call?.isSome)
    (hf : f.isRequest) : (m.request t f).Stacked := by
  refine h.setTask t ?_
  have ht := h t
  unfold Task.call? at hc
  split at hc
  · rename_i c rest hframes
    rw [hframes] at ht ⊢
    refine ⟨?_, Frame.sitsOn_note ht.1, ht.2⟩
    obtain ⟨c', hc'⟩ := f.exists_note c
    simp only [List.modifyHead_cons, List.head?_cons, hc']
    cases f <;> first | rfl | cases hf
  · cases hc

theorem Stacked.finish {t : Nat} (h : m.Stacked) (reply : Reply) : (m.finish t reply).Stacked := by
  refine h.setTask t ?_
  have ht := h t
  cases hf : (m.task t).frames with
  | nil => exact trivial
  | cons f rest =>
    rw [hf] at ht
    exact ht.2

theorem stacked_application : Engine.Stacked Task.application.frames := ⟨rfl, trivial⟩

/-- Every move leaves all stacks well stacked. -/
theorem Stacked.move {mv : Move} (h : m.Stacked) (hm : m.move? mv = some m') : m'.Stacked := by
  cases mv with
  | advance t => exact h.advance hm
  | request t f =>
    obtain ⟨⟨call, request⟩, rfl⟩ := request_of_move hm
    exact h.request call request
  | answer t reply => exact (finish_of_move hm).2 ▸ h.finish reply
  | operate o => exact Option.some.inj hm ▸ h
  | fork => exact Option.some.inj hm ▸ h.addTask stacked_application
  | elapse duration => exact Option.some.inj hm ▸ h

theorem stacked_ofRouter (r : Router) : (ofRouter r).Stacked := by
  intro t
  rcases t with _ | t
  · exact stacked_application
  · exact trivial

end Machine

/-- All stacks of a run are well stacked. -/
theorem Run.stacked {config : Config} {h : History} {m : Machine} (run : Run config h m) :
    m.Stacked := by
  obtain ⟨r, _, p⟩ := run
  exact p.induct (Machine.stacked_ofRouter r) fun _ _ _ hs hm => hs.move hm

end MessageRouter.Engine
