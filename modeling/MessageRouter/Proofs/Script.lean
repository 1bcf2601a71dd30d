import MessageRouter.Proofs.Run

/-!
# Scripts

A run of a router is written down as a script: what is done from outside, and in between which task
goes on and how far.  How many steps a task takes to get there is left to the router.
-/

namespace MessageRouter.Engine

/-- What a task may be about to do when a script lets it go no further. -/
inductive Stop where
  | announces (event : ExchangeEvent)
  | notifies (event : ExchangeEvent)
  | accepts
  | routes
  | loses
  | delivers
  | processes
  | enters
  | handles

def Stop.isAt : Stop → Frame → Bool
  | announces event, .announce event' _ => event' == event
  | notifies event, .notify event' .. => event' == event
  | accepts, .accept .. => true
  | routes, .route _ => true
  | loses, .lost .. => true
  | delivers, .deliver .. => true
  | processes, .process .. => true
  | enters, .enter .. => true
  | handles, .handle .. => true
  | _, _ => false

/-- What comes next in a script. -/
inductive Cue where
  | makes (mv : Move)
  /-- A task goes on until it cannot, or until it comes to a stop. -/
  | goes (t : Nat) (stop : Option Stop)

namespace Cue

/-- A task goes on until it has to wait for somebody or is through. -/
def runs (t : Nat) : Cue := goes t none

/-- A task goes on until it comes to a stop. -/
def halts (t : Nat) (stop : Stop) : Cue := goes t (some stop)

def advance (t : Nat) : Cue := makes (.advance t)

def request (t : Nat) (f : Frame) : Cue := makes (.request t f)

def answer (t : Nat) (reply : Reply) : Cue := makes (.answer t reply)

def operate (o : Operation) : Cue := makes (.operate o)

def fork : Cue := makes .fork

/-- An endpoint is registered under a name. -/
def registers (name : String) (properties : Properties) : List Cue :=
  [request 0 (.register name properties), runs 0, answer 0 .done, runs 0]

/-- An endpoint is registered and gets slot 0; a client opens a channel, gets slot 1 and has an
exchange ready for the endpoint. -/
def opening (p : Pattern) : List Cue :=
  registers "service" ∅ ++
    [operate .openChannel, operate (.create p),
      operate (.change ⟨0⟩ (.message .input default)),
      operate (.change ⟨0⟩ (.target (.endpoint (SlotId.identifier ⟨0⟩))))]

/-- A client sends an exchange to the endpoint, which is called with it on a task of its own. -/
def asking (p : Pattern) : List Cue :=
  opening p ++ [request 0 (.send ⟨1⟩ ⟨0⟩), runs 0, runs 1]

/-- A client sends an exchange to the endpoint and waits; the endpoint is called with it. -/
def awaiting (p : Pattern) : List Cue :=
  opening p ++ [request 0 (.sendSync ⟨1⟩ ⟨0⟩ none), runs 0, runs 1]

/-- The endpoint, which has been called on a task, sends an answer. -/
def answering (t : Nat) : List Cue :=
  [operate (.change ⟨0⟩ (.message .output default)), request t (.send ⟨0⟩ ⟨0⟩), runs t]

/-- A listener begins to hear of exchanges. -/
def listen : Cue := operate (.setListeners [⟨"listener", false, true, ∅⟩])

/-- A listener is told of something and is through with it. -/
def hears : List Cue := [runs 0, answer 0 .done]

end Cue

namespace Machine

/-- A task goes on, so many steps at most. -/
def goOn (m : Machine) (h : History) (t : Nat) (stop : Option Stop) : Nat → History × Machine
  | 0 => (h, m)
  | n + 1 =>
    if stop.any fun s => (m.task t).frames.head?.any s.isAt then (h, m)
    else
      match m.move? (.advance t) with
      | some m' => m'.goOn ((m, .advance t) :: h) t stop n
      | none => (h, m)

/-- What comes of a script, if its moves can be made. -/
def enact (m : Machine) (h : History) : List Cue → Option (History × Machine)
  | [] => some (h, m)
  | .makes mv :: rest => (m.move? mv).bind fun m' => m'.enact ((m, mv) :: h) rest
  | .goes t stop :: rest =>
    match m.goOn h t stop 32 with
    | (h', m') => m'.enact h' rest

/-- A new router with the usual configuration. -/
def usual : Machine := .ofRouter { config := {}, flows := [.initial] }

/-- A new router that delivers on the task that sends. -/
def synchronous : Machine :=
  .ofRouter { config := { syncDelivery := true }, flows := [.initial] }

end Machine

namespace Path

variable {m₀ m₁ m : Machine} {h h' : History}

theorem run (p : Path .usual h m) : Run {} h m := ⟨_, rfl, p⟩

theorem runSynchronous (p : Path .synchronous h m) : Run { syncDelivery := true } h m :=
  ⟨_, rfl, p⟩

theorem goOn {t : Nat} {stop : Option Stop} (n : Nat) (p : Path m₀ h m₁) :
    Path m₀ (m₁.goOn h t stop n).1 (m₁.goOn h t stop n).2 := by
  induction n generalizing h m₁ with
  | zero => exact p
  | succ n ih =>
    unfold Machine.goOn
    split
    · exact p
    · split
      · exact ih (p.cons ‹_›)
      · exact p

theorem enact {script : List Cue} (p : Path m₀ h m₁) (hp : m₁.enact h script = some (h', m)) :
    Path m₀ h' m := by
  induction script generalizing h m₁ with
  | nil =>
    cases hp
    exact p
  | cons cue rest ih =>
    cases cue with
    | makes mv =>
      obtain ⟨m₂, hm, hp⟩ := Option.bind_eq_some_iff.1 hp
      exact ih (p.cons hm) hp
    | goes t stop => exact ih (p.goOn 32) hp

/-- What is found at the end of a script is found on a path. -/
theorem exists_of_enact (m : Machine) (script : List Cue) (q : History × Machine → Bool)
    (hq : (m.enact [] script).any q = true) : ∃ h m', Path m h m' ∧ q (h, m') = true := by
  rcases hp : m.enact [] script with _ | ⟨h, m'⟩
  · rw [hp] at hq
    cases hq
  · rw [hp] at hq
    exact ⟨h, m', Path.nil.enact hp, hq⟩

/-- What is found at the end of one script and then of another is found on two paths. -/
theorem exists_of_enacts (m : Machine) (script script' : List Cue)
    (q : History × Machine → History × Machine → Bool)
    (hq : (m.enact [] script).any (fun p => (p.2.enact [] script').any (q p)) = true) :
    ∃ h m₁ h' m', Path m h m₁ ∧ Path m₁ h' m' ∧ q (h, m₁) (h', m') = true := by
  obtain ⟨h, m₁, p, hq⟩ := exists_of_enact m script _ hq
  obtain ⟨h', m', p', hq⟩ := exists_of_enact m₁ script' _ hq
  exact ⟨h, m₁, h', m', p, p', hq⟩

end Path

/-! ## Looking at a run -/

/-- The move is a step of a task. -/
def Move.advances (t : Nat) : Move → Bool
  | .advance t' => t' == t
  | _ => false

theorem Move.advances_iff {t : Nat} {mv : Move} : mv.advances t = true ↔ mv = .advance t := by
  cases mv <;> simp [advances]

end MessageRouter.Engine
