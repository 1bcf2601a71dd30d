import MessageRouter.Proofs.Tasks

/-!
# What is done from outside

A router goes on of its own accord until all its tasks wait for somebody.  If nobody does anything
before that and only one task is at work, its moves follow from what is done from outside.
-/

namespace MessageRouter.Engine

/-- A task goes on. -/
def Move.isAdvance : Move → Bool
  | .advance _ => true
  | _ => false

theorem Move.exists_of_isAdvance {mv : Move} (go : mv.isAdvance = true) : ∃ t, mv = .advance t := by
  cases mv with
  | advance t => exact ⟨t, rfl⟩
  | _ => cases go

/-- No task can go on. -/
def Machine.Resting (m : Machine) : Prop := ∀ t, m.move? (.advance t) = none

/-- What is done from outside, the latest first. -/
def commands (h : History) : List Move := (h.map (·.2)).filter (!·.isAdvance)

/-- Whoever does something from outside lets all tasks go on first as far as they can, and that is
also done in the end. -/
structure Patient (h : History) (m : Machine) : Prop where
  before : ∀ q ∈ h, q.2.isAdvance = false → q.1.Resting
  after : m.Resting

/-- Only the first task goes on. -/
def Alone (h : History) : Prop := ∀ q ∈ h, ∀ t, q.2 = .advance t → t = 0

section

variable {h h' : History} {m m' m₀ : Machine} {q : Machine × Move}

/-- Only a task that is there goes on. -/
theorem Machine.lt_size_of_advance {t : Nat} (hm : m.move? (.advance t) = some m') :
    t < m.tasks.size := by
  obtain ⟨f, rest, hf, -⟩ := exists_step hm
  exact lt_size_of_frames (hf ▸ List.cons_ne_nil f rest)

/-- The first move of a path. -/
theorem Path.first (p : Path m₀ (h ++ [q]) m) :
    q.1 = m₀ ∧ ∃ m₁, m₀.move? q.2 = some m₁ ∧ Path m₁ h m := by
  induction h generalizing m with
  | nil =>
    cases p with
    | cons p hm =>
      cases p
      exact ⟨rfl, _, hm, .nil⟩
  | cons q' h ih =>
    cases p with
    | cons p hm =>
      obtain ⟨first, m₁, hm₁, p⟩ := ih p
      exact ⟨first, m₁, hm₁, p.cons hm⟩

/-- Every move of a path was made. -/
theorem Path.exists_made (p : Path m₀ h m) (hq : q ∈ h) : ∃ m', q.1.move? q.2 = some m' := by
  obtain ⟨h₁, h₂, rfl⟩ := List.append_of_mem hq
  induction h₁ generalizing m with
  | nil =>
    cases p with
    | cons p hm => exact ⟨m, hm⟩
  | cons q' h₁ ih =>
    cases p with
    | cons p hm => exact ih p (List.mem_append_right _ List.mem_cons_self)

theorem commands_concat (command : q.2.isAdvance = false) :
    commands (h ++ [q]) = commands h ++ [q.2] := by
  rw [commands, List.map_append, List.filter_append, List.map_singleton,
    List.filter_cons_of_pos (by rw [command]; rfl)]
  rfl

theorem commands_concat_of_isAdvance (advance : q.2.isAdvance = true) :
    commands (h ++ [q]) = commands h := by
  rw [commands, List.map_append, List.filter_append, List.map_singleton,
    List.filter_cons_of_neg (by rw [advance]; exact Bool.false_ne_true)]
  exact List.append_nil _

/-- Where no task can go on, a path begins with something that is done from outside. -/
theorem Path.isAdvance_first (p : Path m₀ (h ++ [q]) m) (resting : m₀.Resting) :
    q.2.isAdvance = false := by
  obtain ⟨-, m₁, hm, -⟩ := p.first
  cases hmv : q.2 with
  | advance t =>
    rw [hmv, resting t] at hm
    cases hm
  | _ => rfl

/-- If nothing is done from outside any more, no more moves are made where no task can go on. -/
theorem Path.eq_nil_of_resting (p : Path m₀ h m) (resting : m₀.Resting) (none : commands h = []) :
    h = [] := by
  rcases List.eq_nil_or_concat h with rfl | ⟨k, q, rfl⟩
  · rfl
  · rw [List.concat_eq_append] at p none
    rw [commands_concat (p.isAdvance_first resting)] at none
    cases (List.append_eq_nil_iff.1 none).2

/-- As long as only one task goes on, what is done from outside determines all moves. -/
theorem Path.eq_of_commands (p : Path m₀ h m) (p' : Path m₀ h' m') (alone : Alone h)
    (alone' : Alone h') (patient : Patient h m) (patient' : Patient h' m')
    (same : commands h = commands h') : h = h' := by
  induction h using List.reverseRecOn generalizing m₀ h' with
  | nil =>
    cases p
    exact (p'.eq_nil_of_resting patient.after same.symm).symm
  | append_singleton k q ih =>
    rcases List.eq_nil_or_concat h' with rfl | ⟨k', q', rfl⟩
    · cases p'
      exact p.eq_nil_of_resting patient'.after same
    rw [List.concat_eq_append] at p' alone' patient' same ⊢
    obtain ⟨start, m₁, hm, rest⟩ := p.first
    obtain ⟨start', m₁', hm', rest'⟩ := p'.first
    have last {k : History} {q : Machine × Move} : q ∈ k ++ [q] :=
      List.mem_append_right _ List.mem_cons_self
    have resting (command : q.2.isAdvance = false) : m₀.Resting :=
      start ▸ patient.before q last command
    have resting' (command : q'.2.isAdvance = false) : m₀.Resting :=
      start' ▸ patient'.before q' last command
    have moves : q.2 = q'.2 ∧ commands k = commands k' := by
      cases go : q.2.isAdvance with
      | true =>
        have go' : q'.2.isAdvance = true := eq_true_of_ne_false fun command =>
          Bool.false_ne_true ((p.isAdvance_first (resting' command)).symm.trans go)
        rw [commands_concat_of_isAdvance go, commands_concat_of_isAdvance go'] at same
        obtain ⟨t, ht⟩ := Move.exists_of_isAdvance go
        obtain ⟨t', ht'⟩ := Move.exists_of_isAdvance go'
        refine ⟨?_, same⟩
        rw [ht, ht', alone q last t ht, alone' q' last t' ht']
      | false =>
        rw [commands_concat go, commands_concat (p'.isAdvance_first (resting go))] at same
        obtain ⟨before, now⟩ := List.append_inj' same rfl
        exact ⟨List.head_eq_of_cons_eq now, before⟩
    rw [← moves.1, hm] at hm'
    cases hm'
    have inner {k : History} {q q' : Machine × Move} (hq : q' ∈ k) : q' ∈ k ++ [q] :=
      List.mem_append_left _ hq
    have pairs : q = q' := Prod.ext (start.trans start'.symm) moves.1
    rw [pairs, ih rest rest' (fun q hq => alone q (inner hq)) (fun q hq => alone' q (inner hq))
      ⟨fun q hq => patient.before q (inner hq), patient.after⟩
      ⟨fun q hq => patient'.before q (inner hq), patient'.after⟩ moves.2]

/-- There is one task, and it cannot go on. -/
def Machine.waits (m : Machine) : Bool := m.tasks.size == 1 && (m.move? (.advance 0)).isNone

theorem Machine.resting_of_waits (waits : m.waits = true) : m.Resting := by
  simp only [Machine.waits, Bool.and_eq_true, beq_iff_eq, Option.isNone_iff_eq_none] at waits
  rintro (_ | t)
  · exact waits.2
  · refine Option.eq_none_iff_forall_ne_some.2 fun m' hm => ?_
    have := lt_size_of_advance hm
    omega

end

end MessageRouter.Engine
