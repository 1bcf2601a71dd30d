import MessageRouter.Shelf

/-!
# What becomes of a stream

Whatever is done to the messages on a shelf, a stream only ever grows older: a pending one may
become buffered with the bytes of its source or consumed, and there it stays.  So every later
call, through whichever message it comes, sees a buffered stream the same way and finds a consumed
one gone, and a source that is never buffered is handed out at most once.
-/

namespace MessageRouter

open Text (Bytes)

/-! ## The ages of a stream -/

/-- A stream in the first state may come to be in the second. -/
inductive StreamState.Ages : StreamState → StreamState → Prop where
  | same (state : StreamState) : Ages state state
  | kept {source : Source} {bytes : Bytes} (h : source.read = .ok bytes) :
      Ages (.pending source) (.buffered bytes)
  | spent (source : Source) : Ages (.pending source) .consumed

namespace StreamState

theorem Ages.trans {x y z : StreamState} (h : x.Ages y) (h' : y.Ages z) : x.Ages z := by
  cases h with
  | same => exact h'
  | kept h => cases h'; exact .kept h
  | spent source => cases h'; exact .spent source

theorem Ages.eq_of_buffered {b : Bytes} {y : StreamState} (h : (buffered b).Ages y) :
    y = .buffered b := by
  cases h; rfl

theorem Ages.eq_of_consumed {y : StreamState} (h : consumed.Ages y) : y = .consumed := by
  cases h; rfl

theorem ages_buffer (x : StreamState) : x.Ages x.buffer.2 := by
  cases x with
  | pending source =>
    cases h : source.read with
    | ok bytes => simpa [buffer, h] using Ages.kept h
    | error e => simpa [buffer, h] using Ages.spent source
  | buffered bytes => exact .same _
  | consumed => exact .same _

theorem ages_take (x : StreamState) : x.Ages x.take.2 := by
  cases x with
  | pending source => exact .spent source
  | buffered bytes => exact .same _
  | consumed => exact .same _

@[simp] theorem buffer_buffer (x : StreamState) : x.buffer.2.buffer.2 = x.buffer.2 := by
  cases x with
  | pending source => cases h : source.read <;> simp [buffer, h]
  | buffered bytes => rfl
  | consumed => rfl

end StreamState

/-! ## Stores -/

namespace Streams

/-- The stream has been made. -/
def Has (s : Streams) (id : StreamId) : Prop := id.index < s.states.size

/-- No stream is lost on the way from one store to another, and each has only grown older. -/
structure Ages (s t : Streams) : Prop where
  size : s.states.size ≤ t.states.size
  state : ∀ {id}, s.Has id → (s.state id).Ages (t.state id)

theorem Ages.refl (s : Streams) : s.Ages s := ⟨Nat.le_refl _, fun _ => .same _⟩

theorem Ages.has {s t : Streams} (h : s.Ages t) {id : StreamId} (hid : s.Has id) : t.Has id :=
  Nat.lt_of_lt_of_le hid h.size

theorem Ages.trans {s t u : Streams} (h : s.Ages t) (h' : t.Ages u) : s.Ages u :=
  ⟨Nat.le_trans h.size h'.size, fun hid => (h.state hid).trans (h'.state (h.has hid))⟩

/-- No stream is lost on the way from one store to another, and some have been buffered. -/
structure Buffers (s t : Streams) : Prop where
  size : s.states.size ≤ t.states.size
  state : ∀ {id}, s.Has id → t.state id = s.state id ∨ t.state id = (s.state id).buffer.2

theorem Buffers.refl (s : Streams) : s.Buffers s := ⟨Nat.le_refl _, fun _ => .inl rfl⟩

theorem Buffers.trans {s t u : Streams} (h : s.Buffers t) (h' : t.Buffers u) : s.Buffers u := by
  refine ⟨Nat.le_trans h.size h'.size, fun hid => ?_⟩
  have h₁ := h.state hid
  have h₂ := h'.state (Nat.lt_of_lt_of_le hid h.size)
  rcases h₁ with h₁ | h₁ <;> rcases h₂ with h₂ | h₂ <;> simp [h₁, h₂]

theorem Buffers.ages {s t : Streams} (h : s.Buffers t) : s.Ages t := by
  refine ⟨h.size, fun {id} hid => ?_⟩
  rcases h.state hid with heq | heq
  · rw [heq]; exact .same _
  · rw [heq]; exact (s.state id).ages_buffer

/-- A stream that is not gone has been made. -/
theorem has_of_ne {s : Streams} {id : StreamId} (h : s.state id ≠ .consumed) : s.Has id := by
  refine Nat.lt_of_not_le fun hid => h ?_
  simp only [state, Table.get, List.getD_eq_getElem?_getD]
  rw [List.getElem?_eq_none hid]
  rfl

theorem state_set (s : Streams) (id other : StreamId) (x : StreamState) :
    (s.set id x).state other = if id = other then x else s.state other := by
  obtain ⟨i⟩ := id
  obtain ⟨j⟩ := other
  simp [state, set, Table.get_set]

theorem size_le_set (s : Streams) (id : StreamId) (x : StreamState) :
    s.states.size ≤ (s.set id x).states.size := by
  rw [set, Table.size_set]
  exact Nat.le_max_left _ _

theorem state_buffer (s : Streams) (id other : StreamId) :
    (s.buffer id).2.state other =
      if id = other then (s.state id).buffer.2 else s.state other :=
  s.state_set id other _

theorem state_read (s : Streams) (id other : StreamId) :
    (s.read id).2.state other =
      if id = other then (s.state id).take.2 else s.state other :=
  s.state_set id other _

theorem buffers_buffer (s : Streams) (id : StreamId) : s.Buffers (s.buffer id).2 := by
  refine ⟨s.size_le_set id _, fun {other} _ => ?_⟩
  rw [state_buffer]
  split
  · rename_i heq
    exact .inr (heq ▸ rfl)
  · exact .inl rfl

theorem buffers_add (s : Streams) (source : Source) : s.Buffers (s.add source).2 := by
  refine ⟨by simp [add], fun {id} hid => .inl ?_⟩
  have hne : id.index ≠ s.states.size := Nat.ne_of_lt hid
  simp only [state, add, Table.get_add, if_neg hne]

theorem ages_read (s : Streams) (id : StreamId) : s.Ages (s.read id).2 := by
  refine ⟨s.size_le_set id _, fun {other} _ => ?_⟩
  rw [state_read]
  split
  · rename_i heq
    exact heq ▸ (s.state id).ages_take
  · exact .same _

end Streams

/-! ## What a step does to the streams -/

theorem Content.buffers_ensureReadable (c : Content) (streams : Streams) :
    streams.Buffers (c.ensureReadable streams).2 := by
  cases c with
  | stream id => exact streams.buffers_buffer id
  | _ => exact .refl _

theorem Content.buffers_display (c : Content) (full : Bool) (streams : Streams) :
    streams.Buffers (c.display full streams).2 := by
  cases full with
  | false => exact .refl _
  | true =>
    cases c with
    | stream id =>
      have h := streams.buffers_buffer id
      simp only [display, shown, if_true]
      split <;> simp_all
    | _ => exact .refl _

namespace Message

theorem buffers_ensureAll (cs : List Content) (streams : Streams) :
    streams.Buffers (ensureAll cs streams).2 := by
  induction cs generalizing streams with
  | nil => exact .refl _
  | cons c cs ih =>
    have hc := c.buffers_ensureReadable streams
    unfold ensureAll
    split
    · rename_i rest heq
      rw [heq] at hc
      exact hc.trans (ih rest)
    · rename_i rest heq
      rwa [heq] at hc

theorem buffers_copy (m : Message) (streams : Streams) : streams.Buffers (m.copy streams).2 :=
  buffers_ensureAll m.contents streams

theorem buffers_copyFrom (m other : Message) (streams : Streams) :
    streams.Buffers (m.copyFrom other streams).2.2 := by
  have h := other.buffers_copy streams
  unfold copyFrom
  split <;> simp_all

end Message

theorem ContentDraft.buffers_make (d : ContentDraft) (streams : Streams) :
    streams.Buffers (d.make streams).2 := by
  cases d with
  | content c => exact .refl _
  | stream source => exact streams.buffers_add source

theorem MessageDraft.buffers_make (d : MessageDraft) (streams : Streams) :
    streams.Buffers (d.make streams).2 := by
  have hall : ∀ (l : List (String × ContentDraft)) (streams : Streams),
      streams.Buffers (makeAll l streams).2 := by
    intro l
    induction l with
    | nil => exact fun _ => .refl _
    | cons e l ih => exact fun streams => (e.2.buffers_make streams).trans (ih _)
  exact (d.body.buffers_make streams).trans (hall _ _)

namespace Shelf

/-- The stream that a step opens. -/
def opened? (s : Shelf) : Step → Option StreamId
  | .read name part => s.stream? name part
  | _ => none

theorem act_read {s : Shelf} {name : String} {part : Part} {id : StreamId}
    (h : s.stream? name part = some id) :
    s.act (.read name part) =
      (.bytes (s.streams.read id).1, { s with streams := (s.streams.read id).2 }) := by
  simp only [act, h]

theorem act_buffer {s : Shelf} {name : String} {part : Part} {id : StreamId}
    (h : s.stream? name part = some id) :
    s.act (.buffer name part) =
      (.bytes (s.streams.buffer id).1, { s with streams := (s.streams.buffer id).2 }) := by
  simp only [act, h]

theorem act_of_opened {s : Shelf} {step : Step} {id : StreamId} (h : s.opened? step = some id) :
    s.act step =
      (.bytes (s.streams.read id).1, { s with streams := (s.streams.read id).2 }) := by
  cases step with
  | read name part => exact act_read h
  | _ => simp [opened?] at h

/-- A step that opens no stream can only buffer some. -/
theorem buffers_act {s : Shelf} {step : Step} (h : s.opened? step = none) :
    s.streams.Buffers (s.act step).2.streams := by
  cases step with
  | make name draft => exact draft.buffers_make _
  | setBody name draft => exact draft.buffers_make _
  | attach name id draft => exact draft.buffers_make _
  | copy name source =>
    have h := (s.get source).buffers_copy s.streams
    simp only [act]
    split <;> simp_all
  | copyFrom name source => exact (s.get name).buffers_copyFrom (s.get source) s.streams
  | ensure name => exact Message.buffers_ensureAll (s.get name).contents s.streams
  | display name full => exact (s.get name).body.buffers_display full s.streams
  | read name part =>
    have hnone : s.stream? name part = none := h
    simp only [act, hnone]
    exact .refl _
  | buffer name part =>
    simp only [act]
    split
    · exact s.streams.buffers_buffer _
    · exact .refl _
  | clone | moveBody | takeBody | detach | describe | removeHeader | look => exact .refl _

theorem ages_act (s : Shelf) (step : Step) : s.streams.Ages (s.act step).2.streams := by
  cases h : s.opened? step with
  | none => exact (buffers_act h).ages
  | some id =>
    rw [act_of_opened h]
    exact s.streams.ages_read id

theorem ages_run (s : Shelf) (steps : List Step) : s.streams.Ages (s.run steps).streams := by
  induction steps generalizing s with
  | nil => exact .refl _
  | cons step steps ih => exact (s.ages_act step).trans (ih _)

/-- A stream that is buffered stays so, with its bytes. -/
theorem run_buffered {s : Shelf} {id : StreamId} {b : Bytes}
    (h : s.streams.state id = .buffered b) (steps : List Step) :
    (s.run steps).streams.state id = .buffered b :=
  have hid : s.streams.Has id := Streams.has_of_ne (by simp [h])
  (h ▸ (s.ages_run steps).state hid).eq_of_buffered

/-- A stream that is consumed stays so. -/
theorem run_consumed {s : Shelf} {id : StreamId} (hid : s.streams.Has id)
    (h : s.streams.state id = .consumed) (steps : List Step) :
    (s.run steps).streams.state id = .consumed :=
  (h ▸ (s.ages_run steps).state hid).eq_of_consumed

/-! ## What the messages show of a stream -/

/-- Every message that carries the stream shows exactly the bytes. -/
structure Shows (s : Shelf) (id : StreamId) (b : Bytes) : Prop where
  read : ∀ {name part}, s.stream? name part = some id →
    (s.act (.read name part)).1 = .bytes (.ok b)
  buffer : ∀ {name part}, s.stream? name part = some id →
    (s.act (.buffer name part)).1 = .bytes (.ok b)
  text : ∀ {name part}, s.stream? name part = some id →
    (s.act (.look name (.text part))).1 = .text (Text.utf8? b)
  display : ∀ {name}, s.stream? name .body = some id →
    (s.act (.display name true)).1 =
      .text (some ("Message[" ++ (s.get name).headText ++ "body: " ++
        (Text.utf8? b).getD (Content.bytesText b) ++ "]"))

/-- Whoever opens or buffers the stream is told that it is at its end. -/
structure Refuses (s : Shelf) (id : StreamId) : Prop where
  read : ∀ {name part}, s.stream? name part = some id →
    ∃ e, (s.act (.read name part)).1 = .bytes (.error e) ∧ e.kind = "UnexpectedEof"
  buffer : ∀ {name part}, s.stream? name part = some id →
    ∃ e, (s.act (.buffer name part)).1 = .bytes (.error e) ∧ e.kind = "UnexpectedEof"

theorem content?_of_stream? {s : Shelf} {name : String} {part : Part} {id : StreamId}
    (h : s.stream? name part = some id) : s.content? name part = some (.stream id) := by
  obtain ⟨c, hc, hid⟩ := Option.bind_eq_some_iff.1 h
  cases c <;> simp_all [Content.stream?]

theorem shows_of_buffered {s : Shelf} {id : StreamId} {b : Bytes}
    (h : s.streams.state id = .buffered b) : s.Shows id b where
  read hc := by
    rw [act_read hc]
    simp [Streams.read, h, StreamState.take, Source.read, Except.bind]
  buffer hc := by
    rw [act_buffer hc]
    simp [Streams.buffer, h, StreamState.buffer]
  text hc := by
    simp [act, glance, content?_of_stream? hc, Content.toText?, Streams.buffered?, h,
      StreamState.buffered?]
  display {name} hc := by
    have hbody : (s.get name).body = .stream id := by
      simpa [content?, Message.content?] using content?_of_stream? hc
    simp [act, Message.display, hbody, Content.display, Content.shown, Streams.buffer, h,
      StreamState.buffer]

theorem refuses_of_consumed {s : Shelf} {id : StreamId} (h : s.streams.state id = .consumed) :
    s.Refuses id where
  read hc := by
    refine ⟨.consumed, ?_, rfl⟩
    rw [act_read hc]
    simp [Streams.read, h, StreamState.take, Except.bind]
  buffer hc := by
    refine ⟨.consumed, ?_, rfl⟩
    rw [act_buffer hc]
    simp [Streams.buffer, h, StreamState.buffer]

/-! ## Who is handed the source -/

/-- What the calls that open the stream return, in turn. -/
def readings (id : StreamId) : Shelf → List Step → List Answer
  | _, [] => []
  | s, step :: steps =>
    let later := readings id (s.act step).2 steps
    if s.opened? step = some id then (s.act step).1 :: later else later

/-- Nobody is handed the bytes of a stream that is consumed. -/
theorem readings_consumed {s : Shelf} {id : StreamId} (hid : s.streams.Has id)
    (h : s.streams.state id = .consumed) (steps : List Step) :
    ∃ n, readings id s steps = List.replicate n (.bytes (.error .consumed)) := by
  induction steps generalizing s with
  | nil => exact ⟨0, rfl⟩
  | cons step steps ih =>
    obtain ⟨n, hn⟩ := ih ((s.ages_act step).has hid) (run_consumed hid h [step])
    by_cases hstep : s.opened? step = some id
    · refine ⟨n + 1, ?_⟩
      have hread : (s.streams.read id).1 = .error .consumed := by
        simp [Streams.read, h, StreamState.take, Except.bind]
      rw [readings, if_pos hstep, hn, act_of_opened hstep, hread, List.replicate_succ]
    · exact ⟨n, by rw [readings, if_neg hstep, hn]⟩

/-- A source that is never buffered is handed out at most once. -/
theorem readings_pending {s : Shelf} {id : StreamId} {source : Source}
    (h : s.streams.state id = .pending source) (steps : List Step)
    (hnever : ∀ b, (s.run steps).streams.state id ≠ .buffered b) :
    ∃ first n, first.length ≤ 1 ∧ (∀ a ∈ first, a = .bytes source.read) ∧
      readings id s steps = first ++ List.replicate n (.bytes (.error .consumed)) := by
  induction steps generalizing s with
  | nil => exact ⟨[], 0, by simp, by simp, rfl⟩
  | cons step steps ih =>
    have hid : s.streams.Has id := Streams.has_of_ne (by simp [h])
    have hid' := (s.ages_act step).has hid
    have hage := (s.ages_act step).state hid
    by_cases hstep : s.opened? step = some id
    · -- The source leaves the stream here, so nobody gets it later.
      have hact := act_of_opened hstep
      have hgone : (s.act step).2.streams.state id = .consumed := by
        simp [hact, Streams.state_read, h, StreamState.take]
      obtain ⟨n, hn⟩ := readings_consumed hid' hgone steps
      have hread : (s.streams.read id).1 = source.read := by
        simp [Streams.read, h, StreamState.take, Except.bind]
      refine ⟨[.bytes source.read], n, Nat.le_refl _, by simp, ?_⟩
      rw [readings, if_pos hstep, hn, hact, hread, List.singleton_append]
    · rw [readings, if_neg hstep]
      rw [h] at hage
      generalize hnext : (s.act step).2.streams.state id = next at hage
      cases hage with
      | same => exact ih hnext hnever
      | kept _ => exact absurd (run_buffered hnext steps) (hnever _)
      | spent _ =>
        obtain ⟨n, hn⟩ := readings_consumed hid' hnext steps
        exact ⟨[], n, by simp, by simp, hn⟩

/-! ## The law of streams -/

/-- The step reads the source that the stream has been waiting with. -/
def Drains (s : Shelf) (step : Step) (id : StreamId) (source : Source) : Prop :=
  s.streams.state id = .pending source ∧
    (s.act step).2.streams.state id ≠ .pending source

theorem drains_of_opened {s : Shelf} {step : Step} {id : StreamId} {source : Source}
    (h : s.streams.state id = .pending source) (hopen : s.opened? step = some id) :
    s.Drains step id source := by
  refine ⟨h, ?_⟩
  rw [act_of_opened hopen, Streams.state_read, if_pos rfl, h]
  exact StreamState.noConfusion

/-- A source is handed to whoever opens the stream; otherwise it is kept, unless it is broken. -/
theorem Drains.state {s : Shelf} {step : Step} {id : StreamId} {source : Source}
    (h : s.Drains step id source) :
    (s.act step).2.streams.state id =
      if s.opened? step = some id ∨ source.broken then .consumed
      else .buffered source.bytes := by
  obtain ⟨hpending, hleft⟩ := h
  have hid : s.streams.Has id := Streams.has_of_ne (by simp [hpending])
  cases hopen : s.opened? step with
  | none =>
    rcases (buffers_act hopen).state hid with heq | heq
    · exact absurd (heq.trans hpending) hleft
    · rw [heq, hpending]
      cases hb : source.broken <;> simp [StreamState.buffer, Source.read, hb]
  | some other =>
    rw [act_of_opened hopen, Streams.state_read] at hleft ⊢
    by_cases heq : other = id
    · simp [heq, hpending, StreamState.take]
    · simp [heq, hpending] at hleft

/-- Over every sequence of calls: a buffered stream stays what it is and every message shows it so;
a source that is never buffered is handed to at most one caller; a stream whose source was handed
out, or broke while it was being kept, is gone for good; and looking changes nothing. -/
theorem run_streams (s : Shelf) (steps : List Step) (id : StreamId) :
    (∀ b, s.streams.state id = .buffered b →
      (s.run steps).streams.state id = .buffered b ∧ (s.run steps).Shows id b) ∧
    (∀ source, s.streams.state id = .pending source →
      (∀ b, (s.run steps).streams.state id ≠ .buffered b) →
      ∃ first n, first.length ≤ 1 ∧ (∀ a ∈ first, a = .bytes source.read) ∧
        readings id s steps = first ++ List.replicate n (.bytes (.error .consumed))) ∧
    (∀ step source, s.streams.state id = .pending source →
      s.opened? step = some id ∨ source.broken ∧ s.Drains step id source →
      ((s.act step).2.run steps).streams.state id = .consumed ∧
        ((s.act step).2.run steps).Refuses id) ∧
    ∀ name, (s.act (.display name false)).2 = s ∧ ∀ l, (s.act (.look name l)).2 = s := by
  refine ⟨fun b h => ?_, fun source h => readings_pending h steps, fun step source h hlost => ?_,
    fun name => ⟨rfl, fun l => rfl⟩⟩
  · have hb := run_buffered h steps
    exact ⟨hb, shows_of_buffered hb⟩
  · have hid : s.streams.Has id := Streams.has_of_ne (by simp [h])
    have hnow : (s.act step).2.streams.state id = .consumed := by
      rcases hlost with hopen | ⟨hbroken, hdrains⟩
      · exact (drains_of_opened h hopen).state.trans (if_pos (.inl hopen))
      · exact hdrains.state.trans (if_pos (.inr hbroken))
    have hgone := run_consumed ((s.ages_act step).has hid) hnow steps
    exact ⟨hgone, refuses_of_consumed hgone⟩

/-- A stream that two messages share is kept through one of them and shown by the other; or it is
opened through one and gone for the other; and a broken one is lost to whoever keeps it. -/
theorem run_streams_shared :
    let s := run {} [.make "a" { body := .stream ⟨[104, 105], false⟩ }, .clone "b" "a"]
    let t := run {} [.make "a" { body := .stream ⟨[104], true⟩ }, .clone "b" "a"]
    let kept := s.run [.buffer "b" .body]
    let reads : List Step := [.read "a" .body, .read "b" .body]
    ((kept.run reads).streams.state ⟨0⟩ = .buffered [104, 105] ∧
      (kept.run reads).Shows ⟨0⟩ [104, 105]) ∧
    (∃ first n, first.length ≤ 1 ∧ (∀ a ∈ first, a = .bytes (.ok [104, 105])) ∧
      readings ⟨0⟩ s reads = first ++ List.replicate n (.bytes (.error .consumed))) ∧
    ((s.act (.read "b" .body)).2.run reads).Refuses ⟨0⟩ ∧
    ((t.act (.display "b" true)).2.run reads).Refuses ⟨0⟩ ∧
    (s.act (.display "b" false)).2 = s := by
  intro s t kept reads
  have hs : s.streams.state ⟨0⟩ = .pending ⟨[104, 105], false⟩ := by rfl
  have ht : t.streams.state ⟨0⟩ = .pending ⟨[104], true⟩ := by rfl
  refine ⟨(kept.run_streams reads ⟨0⟩).1 _ (by rfl), ?_, ?_, ?_, ?_⟩
  · exact (s.run_streams reads ⟨0⟩).2.1 _ hs fun b h => StreamState.noConfusion h
  · exact ((s.run_streams reads ⟨0⟩).2.2.1 (.read "b" .body) _ hs (.inl (by rfl))).2
  · refine ((t.run_streams reads ⟨0⟩).2.2.1 (.display "b" true) _ ht (.inr ⟨rfl, ht, ?_⟩)).2
    exact fun h => StreamState.noConfusion h
  · exact ((s.run_streams [] ⟨0⟩).2.2.2 "b").1

end Shelf

end MessageRouter
