import MessageRouter.Proofs.Streams

/-!
# Copies

A copy is a clone whose streams have all been buffered first, in the order of the contents and up
to the first whose bytes cannot be had.  From then on nothing can change what it reads, as a
buffered stream stays what it is; a copy that fails leaves every message as it was.
-/

namespace MessageRouter

open Text (Bytes)

/-! ## Bytes that can be had -/

/-- What buffering the stream keeps. -/
def StreamState.bytes? : StreamState → Option Bytes
  | .buffered bytes => some bytes
  | .pending source => if source.broken then none else some source.bytes
  | .consumed => none

namespace StreamState

theorem bytes?_isSome_iff {x : StreamState} :
    x.bytes?.isSome ↔
      (∃ b, x = .buffered b) ∨ ∃ source, x = .pending source ∧ source.broken = false := by
  cases x with
  | pending source => cases h : source.broken <;> simp [bytes?, h]
  | buffered bytes => simp [bytes?]
  | consumed => simp [bytes?]

theorem buffer_of_some {x : StreamState} {b : Bytes} (h : x.bytes? = some b) :
    x.buffer = (.ok b, .buffered b) := by
  cases x with
  | pending source => cases hb : source.broken <;> simp_all [bytes?, buffer, Source.read]
  | buffered bytes => simpa [bytes?, buffer] using h
  | consumed => simp [bytes?] at h

theorem buffer_of_none {x : StreamState} (h : x.bytes? = none) :
    ∃ e, x.buffer = (.error e, .consumed) := by
  cases x with
  | pending source => cases hb : source.broken <;> simp_all [bytes?, buffer, Source.read]
  | buffered bytes => simp [bytes?] at h
  | consumed => exact ⟨.consumed, rfl⟩

@[simp] theorem bytes?_buffer (x : StreamState) : x.buffer.2.bytes? = x.bytes? := by
  cases h : x.bytes? with
  | some b => rw [buffer_of_some h]; rfl
  | none =>
    obtain ⟨e, he⟩ := buffer_of_none h
    rw [he]; rfl

end StreamState

/-! ## Buffering a list of contents -/

namespace Content

/-- The content is a stream whose bytes cannot be had. -/
def isLost (streams : Streams) : Content → Bool
  | .stream id => (streams.state id).bytes?.isNone
  | _ => false

/-! ### What a content says depends on its own stream only -/

section Own

variable {c : Content} {s t : Streams}

theorem ensureReadable_congr (h : ∀ id, c = .stream id → t.state id = s.state id) :
    (c.ensureReadable t).1 = (c.ensureReadable s).1 := by
  cases c with
  | stream id => simp [ensureReadable, Streams.buffer, h id rfl]
  | _ => rfl

theorem display_congr (h : ∀ id, c = .stream id → t.state id = s.state id) (full : Bool) :
    (c.display full t).1 = (c.display full s).1 := by
  cases c with
  | stream id =>
    have hid := h id rfl
    cases full with
    | false =>
      have hkept : t.buffered? id = s.buffered? id := by simp only [Streams.buffered?, hid]
      simp only [display, Bool.false_eq_true, if_false]
      rw [summary, summary, hkept]
    | true =>
      cases hb : (s.state id).buffer.1 <;>
        simp [display, shown, Streams.buffer, hid, hb]
  | _ => cases full <;> rfl

theorem toText?_congr (h : ∀ id, c = .stream id → t.state id = s.state id) :
    c.toText? t = c.toText? s := by
  cases c with
  | stream id => simp [toText?, Streams.buffered?, h id rfl]
  | _ => rfl

theorem isReadable_congr (h : ∀ id, c = .stream id → t.state id = s.state id) :
    c.isReadable t = c.isReadable s := by
  cases c with
  | stream id => simp [isReadable, Streams.buffered?, h id rfl]
  | _ => rfl

end Own

/-! ### Buffering one content -/

theorem ensureReadable_of_kept {c : Content} {streams : Streams} (h : c.isLost streams = false) :
    (c.ensureReadable streams).1 = .ok () := by
  cases c with
  | stream id =>
    obtain ⟨b, hb⟩ := Option.isSome_iff_exists.1 (Option.isNone_eq_false_iff.1 h)
    simp [ensureReadable, Streams.buffer, StreamState.buffer_of_some hb, Except.map]
  | _ => rfl

theorem ensureReadable_of_lost {id : StreamId} {streams : Streams}
    (h : (streams.state id).bytes? = none) :
    ∃ e, (Content.stream id).ensureReadable streams =
      (.error e, streams.set id .consumed) := by
  obtain ⟨e, he⟩ := StreamState.buffer_of_none h
  exact ⟨e, by simp [ensureReadable, Streams.buffer, he, Except.map]⟩

theorem state_ensureReadable (c : Content) (streams : Streams) (other : StreamId) :
    (c.ensureReadable streams).2.state other =
      if c.stream? = some other then (streams.state other).buffer.2 else streams.state other := by
  cases c with
  | stream id =>
    simp only [ensureReadable, stream?, Option.some.injEq, Streams.state_buffer]
    split
    · rename_i heq
      rw [heq]
    · rfl
  | _ => simp [ensureReadable, stream?]

theorem isLost_ensureReadable (c d : Content) (streams : Streams) :
    d.isLost (c.ensureReadable streams).2 = d.isLost streams := by
  cases d with
  | stream id =>
    simp only [isLost, state_ensureReadable]
    split <;> simp
  | _ => rfl

end Content

namespace Message

/-- The streams of some contents, in their order. -/
def streamsOf (cs : List Content) : List StreamId := cs.filterMap Content.stream?

def streams (m : Message) : List StreamId := streamsOf m.contents

theorem mem_streamsOf {cs : List Content} {id : StreamId} :
    id ∈ streamsOf cs ↔ .stream id ∈ cs := by
  simp only [streamsOf, List.mem_filterMap]
  constructor
  · rintro ⟨c, hc, hid⟩
    cases c <;> simp_all [Content.stream?]
  · exact fun h => ⟨_, h, rfl⟩

theorem ensureAll_cons {c : Content} {cs : List Content} {streams : Streams}
    (h : c.isLost streams = false) :
    ensureAll (c :: cs) streams = ensureAll cs (c.ensureReadable streams).2 := by
  have hok := Content.ensureReadable_of_kept h
  rw [ensureAll]
  split <;> simp_all

/-- Contents whose bytes can be had are all buffered, and no other stream changes. -/
theorem ensureAll_of_kept {cs : List Content} {streams : Streams}
    (h : ∀ c ∈ cs, c.isLost streams = false) :
    (ensureAll cs streams).1 = .ok () ∧ ∀ id, (ensureAll cs streams).2.state id =
      if id ∈ streamsOf cs then (streams.state id).buffer.2 else streams.state id := by
  induction cs generalizing streams with
  | nil => exact ⟨rfl, fun id => by simp [streamsOf, ensureAll]⟩
  | cons c cs ih =>
    obtain ⟨hc, hcs⟩ := List.forall_mem_cons.1 h
    obtain ⟨hok, hstate⟩ := ih fun d hd => (c.isLost_ensureReadable d streams).trans (hcs d hd)
    rw [ensureAll_cons hc]
    refine ⟨hok, fun id => ?_⟩
    rw [hstate, Content.state_ensureReadable]
    have hmem : id ∈ streamsOf (c :: cs) ↔ c.stream? = some id ∨ id ∈ streamsOf cs := by
      cases hs : c.stream? <;> simp [streamsOf, hs, eq_comm]
    by_cases hid : c.stream? = some id <;> by_cases hrest : id ∈ streamsOf cs <;>
      simp [hmem, hid, hrest]

/-- What comes after contents whose bytes can be had is buffered after them. -/
theorem ensureAll_append {earlier rest : List Content} {streams : Streams}
    (h : ∀ c ∈ earlier, c.isLost streams = false) :
    ensureAll (earlier ++ rest) streams = ensureAll rest (ensureAll earlier streams).2 := by
  induction earlier generalizing streams with
  | nil => rfl
  | cons c cs ih =>
    obtain ⟨hc, hcs⟩ := List.forall_mem_cons.1 h
    rw [List.cons_append, ensureAll_cons hc, ensureAll_cons hc]
    exact ih fun d hd => (c.isLost_ensureReadable d streams).trans (hcs d hd)

/-- Where buffering stops: everything before the lost stream is kept, which is consumed, and no
other stream changes. -/
theorem ensureAll_of_lost {earlier : List Content} {bad : StreamId} {streams : Streams}
    (later : List Content) (h : ∀ c ∈ earlier, c.isLost streams = false)
    (hbad : (streams.state bad).bytes? = none) :
    ∃ e, ensureAll (earlier ++ .stream bad :: later) streams =
      (.error e, (ensureAll earlier streams).2.set bad .consumed) := by
  rw [ensureAll_append h]
  have hbad' : ((ensureAll earlier streams).2.state bad).bytes? = none := by
    rw [(ensureAll_of_kept h).2]
    split <;> simpa using hbad
  obtain ⟨e, he⟩ := Content.ensureReadable_of_lost hbad'
  exact ⟨e, by rw [ensureAll, he]⟩

/-- Either the bytes of all contents can be had, or there is a first stream that is lost. -/
theorem kept_or_lost (cs : List Content) (streams : Streams) :
    (∀ c ∈ cs, c.isLost streams = false) ∨
    ∃ earlier bad later, cs = earlier ++ .stream bad :: later ∧
      (∀ c ∈ earlier, c.isLost streams = false) ∧ (streams.state bad).bytes? = none := by
  cases h : cs.find? (·.isLost streams) with
  | none => exact .inl fun c hc => by simpa using List.find?_eq_none.1 h c hc
  | some c =>
    obtain ⟨hc, earlier, later, heq, hearlier⟩ := List.find?_eq_some_iff_append.1 h
    cases c with
    | stream bad =>
      exact .inr ⟨earlier, bad, later, heq, fun d hd => by simpa using hearlier d hd,
        by simpa [Content.isLost] using hc⟩
    | _ => simp [Content.isLost] at hc

theorem kept_iff {cs : List Content} {streams : Streams} :
    (∀ c ∈ cs, c.isLost streams = false) ↔
      ∀ id ∈ streamsOf cs, (streams.state id).bytes?.isSome := by
  constructor
  · intro h id hid
    simpa [Content.isLost] using h _ (mem_streamsOf.1 hid)
  · intro h c hc
    cases c with
    | stream id => simpa [Content.isLost] using h id (mem_streamsOf.2 hc)
    | _ => rfl

/-- Whether all contents can be buffered depends on their own streams only. -/
theorem ensureAll_congr {cs : List Content} {s t : Streams}
    (h : ∀ id ∈ streamsOf cs, t.state id = s.state id) :
    (ensureAll cs t).1 = (ensureAll cs s).1 := by
  induction cs generalizing s t with
  | nil => rfl
  | cons c cs ih =>
    have hhead : (c.ensureReadable t).1 = (c.ensureReadable s).1 :=
      Content.ensureReadable_congr fun id hid => h id (mem_streamsOf.2 (hid ▸ List.mem_cons_self))
    have hrest := ih (s := (c.ensureReadable s).2) (t := (c.ensureReadable t).2)
      fun id hid => by
        have hid' := h id (mem_streamsOf.2 (List.mem_cons_of_mem _ (mem_streamsOf.1 hid)))
        rw [Content.state_ensureReadable, Content.state_ensureReadable, hid']
    simp only [ensureAll]
    split <;> split <;> simp_all

end Message

namespace Shelf

/-! ## Who can change what a message reads -/

/-- The messages that a step may replace. -/
def Step.changes : Step → List String
  | .make name _ | .clone name _ | .copy name _ | .copyFrom name _ | .setBody name _
  | .takeBody name | .attach name _ _ | .detach name _ | .describe name _
  | .removeHeader name _ => [name]
  | .moveBody name source => [name, source]
  | .ensure _ | .display _ _ | .read _ _ | .buffer _ _ | .look _ _ => []

/-- The step asks one message what it holds. -/
def Step.Consults (name : String) : Step → Prop
  | .ensure n | .display n _ | .read n _ | .buffer n _ => n = name
  | .look n (.content _) | .look n (.text _) | .look n (.readable _) | .look n (.header _) =>
    n = name
  | _ => False

theorem get_act {s : Shelf} {step : Step} {name : String} (h : name ∉ step.changes) :
    (s.act step).2.get name = s.get name := by
  cases step with
  | copy n source =>
    have hne : name ≠ n := by simpa [Step.changes] using h
    simp only [act]
    split <;> simp [get_put_ne, hne]
  | read n part | buffer n part =>
    simp only [act]
    split <;> rfl
  | ensure | display | look => rfl
  | moveBody n source =>
    have hne : name ≠ n ∧ name ≠ source := by simpa [Step.changes] using h
    simp [act, get_put_ne, hne.1, hne.2]
  | make n | clone n | copyFrom n | setBody n | takeBody n | attach n | detach n | describe n
  | removeHeader n =>
    have hne : name ≠ n := by simpa [Step.changes] using h
    simp [act, get_put_ne, hne]

theorem get_run {s : Shelf} {steps : List Step} {name : String}
    (h : ∀ step ∈ steps, name ∉ step.changes) : (s.run steps).get name = s.get name := by
  induction steps generalizing s with
  | nil => rfl
  | cons step steps ih =>
    obtain ⟨hstep, hsteps⟩ := List.forall_mem_cons.1 h
    exact (ih hsteps).trans (get_act hstep)

theorem mem_streams_of_stream? {s : Shelf} {name : String} {part : Part} {id : StreamId}
    (h : s.stream? name part = some id) : id ∈ (s.get name).streams := by
  refine Message.mem_streamsOf.2 ?_
  have hc := content?_of_stream? h
  cases part with
  | body => simp_all [content?, Message.content?, Message.contents]
  | attachment a =>
    have hmem := Dict.get?_eq_some_iff.1 hc
    exact List.mem_cons_of_mem _ (List.mem_map.2 ⟨_, hmem, rfl⟩)

/-- What a message says depends only on itself and the states of its streams. -/
theorem act_of_consults {s t : Shelf} {step : Step} {name : String}
    (hget : t.get name = s.get name)
    (hstate : ∀ id ∈ (s.get name).streams, t.streams.state id = s.streams.state id)
    (h : step.Consults name) : (t.act step).1 = (s.act step).1 := by
  have hcontent (part : Part) : t.content? name part = s.content? name part := by
    simp only [content?, hget]
  have hstream (part : Part) : t.stream? name part = s.stream? name part := by
    simp only [stream?, hcontent]
  have hpart (part : Part) {c : Content} (hc : s.content? name part = some c) (id : StreamId)
      (hid : c = .stream id) : t.streams.state id = s.streams.state id := by
    have hs : s.stream? name part = some id := by simp [stream?, hc, hid, Content.stream?]
    exact hstate id (mem_streams_of_stream? hs)
  cases step with
  | ensure n =>
    obtain rfl : n = name := h
    simp only [act, hget, Message.ensureReadable, Message.ensureAll_congr hstate]
  | display n full =>
    obtain rfl : n = name := h
    have hbody := Content.display_congr (hpart .body rfl) full
    simp only [act, Message.display, hget, hbody]
  | read n part =>
    obtain rfl : n = name := h
    cases hs : s.stream? n part with
    | none => simp only [act, hstream, hs]
    | some id =>
      rw [act_read hs, act_read ((hstream part).trans hs)]
      simp only [Streams.read, hpart part (content?_of_stream? hs) id rfl]
  | buffer n part =>
    obtain rfl : n = name := h
    cases hs : s.stream? n part with
    | none => simp only [act, hstream, hs]
    | some id =>
      rw [act_buffer hs, act_buffer ((hstream part).trans hs)]
      simp only [Streams.buffer, hpart part (content?_of_stream? hs) id rfl]
  | look n l =>
    cases l with
    | content part =>
      obtain rfl : n = name := h
      simp only [act, glance, hcontent]
    | text part =>
      obtain rfl : n = name := h
      simp only [act, glance, hcontent]
      cases hc : s.content? n part with
      | none => rfl
      | some c => simp only [Option.bind_some, Content.toText?_congr (hpart part hc)]
    | readable part =>
      obtain rfl : n = name := h
      simp only [act, glance, hcontent]
      cases hc : s.content? n part with
      | none => rfl
      | some c => simp only [Option.all_some, Content.isReadable_congr (hpart part hc)]
    | header header =>
      obtain rfl : n = name := h
      simp only [act, glance, hget]
    | equals | bodyEquals => exact h.elim
  | _ => exact h.elim

/-! ## The law of copies -/

/-- After copying a message `m` under `name`: the copy holds the contents of `m`, all of them can be
read again and again with the bytes that could be had before, and what the copy says stays the
same whatever is done, as long as the copy itself is not replaced. -/
structure Copied (s t : Shelf) (name : String) (m : Message) : Prop where
  get : t.get name = m
  readable : ∀ part, (t.act (.look name (.readable part))).1 = .flag true
  shows : ∀ id ∈ m.streams, ∃ b, (s.streams.state id).bytes? = some b ∧ t.Shows id b
  apart : ∀ steps : List Step, (∀ step ∈ steps, name ∉ step.changes) →
    ∀ step, step.Consults name → ((t.run steps).act step).1 = (t.act step).1

/-- After copying a message failed at a stream: those before it, in the order of the contents, are
buffered, it is consumed, all others are unchanged, and so is every message. -/
structure Stopped (s t : Shelf) (earlier : List Content) (bad : StreamId) : Prop where
  kept : ∀ id, .stream id ∈ earlier →
    ∃ b, (s.streams.state id).bytes? = some b ∧ t.streams.state id = .buffered b
  lost : (s.streams.state bad).bytes? = none ∧ t.streams.state bad = .consumed
  same : ∀ id, .stream id ∉ earlier → id ≠ bad → t.streams.state id = s.streams.state id
  get : ∀ name, t.get name = s.get name

/-- What copying does to the streams, and what it answers. -/
theorem copy_cases (s : Shelf) (source : String) :
    let m := s.get source
    ((∀ c ∈ m.contents, c.isLost s.streams = false) ∧
      ∃ streams, m.copy s.streams = (.ok m, streams) ∧ ∀ id, streams.state id =
        if id ∈ m.streams then (s.streams.state id).buffer.2 else s.streams.state id) ∨
    ∃ earlier bad later e streams, m.contents = earlier ++ .stream bad :: later ∧
      m.copy s.streams = (.error e, streams) ∧
      Stopped s { s with streams } earlier bad := by
  intro m
  rcases Message.kept_or_lost m.contents s.streams with
    hkept | ⟨earlier, bad, later, heq, hkept, hbad⟩
  · obtain ⟨hok, hstate⟩ := Message.ensureAll_of_kept hkept
    refine .inl ⟨hkept, (Message.ensureAll m.contents s.streams).2, ?_, hstate⟩
    simp [Message.copy, Message.ensureReadable, hok, Except.map]
  · obtain ⟨e, he⟩ := Message.ensureAll_of_lost later hkept hbad
    have hstate := (Message.ensureAll_of_kept hkept).2
    refine .inr ⟨earlier, bad, later, e, (Message.ensureAll earlier s.streams).2.set bad .consumed,
      heq, ?_, ?_⟩
    · simp [Message.copy, Message.ensureReadable, heq, he, Except.map]
    · have hne {id : StreamId} (hid : .stream id ∈ earlier) : bad ≠ id := by
        rintro rfl
        have := hkept _ hid
        simp [Content.isLost, hbad] at this
      refine ⟨fun id hid => ?_, ⟨hbad, by simp [Streams.state_set]⟩, fun id hid hid' => ?_,
        fun name => rfl⟩
      · obtain ⟨b, hb⟩ := Option.isSome_iff_exists.1
          (Message.kept_iff.1 hkept id (Message.mem_streamsOf.2 hid))
        refine ⟨b, hb, ?_⟩
        rw [Streams.state_set, if_neg (hne hid), hstate, if_pos (Message.mem_streamsOf.2 hid),
          StreamState.buffer_of_some hb]
      · have hnot : id ∉ Message.streamsOf earlier := fun h => hid (Message.mem_streamsOf.1 h)
        rw [Streams.state_set, if_neg (Ne.symm hid'), hstate, if_neg hnot]

/-- A message all of whose streams are buffered under `name` is a copy that nothing disturbs. -/
theorem copied_of_buffered {s t : Shelf} {name : String} {m : Message} (hget : t.get name = m)
    (h : ∀ id ∈ m.streams, (s.streams.state id).bytes?.isSome ∧
      t.streams.state id = (s.streams.state id).buffer.2) : Copied s t name m := by
  have hkept (id : StreamId) (hid : id ∈ m.streams) :
      ∃ b, (s.streams.state id).bytes? = some b ∧ t.streams.state id = .buffered b := by
    obtain ⟨b, hb⟩ := Option.isSome_iff_exists.1 (h id hid).1
    exact ⟨b, hb, by rw [(h id hid).2, StreamState.buffer_of_some hb]⟩
  refine ⟨hget, fun part => ?_, fun id hid => ?_, fun steps hsteps step hstep => ?_⟩
  · simp only [act, glance]
    cases hc : t.content? name part with
    | none => rfl
    | some c =>
      cases c with
      | stream id =>
        have hs : t.stream? name part = some id := by simp [stream?, hc, Content.stream?]
        obtain ⟨b, -, hb⟩ := hkept id (hget ▸ mem_streams_of_stream? hs)
        simp [Content.isReadable, Streams.buffered?, hb, StreamState.buffered?]
      | _ => rfl
  · obtain ⟨b, hb, hstate⟩ := hkept id hid
    exact ⟨b, hb, shows_of_buffered hstate⟩
  · refine act_of_consults (get_run hsteps) (fun id hid => ?_) hstep
    obtain ⟨b, -, hb⟩ := hkept id (hget ▸ hid)
    rw [run_buffered hb steps, hb]

/-- A message can be copied iff every stream in its body and its attachments is buffered or waits
with a source that reads to its end.  The copy then reads what the message held, whatever else is
done.  If it cannot, copying stops at the first stream that is lost, and a message that was to be
replaced by the copy stays as it was. -/
theorem copy_law (s : Shelf) (name source : String) :
    let m := s.get source
    let copied := s.act (.copy name source)
    let replaced := s.act (.copyFrom name source)
    (copied.1 = .result (.ok ()) ↔ ∀ id ∈ m.streams, (∃ b, s.streams.state id = .buffered b) ∨
      ∃ src, s.streams.state id = .pending src ∧ src.broken = false) ∧
    replaced.1 = copied.1 ∧
    (copied.1 = .result (.ok ()) → Copied s copied.2 name m ∧ Copied s replaced.2 name m) ∧
    (copied.1 ≠ .result (.ok ()) → ∃ earlier bad later,
      m.body :: m.attachments.values = earlier ++ .stream bad :: later ∧
      Stopped s copied.2 earlier bad ∧ Stopped s replaced.2 earlier bad) := by
  intro m copied replaced
  simp only [← StreamState.bytes?_isSome_iff]
  rcases s.copy_cases source with ⟨hkept, streams, hcopy, hstate⟩ |
    ⟨earlier, bad, later, e, streams, heq, hcopy, hstopped⟩
  · have hcopied : copied = (.result (.ok ()), { s with streams }.put name m) := by
      simp only [copied, act, hcopy, m]
    have hreplaced : replaced = (.result (.ok ()), { s with streams }.put name m) := by
      simp only [replaced, act, Message.copyFrom, hcopy, m]
    have hsome := Message.kept_iff.1 hkept
    have hcopy : Copied s ({ s with streams }.put name m) name m :=
      copied_of_buffered (get_put_self _ _ _) fun id hid =>
        ⟨hsome id hid, (hstate id).trans (if_pos hid)⟩
    rw [hcopied, hreplaced]
    exact ⟨⟨fun _ => hsome, fun _ => rfl⟩, rfl, fun _ => ⟨hcopy, hcopy⟩,
      fun h => absurd rfl h⟩
  · have hcopied : copied = (.result (.error e), { s with streams }) := by
      simp only [copied, act, hcopy]
    have hreplaced : replaced = (.result (.error e), { s with streams }.put name (s.get name)) := by
      simp only [replaced, act, Message.copyFrom, hcopy]
    have hbad : bad ∈ m.streams := Message.mem_streamsOf.2 (by rw [heq]; simp)
    rw [hcopied, hreplaced]
    refine ⟨⟨fun h => by simp at h, fun h => ?_⟩, rfl, fun h => by simp at h,
      fun _ => ⟨earlier, bad, later, heq, hstopped, ?_⟩⟩
    · have := h bad hbad
      rw [hstopped.lost.1] at this
      simp at this
    · refine ⟨hstopped.kept, hstopped.lost, hstopped.same, fun other => ?_⟩
      by_cases hname : other = name
      · rw [hname, get_put_self]
      · rw [get_put_ne _ _ hname]
        rfl

/-- Copying over `t` stops at the broken attachment `x`, behind a body that is kept and before an
attachment that nobody has read; without that attachment it succeeds. -/
theorem copy_law_midway :
    let s := run {} [.make "a" { body := .stream ⟨[1], false⟩, attachments :=
      [("y", .stream ⟨[3], false⟩), ("x", .stream ⟨[2], true⟩)] }, .make "t" {}]
    let whole := s.run [.detach "a" "x"]
    (∃ earlier bad later,
      (s.get "a").body :: (s.get "a").attachments.values = earlier ++ .stream bad :: later ∧
      Stopped s (s.act (.copy "t" "a")).2 earlier bad ∧
      Stopped s (s.act (.copyFrom "t" "a")).2 earlier bad) ∧
    Copied whole (whole.act (.copyFrom "t" "a")).2 "t" (whole.get "a") := by
  intro s whole
  have hstops : (s.act (.copy "t" "a")).1 = .result (.error .broken) := by rfl
  have hcopies : (whole.act (.copy "t" "a")).1 = .result (.ok ()) := by rfl
  refine ⟨(s.copy_law "t" "a").2.2.2 ?_, ((whole.copy_law "t" "a").2.2.1 hcopies).2⟩
  rw [hstops]
  simp

end Shelf

end MessageRouter
