import MessageRouter.Table
import MessageRouter.Text.Bytes

/-!
# Streams

A stream yields its bytes once: whoever opens it takes them.  Buffering it first keeps the bytes
for everyone who shares it.  All streams live in one store, where contents refer to them.
-/

namespace MessageRouter

open Text (Bytes)

/-- A stream in the store. -/
structure StreamId where
  index : Nat
  deriving DecidableEq, Inhabited

/-- A source of bytes; it ends in a failure if it is broken. -/
structure Source where
  bytes : Bytes
  broken : Bool
  deriving DecidableEq

/-- Nobody has read the stream, or all of it is kept, or its bytes are gone. -/
inductive StreamState where
  | pending (source : Source)
  | buffered (bytes : Bytes)
  | consumed
  deriving DecidableEq

/-- A stream that was never there has no bytes. -/
instance : Inhabited StreamState := ⟨.consumed⟩

/-- Why a stream cannot be read. -/
inductive StreamError where
  | consumed
  | broken
  deriving DecidableEq

namespace StreamError

def kind : StreamError → String
  | .consumed => "UnexpectedEof"
  | .broken => "Other"

def message : StreamError → String
  | .consumed => "stream already consumed"
  | .broken => "read failed"

instance : ToString StreamError := ⟨message⟩

end StreamError

/-- Reads a source to its end. -/
def Source.read (s : Source) : Except StreamError Bytes :=
  if s.broken then .error .broken else .ok s.bytes

namespace StreamState

/-- The kept bytes; a stream that nobody has read is read and kept now. -/
def buffer : StreamState → Except StreamError Bytes × StreamState
  | .pending source =>
    match source.read with
    | .ok bytes => (.ok bytes, .buffered bytes)
    | .error e => (.error e, .consumed)
  | .buffered bytes => (.ok bytes, .buffered bytes)
  | .consumed => (.error .consumed, .consumed)

/-- A source of the bytes; without a buffer there is only one. -/
def take : StreamState → Except StreamError Source × StreamState
  | .pending source => (.ok source, .consumed)
  | .buffered bytes => (.ok ⟨bytes, false⟩, .buffered bytes)
  | .consumed => (.error .consumed, .consumed)

def buffered? : StreamState → Option Bytes
  | .buffered bytes => some bytes
  | _ => none

/-- The state for diagnostic output. -/
def text : StreamState → String
  | .pending _ => "pending"
  | .buffered bytes => "buffered(" ++ toString bytes.length ++ " bytes)"
  | .consumed => "consumed"

end StreamState

/-! ## The store -/

/-- All streams by age. -/
structure Streams where
  states : Table StreamState := {}
  deriving DecidableEq, Inhabited

namespace Streams

def state (s : Streams) (id : StreamId) : StreamState := s.states.get id.index

def set (s : Streams) (id : StreamId) (state : StreamState) : Streams :=
  ⟨s.states.set id.index state⟩

/-- Adds a stream that nobody has read. -/
def add (s : Streams) (source : Source) : StreamId × Streams :=
  let (n, states) := s.states.add (.pending source)
  (⟨n⟩, ⟨states⟩)

/-- Keeps the bytes of a stream. -/
def buffer (s : Streams) (id : StreamId) : Except StreamError Bytes × Streams :=
  let (r, state) := (s.state id).buffer
  (r, s.set id state)

/-- Opens a stream and reads it to its end. -/
def read (s : Streams) (id : StreamId) : Except StreamError Bytes × Streams :=
  let (r, state) := (s.state id).take
  (r.bind Source.read, s.set id state)

def buffered? (s : Streams) (id : StreamId) : Option Bytes := (s.state id).buffered?

end Streams

end MessageRouter
