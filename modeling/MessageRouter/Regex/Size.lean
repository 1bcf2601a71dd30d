import MessageRouter.Regex.Compact
import MessageRouter.Regex.Utf8

/-!
# Size of expressions

An expression must not be larger than the automata that search for its matches may be, one that
reads a text forwards and one that reads it backwards.  An automaton reads bytes; it takes memory
for each of its states and for the links from a state to several others.  Repetition counts are
written out.
-/

namespace MessageRouter.Compact

/-! ## Memory -/

/-- The memory that every state takes. -/
def stateSize : Nat := 32

/-- The memory for one of several states that a state leads to without a byte. -/
def branchSize : Nat := 4

/-- The memory for one of several ranges of bytes that lead on from a state. -/
def rangeSize : Nat := 8

/-- A state that leads to either of two others. -/
def forkSize : Nat := stateSize + 2 * branchSize

/-- The direction in which an automaton reads a text. -/
inductive Direction where
  | forwards
  | backwards
  deriving DecidableEq, Repr

/-! ## Sets -/

/-- The ways on from a state that reads the sequences, without those that are alike. -/
def rests (seqs : List Utf8.ByteSequence) : List (Utf8.ByteRange × List Utf8.ByteSequence) :=
  (seqs.filterMap fun | r :: rest => some (r, rest) | [] => none).splitBy (·.1 == ·.1)
    |>.filterMap fun group => group.head?.map fun (r, _) => (r, group.map (·.2))

/-- All that is to be read from some state on when the sequences are read, up to `fuel` bytes. -/
def remainders : Nat → List Utf8.ByteSequence → List (List Utf8.ByteSequence)
  | 0, _ => []
  | fuel + 1, seqs =>
    seqs :: (rests seqs).flatMap fun (_, rest) =>
      if rest = [[]] then [] else remainders fuel rest

/-- Forwards one state reads all that begins alike, and states with the same ways on are one. -/
def forwardSetSize (seqs : List Utf8.ByteSequence) : Nat :=
  (remainders 4 seqs).eraseDups.foldl
    (fun size seqs => size + stateSize + (rests seqs).length * rangeSize) stateSize

/-- The length of the common beginning of two sequences. -/
def commonLength : Utf8.ByteSequence → Utf8.ByteSequence → Nat
  | r :: rs, t :: ts => if r = t then commonLength rs ts + 1 else 0
  | _, _ => 0

/-- How many states read the sequences after the one before them; what begins alike is shared. -/
def countStates (before : Utf8.ByteSequence) : List Utf8.ByteSequence → Nat
  | [] => 0
  | seq :: rest => (seq.length - commonLength before seq) + countStates seq rest

/-- Backwards every sequence is a branch, and those with the same beginning end as one. -/
def backwardSetSize (seqs : List Utf8.ByteSequence) : Nat :=
  2 * stateSize + seqs.length * branchSize + countStates [] seqs * stateSize

/-- The memory for a set; one of ASCII reads its byte in one state. -/
def setSize (d : Direction) (s : CharSet) : Nat :=
  if s.isAscii then 2 * stateSize + s.ranges.length * rangeSize
  else
    match d with
    | .forwards => forwardSetSize (Utf8.ofSet s)
    | .backwards => backwardSetSize (Utf8.ofSet s)

/-! ## Literals -/

/-- A choice between strings as a tree; where one of them ends, the branches so far are closed, and
only what they take is remembered. -/
inductive Trie where
  | node (closed closedSize : Nat) (branches : List (Nat × Trie))

namespace Trie

def leaf : Trie := .node 0 0 []

/-- No string goes on here. -/
def isLeaf : Trie → Bool
  | .node _ closedSize branches => closedSize == 0 && branches.isEmpty

mutual

/-- The memory for a tree, each node of which leads to its groups of branches and to the end. -/
def size : Trie → Nat
  | .node closed closedSize branches =>
    stateSize + closedSize + closed * branchSize + groupSize branches

/-- The memory for a group of branches. -/
def groupSize : List (Nat × Trie) → Nat
  | [] => 0
  | [(_, t)] => stateSize + branchSize + (if t.isLeaf then 0 else size t)
  | (b, t) :: u :: rest =>
    stateSize + branchSize + (rest.length + 2) * rangeSize + branchesSize ((b, t) :: u :: rest)

/-- The memory for what follows the branches. -/
def branchesSize : List (Nat × Trie) → Nat
  | [] => 0
  | (_, t) :: rest => (if t.isLeaf then 0 else size t) + branchesSize rest

end

/-- A string ends here. -/
def close : Trie → Trie
  | .node closed closedSize branches =>
    if closedSize = 0 ∧ branches.isEmpty ∧ closed ≠ 0 then .node closed closedSize branches
    else .node (closed + 1) (closedSize + groupSize branches) []

/-- Adds a string to the open branches. -/
def insert : List Nat → Trie → Trie
  | [], t => t.close
  | b :: bs, .node closed closedSize branches =>
    match branches.lookup b with
    | some t =>
      .node closed closedSize ((b, insert bs t) :: branches.filter (·.1 != b))
    | none => .node closed closedSize ((b, insert bs leaf) :: branches)

end Trie

/-- The bytes of a literal in the order in which they are read. -/
def bytesOf (d : Direction) (codes : List Nat) : List Nat :=
  let bytes := codes.flatMap Utf8.encode
  match d with
  | .forwards => bytes
  | .backwards => bytes.reverse

/-- The code points of the literal that the expression is, if it is one. -/
def literal? : Compact → Option (List Nat)
  | .literal codes => some codes
  | _ => none

/-- The memory for a choice between literals. -/
def literalsSize (d : Direction) (literals : List (List Nat)) : Nat :=
  stateSize + (literals.foldl (fun t codes => t.insert (bytesOf d codes)) Trie.leaf).size

/-! ## Expressions -/

/-- The memory for repetition of what takes `size`. -/
def repeatedSize (size : Nat) (canBeEmpty : Bool) (low : Nat) : Option Nat → Nat
  | none =>
    if low = 0 then
      if canBeEmpty then 2 * forkSize + stateSize + size else forkSize + size
    else low * size + forkSize
  | some high =>
    if low = 0 ∧ high = 1 then forkSize + stateSize + size
    else if low = high then low * size
    else
      (if low = 0 then stateSize else low * size) + stateSize + (high - low) * (forkSize + size)

mutual

/-- The memory for the part of an automaton that an expression is compiled to; groups are told
apart only forwards. -/
def size (d : Direction) : Compact → Nat
  | .empty | .anchor _ => stateSize
  | .literal codes => (codes.map byteCount).sum * stateSize
  | .set s => setSize d s
  | .capture r => size d r + (if d = .forwards then 2 * stateSize else 0)
  | .repeated _ low high r =>
    repeatedSize (size d r) ((minLength? r).all fun n => n == 0) low high
  | .sequence rs => sizeAll d rs
  | .choice rs =>
    match rs.mapM literal? with
    | some literals => literalsSize d literals
    | none => 2 * stateSize + rs.length * branchSize + sizeAll d rs

def sizeAll (d : Direction) : List Compact → Nat
  | [] => 0
  | r :: rest => size d r + sizeAll d rest

end

mutual

/-- Every match begins at a place where the anchor holds, or where it ends with `atEnd`. -/
def isAnchored (a : Anchor) (atEnd : Bool) : Compact → Bool
  | .anchor b => a == b
  | .capture r => isAnchored a atEnd r
  | .repeated _ low _ r => low != 0 && isAnchored a atEnd r
  | .sequence rs => if atEnd then (isAnchoredLast a rs).1 else isAnchoredFirst a rs
  | .choice rs => isAnchoredAll a atEnd rs
  | .empty | .literal _ | .set _ => false

def isAnchoredFirst (a : Anchor) : List Compact → Bool
  | [] => false
  | r :: rest => isAnchored a false r || (maxLength? r == some 0 && isAnchoredFirst a rest)

/-- The same for the end, with whether all the expressions are without length. -/
def isAnchoredLast (a : Anchor) : List Compact → Bool × Bool
  | [] => (false, true)
  | r :: rest =>
    let (isAnchoredRest, isShort) := isAnchoredLast a rest
    (isAnchoredRest || (isShort && isAnchored a true r), isShort && maxLength? r == some 0)

def isAnchoredAll (a : Anchor) (atEnd : Bool) : List Compact → Bool
  | [] => true
  | r :: rest => isAnchored a atEnd r && isAnchoredAll a atEnd rest

end

/-- The memory for the search for a match, which may start anywhere unless an anchor tells where. -/
def searchSize (isAnchored : Bool) : Nat :=
  if isAnchored then stateSize else forkSize + 2 * stateSize + rangeSize

/-- The memory for the automaton of an expression, which also keeps the place of the match
forwards. -/
def automatonSize (d : Direction) (r : Compact) : Nat :=
  match d with
  | .forwards =>
    searchSize (r.isAnchored .textStart false) + r.size d + 3 * stateSize
  | .backwards => searchSize (r.isAnchored .textEnd true) + r.size d + stateSize

/-- The most memory that an automaton may take. -/
def maxSize : Nat := 10 * 1024 * 1024

/-- Both automata of an expression are within the limit. -/
def fits (r : Compact) : Bool :=
  r.automatonSize .forwards ≤ maxSize && r.automatonSize .backwards ≤ maxSize

end MessageRouter.Compact
