import MessageRouter.CharSet

/-!
# Regular expressions

A regular expression describes texts; its anchors describe the places where a text may be cut.  It
keeps the shape in which it is written, while its sets of characters are already worked out.
-/

namespace MessageRouter

/-- A condition on a place between two characters; with `ascii` only ASCII has word characters. -/
inductive Anchor where
  | textStart
  | textEnd
  | lineStart
  | lineEnd
  | lineStartWithReturn
  | lineEndWithReturn
  | wordBoundary (ascii : Bool)
  | noWordBoundary (ascii : Bool)
  | wordStart (ascii : Bool)
  | wordEnd (ascii : Bool)
  | noWordBefore (ascii : Bool)
  | noWordAfter (ascii : Bool)
  deriving DecidableEq, Repr

/-- A regular expression; a set comes with the depth to which its brackets are nested. -/
inductive Regex where
  | empty
  | anchor (a : Anchor)
  | set (nesting : Nat) (s : CharSet)
  | group (captures : Bool) (r : Regex)
  | repeated (greedy : Bool) (low : Nat) (high : Option Nat) (r : Regex)
  | sequence (rs : List Regex)
  | choice (rs : List Regex)

namespace Regex

/-! ## Depth -/

mutual

/-- How deep the parts of an expression are nested. -/
def depth : Regex → Nat
  | .empty | .anchor _ => 0
  | .set nesting _ => nesting
  | .group _ r => depth r + 1
  | .repeated _ _ _ r => depth r + 1
  | .sequence rs | .choice rs => depthAll rs + 1

def depthAll : List Regex → Nat
  | [] => 0
  | r :: rest => max (depth r) (depthAll rest)

end

/-- How deep an expression may be nested. -/
def maxDepth : Nat := 250

end Regex

end MessageRouter
