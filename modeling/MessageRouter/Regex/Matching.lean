import MessageRouter.Regex.Basic
import MessageRouter.Regex.Property

/-!
# Matching regular expressions

A match leads from one place of a text to another.  An expression is run over all places at once:
from marks on the places where a match may start it makes marks on those where one can end.  The
marks are the bits of one number, so that a single operation on numbers moves all of them.
-/

namespace MessageRouter

/-! ## Places -/

/-- A place in a text, by the characters on its two sides. -/
structure Place where
  before : Option Char
  after : Option Char
  deriving DecidableEq

namespace Place

/-- The places of a text that follows the character `before`, from first to last. -/
def allAfter : Option Char → List Char → List Place
  | before, [] => [⟨before, none⟩]
  | before, c :: cs => ⟨before, some c⟩ :: allAfter (some c) cs

/-- All places of a text, from its start to its end. -/
def all (cs : List Char) : List Place := allAfter none cs

@[simp] theorem length_allAfter (before : Option Char) (cs : List Char) :
    (allAfter before cs).length = cs.length + 1 := by
  induction cs generalizing before with
  | nil => rfl
  | cons c cs ih => simp [allAfter, ih]

@[simp] theorem length_all (cs : List Char) : (all cs).length = cs.length + 1 :=
  length_allAfter none cs

end Place

namespace Anchor

/-- The anchor holds at a place. -/
def holdsAt (a : Anchor) (p : Place) : Bool :=
  let wordBefore (ascii : Bool) : Bool := p.before.any (CharSet.word ascii).contains
  let wordAfter (ascii : Bool) : Bool := p.after.any (CharSet.word ascii).contains
  match a with
  | .textStart => p.before.isNone
  | .textEnd => p.after.isNone
  | .lineStart => p.before.all (· == '\n')
  | .lineEnd => p.after.all (· == '\n')
  | .lineStartWithReturn =>
    match p.before with
    | none => true
    | some c => c == '\n' || (c == '\r' && p.after != some '\n')
  | .lineEndWithReturn =>
    match p.after with
    | none => true
    | some c => c == '\r' || (c == '\n' && p.before != some '\r')
  | .wordBoundary ascii => wordBefore ascii != wordAfter ascii
  | .noWordBoundary ascii => wordBefore ascii == wordAfter ascii
  | .wordStart ascii => !wordBefore ascii && wordAfter ascii
  | .wordEnd ascii => wordBefore ascii && !wordAfter ascii
  | .noWordBefore ascii => !wordBefore ascii
  | .noWordAfter ascii => !wordAfter ascii

end Anchor

/-! ## Marks -/

/-- A number whose bits tell for each place of a text, from first to last, whether it is marked. -/
abbrev Marks := Nat

namespace Marks

/-- Marks on the places where `p` holds. -/
def ofPlaces (p : Place → Bool) : List Place → Nat
  | [] => 0
  | q :: rest => 2 * ofPlaces p rest + (p q).toNat

theorem testBit_ofPlaces (p : Place → Bool) (ps : List Place) (i : Nat) :
    Nat.testBit (ofPlaces p ps) i = ps[i]?.any p := by
  induction ps generalizing i with
  | nil => simp [ofPlaces]
  | cons q ps ih =>
    cases i with
    | zero => cases h : p q <;> simp [ofPlaces, h, Nat.add_mod]
    | succ i =>
      have : (2 * ofPlaces p ps + (p q).toNat) / 2 = ofPlaces p ps := by
        cases p q <;> simp only [Bool.toNat_true, Bool.toNat_false] <;> omega
      simp [ofPlaces, Nat.testBit_succ, this, ih]

end Marks

/-! ## Letters -/

/-- The characters of a text, each with marks on the places before it. -/
abbrev Letters := List (Char × Marks)

namespace Letters

/-- Adds the place `i` before a character. -/
def mark (c : Char) (i : Nat) : Letters → Letters
  | [] => [(c, 1 <<< i)]
  | (d, ms) :: rest => if c = d then (d, 1 <<< i ||| ms) :: rest else (d, ms) :: mark c i rest

/-- The letters of a text of which the first character comes after the place `i`. -/
def ofText (i : Nat) : List Char → Letters
  | [] => []
  | c :: cs => mark c i (ofText (i + 1) cs)

/-- Marks on the places before a character of the set. -/
def placesOf (s : CharSet) : Letters → Nat
  | [] => 0
  | (c, ms) :: rest => if s.contains c then ms ||| placesOf s rest else placesOf s rest

theorem placesOf_mark (s : CharSet) (c : Char) (i : Nat) (letters : Letters) :
    placesOf s (mark c i letters) =
      if s.contains c then 1 <<< i ||| placesOf s letters else placesOf s letters := by
  induction letters with
  | nil => simp [mark, placesOf]
  | cons l letters ih =>
    obtain ⟨d, ms⟩ := l
    unfold mark
    by_cases h : c = d
    · subst h
      by_cases hc : s.contains c <;> simp [placesOf, hc, Nat.or_assoc]
    · by_cases hc : s.contains c <;> by_cases hd : s.contains d <;>
        simp [placesOf, h, hc, hd, ih, ← Nat.or_assoc, Nat.or_comm ms]

theorem testBit_placesOf_ofText (s : CharSet) (cs : List Char) (i j : Nat) :
    Nat.testBit (placesOf s (ofText i cs)) j = (decide (i ≤ j) && cs[j - i]?.any s.contains) := by
  induction cs generalizing i with
  | nil => simp [ofText, placesOf]
  | cons c cs ih =>
    rw [ofText, placesOf_mark]
    have bit : Nat.testBit (1 <<< i) j = decide (i = j) := by
      rw [Nat.one_shiftLeft, Nat.testBit_two_pow]
    have pick : Nat.testBit (if s.contains c then 1 <<< i ||| placesOf s (ofText (i + 1) cs)
        else placesOf s (ofText (i + 1) cs)) j =
        ((s.contains c && decide (i = j)) ||
          (decide (i + 1 ≤ j) && cs[j - (i + 1)]?.any s.contains)) := by
      split <;> simp [*, Nat.testBit_or]
    rw [pick]
    rcases Nat.lt_trichotomy i j with h | rfl | h
    · obtain ⟨k, rfl⟩ := Nat.exists_eq_add_of_lt h
      have h₁ : i + k + 1 - i = k + 1 := by omega
      have h₂ : i + k + 1 - (i + 1) = k := by omega
      have h₃ : i ≠ i + k + 1 := by omega
      have h₄ : i ≤ i + k + 1 := by omega
      have h₅ : i + 1 ≤ i + k + 1 := by omega
      simp [h₁, h₂, h₃, h₄, h₅]
    · have h₁ : ¬ i + 1 ≤ i := by omega
      simp [h₁]
    · have h₁ : ¬ i ≤ j := by omega
      have h₂ : ¬ i + 1 ≤ j := by omega
      have h₃ : i ≠ j := by omega
      simp [h₁, h₂, h₃]

end Letters

/-! ## Repetition -/

/-- The marks after exactly `count` steps; once they stay the same, they do for good. -/
def afterSteps (step : Marks → Marks) : Nat → Marks → Marks
  | 0, ms => ms
  | count + 1, ms =>
    let next := step ms
    if next = ms then ms else afterSteps step count next

/-- The marks after at most `count` steps from those in `fresh`, added to those in `seen`; each step
goes on from the places that the one before it has marked for the first time. -/
def withinSteps (step : Marks → Marks) : Nat → Marks → Marks → Marks
  | 0, seen, _ => seen
  | count + 1, seen, fresh =>
    let all := seen ||| step fresh
    if all = seen then seen else withinSteps step count all (all ^^^ seen)

/-! ## Routes -/

/-- The ways that an expression opens through one text. -/
inductive Route where
  | stay (places : Marks)
  | step (places : Marks)
  | repeated (low more : Nat) (r : Route)
  | sequence (rs : List Route)
  | choice (rs : List Route)

namespace Route

mutual

/-- The places where a way from a marked place ends. -/
def ends : Route → Marks → Marks
  | .stay places, ms => ms &&& places
  | .step places, ms => (ms &&& places) <<< 1
  | .repeated low more r, ms =>
    let first := afterSteps (ends r) low ms
    withinSteps (ends r) more first first
  | .sequence rs, ms => endsAll rs ms
  | .choice rs, ms => endsAny rs ms

/-- The ends of the ways through all the routes one after another. -/
def endsAll : List Route → Marks → Marks
  | [], ms => ms
  | r :: rest, ms => endsAll rest (ends r ms)

/-- The ends of the ways through any of the routes. -/
def endsAny : List Route → Marks → Marks
  | [], _ => 0
  | r :: rest, ms => ends r ms ||| endsAny rest ms

end

end Route

namespace Regex

mutual

/-- The ways of an expression through a text with the given places and letters; without an upper
limit as many steps as there are places reach all that repetition can. -/
def route (ps : List Place) (letters : Letters) : Regex → Route
  | .empty => .sequence []
  | .anchor a => .stay (Marks.ofPlaces a.holdsAt ps)
  | .set _ s => .step (letters.placesOf s)
  | .group _ r => route ps letters r
  | .repeated _ low high r =>
    let more := match high with
      | some high => high - low
      | none => ps.length
    .repeated low more (route ps letters r)
  | .sequence rs => .sequence (routes ps letters rs)
  | .choice rs => .choice (routes ps letters rs)

def routes (ps : List Place) (letters : Letters) : List Regex → List Route
  | [] => []
  | r :: rest => route ps letters r :: routes ps letters rest

end

/-- The places where a match that starts at a marked place can end. -/
def endsIn (r : Regex) (cs : List Char) (ms : Marks) : Marks :=
  (r.route (Place.all cs) (Letters.ofText 0 cs)).ends ms

/-! ## Matches -/

/-- There is a match somewhere in the text. -/
def isFoundIn (r : Regex) (s : String) : Bool :=
  r.endsIn s.toList (1 <<< (s.toList.length + 1) - 1) != 0

/-- The whole text is a match. -/
def matchesAll (r : Regex) (s : String) : Bool :=
  (r.endsIn s.toList 1).testBit s.toList.length

end Regex

end MessageRouter
