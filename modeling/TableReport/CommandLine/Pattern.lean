import TableReport.CommandLine.CharSet
/-!
# Patterns

A pattern is looked for in a text: the leftmost place where it fits counts, and of the ways in which
it fits there the preferred one. The first choice is preferred to the second, and one more repetition
to none, or the other way round for a reluctant one. The text matches when the way that counts goes up
to its end.

A pattern becomes a machine, which reads the text once. Its threads are kept in the order of
preference, so that all threads behind one that has arrived are given up.
-/
namespace TableReport

/-- A condition on a place in a text. -/
inductive Anchor where
  | textStart
  | textEnd
  | lineStart
  | lineEnd
  /-- Like the start of a line, where a carriage return and a line feed end a line, or one of them. -/
  | lineStartAny
  | lineEndAny
  | wordEdge
  | noWordEdge
  | wordStart
  | wordEnd
deriving DecidableEq, Repr

namespace Anchor

/-- Whether there is a character of a word. -/
def isWord (c : Option Char) : Bool := c.any (CharSet.word.contains ·)

/-- Whether the condition holds between two characters; there is none beyond the ends of the text. -/
def holds (before after : Option Char) : Anchor → Bool
  | .textStart => before.isNone
  | .textEnd => after.isNone
  | .lineStart => before.all (· == '\n')
  | .lineEnd => after.all (· == '\n')
  | .lineStartAny => before.all fun c => c == '\n' || (c == '\r' && after != some '\n')
  | .lineEndAny => after.all fun c => c == '\r' || (c == '\n' && before != some '\r')
  | .wordEdge => isWord before != isWord after
  | .noWordEdge => isWord before == isWord after
  | .wordStart => !isWord before && isWord after
  | .wordEnd => isWord before && !isWord after

end Anchor

/-- A pattern. -/
inductive Pattern where
  | empty
  | char (set : CharSet)
  | anchor (a : Anchor)
  | sequence (first second : Pattern)
  | choice (preferred other : Pattern)
  /-- Any number of times. -/
  | many (inner : Pattern) (greedy : Bool)
  /-- At least once. -/
  | several (inner : Pattern) (greedy : Bool)
deriving DecidableEq, Repr

/-- One step of a machine, with the places to go on at. -/
inductive PatternStep where
  | goTo (next : Nat)
  | read (set : CharSet) (next : Nat)
  | check (a : Anchor) (next : Nat)
  | fork (preferred other : Nat)
  | arrive
deriving DecidableEq, Repr

/-- The steps of a machine by their places. -/
abbrev PatternMachine := List PatternStep

namespace Pattern

/-- Whether a pattern may fit without reading a character. -/
def mayBeEmpty : Pattern → Bool
  | .empty => true
  | .char _ => false
  | .anchor _ => true
  | .sequence first second => first.mayBeEmpty && second.mayBeEmpty
  | .choice preferred other => preferred.mayBeEmpty || other.mayBeEmpty
  | .many _ _ => true
  | .several inner _ => inner.mayBeEmpty

/-- The step that goes on at one of two places, preferring the first if greedy. -/
def forkBy (greedy : Bool) (more done : Nat) : PatternStep :=
  if greedy then .fork more done else .fork done more

/-- The number of steps of a pattern. -/
def size : Pattern → Nat
  | .empty => 1
  | .char _ => 1
  | .anchor _ => 1
  | .sequence first second => first.size + second.size
  | .choice preferred other => 1 + preferred.size + other.size
  | .many inner _ => (if inner.mayBeEmpty then 2 else 1) + inner.size
  | .several inner _ => inner.size + 1

/-- The steps of a pattern that begin at a place and go on at another one. Repetitions of what may be
empty enter by a fork of their own, so that going round without reading is not preferred. -/
def steps : Pattern → Nat → Nat → PatternMachine
  | .empty, _, next => [.goTo next]
  | .char set, _, next => [.read set next]
  | .anchor a, _, next => [.check a next]
  | .sequence first second, place, next =>
    first.steps place (place + first.size) ++ second.steps (place + first.size) next
  | .choice preferred other, place, next =>
    .fork (place + 1) (place + 1 + preferred.size) :: preferred.steps (place + 1) next ++
      other.steps (place + 1 + preferred.size) next
  | .many inner greedy, place, next =>
    if inner.mayBeEmpty then
      forkBy greedy (place + 2) next :: forkBy greedy (place + 2) next ::
        inner.steps (place + 2) (place + 1)
    else forkBy greedy (place + 1) next :: inner.steps (place + 1) place
  | .several inner greedy, place, next =>
    inner.steps place (place + inner.size) ++ [forkBy greedy place next]

/-- The machine of a pattern. -/
def machine (p : Pattern) : PatternMachine := p.steps 0 p.size ++ [.arrive]

end Pattern

namespace PatternMachine

/-- The places that are reached from the ones on the stack without reading, in the order of preference,
after those reached so far. The first argument bounds the number of steps. -/
def reach (m : PatternMachine) (before after : Option Char) :
    Nat → List Nat → List Nat → List Nat
  | 0, _, reached => reached
  | _ + 1, [], reached => reached
  | fuel + 1, place :: stack, reached =>
    if reached.contains place then m.reach before after fuel stack reached
    else
      let further := match m[place]? with
        | some (.goTo next) => [next]
        | some (.check a next) => if a.holds before after then [next] else []
        | some (.fork preferred other) => [preferred, other]
        | _ => []
      m.reach before after fuel (further ++ stack) (reached ++ [place])

/-- Where a thread goes on after a character. -/
def advance? (m : PatternMachine) (c : Char) (place : Nat) : Option Nat :=
  match m[place]? with
  | some (.read set next) => if set.contains c then some next else none
  | _ => none

/-- Whether the way that counts goes up to the end of a text, given the threads behind the character
before it. As long as none has arrived, one more starts at every place. -/
def run (m : PatternMachine) (searching : Bool) (before : Option Char) (threads : List Nat) :
    List Char → Bool
  | [] => arrives none
  | c :: cs =>
    let live := reached (some c)
    m.run (searching && !arrives (some c)) (some c)
      ((live.takeWhile fun place => m[place]? != some .arrive).filterMap (m.advance? c)) cs
where
  /-- The places reached before the next character. -/
  reached (after : Option Char) : List Nat :=
    let stack := if searching then threads ++ [0] else threads
    m.reach before after (stack.length + 3 * m.length + 1) stack []
  /-- Whether one of them is the goal. -/
  arrives (after : Option Char) : Bool :=
    (reached after).any fun place => m[place]? == some .arrive

end PatternMachine

/-- Whether the way in which a pattern fits into a text goes up to its end. -/
def Pattern.accepts (p : Pattern) (s : String) : Bool :=
  p.machine.run true none [] s.toList

end TableReport
