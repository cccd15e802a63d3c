import Targeting.Pattern.Expr

/-!
# The room a pattern takes up

A pattern becomes an automaton over the bytes of the text, one that reads forwards and one that
reads backwards. `Expr.cost` counts the room that the states of both take up: every repetition is
written out, so a short pattern can ask for a great deal. `Expr.isTooBig` compares either total with
the limit.

A character outside ASCII is several bytes. A set of such characters is first cut into sequences of
byte ranges (`byteSequences`); the states then follow the tree of these sequences.
-/

set_option autoImplicit false

namespace Targeting.Pattern

/-- The room for the automata that read forwards and backwards. -/
structure Cost where
  forward : Nat
  backward : Nat
deriving DecidableEq, Repr

namespace Cost

/-- No room. -/
def zero : Cost := ⟨0, 0⟩

/-- The same room in both automata. -/
def both (n : Nat) : Cost := ⟨n, n⟩

/-- Room for one thing and another. -/
def add (a b : Cost) : Cost :=
  ⟨a.forward + b.forward, a.backward + b.backward⟩

/-- Room for several copies. -/
def times (n : Nat) (a : Cost) : Cost :=
  ⟨n * a.forward, n * a.backward⟩

end Cost

/-- The room of a state. -/
def stateRoom : Nat := 32

/-- The room of a transition on a range of bytes, beside that of its state. -/
def rangeRoom : Nat := 8

/-- The room of a way out of a state that only branches. -/
def branchRoom : Nat := 4

/-- The room that a pattern may take up. -/
def roomLimit : Nat := 10 * Nat.pow 2 20

/-- A sequence of byte ranges, both ends included. -/
abbrev ByteRanges : Type := List (Nat × Nat)

/-- The bytes of a code point. -/
def utf8 (c : Nat) : List Nat :=
  if c < 0x80 then [c]
  else if c < 0x800 then [0xc0 + c / 64, 0x80 + c % 64]
  else if c < 0x10000 then [0xe0 + c / 4096, 0x80 + c / 64 % 64, 0x80 + c % 64]
  else [0xf0 + c / 262144, 0x80 + c / 4096 % 64, 0x80 + c / 64 % 64, 0x80 + c % 64]

/-- Where a range of code points has to be cut so that its bytes vary independently: after the last
point of the first part, if anywhere. -/
def cutAfter? (lo hi : Nat) : Option Nat :=
  let lengths := [0x7f, 0x7ff, 0xffff].find? fun last => decide (lo ≤ last) && decide (last < hi)
  let aligned := [64, 4096, 262144].findSome? fun block =>
    if lo / block = hi / block then none
    else if lo % block ≠ 0 then some (lo / block * block + block - 1)
    else if hi % block ≠ block - 1 then some (hi / block * block - 1)
    else none
  lengths <|> (if hi < 0x80 then none else aligned)

/-- The byte sequences of a range of code points; the first argument bounds the number of cuts. -/
def cutRange : Nat → Nat → Nat → List ByteRanges
  | 0, _, _ => []
  | n + 1, lo, hi =>
    match cutAfter? lo hi with
    | some last => cutRange n lo last ++ cutRange n (last + 1) hi
    | none => [(utf8 lo).zip (utf8 hi)]

/-- The byte sequences of a range of code points, surrogates left out. -/
def byteSequences (lo hi : Nat) : List ByteRanges :=
  let below := if lo ≤ min hi 0xd7ff then cutRange 32 lo (min hi 0xd7ff) else []
  let above := if max lo 0xe000 ≤ hi then cutRange 32 (max lo 0xe000) hi else []
  below ++ above

/-- How many entries two sequences share at their front. -/
def sharedFront : ByteRanges → ByteRanges → Nat
  | r :: rs, s :: ss => if r = s then 1 + sharedFront rs ss else 0
  | _, _ => 0

/-- How many branches the tree of some byte sequences has, and how many of its nodes branch; the
sequences are in order, and the one before is given. -/
def treeSize : ByteRanges → List ByteRanges → Nat × Nat
  | _, [] => (0, 0)
  | before, s :: rest =>
    let shared := sharedFront before s
    let (edges, nodes) := treeSize s rest
    (edges + (s.length - shared), nodes + (s.length - 1 - shared))

/-- The room of a set of characters. A single character is the sequence of its bytes. -/
def setCost (set : Unicode.CodeSet) : Cost :=
  let ranges := set.ranges
  match ranges with
  | [(lo, hi)] =>
    if lo = hi then .both (stateRoom * (utf8 lo).length) else manyCost ranges
  | ranges => manyCost ranges
where
  /-- The room of a set of several characters, or of none. -/
  manyCost (ranges : List (Nat × Nat)) : Cost :=
    if ranges.all fun r => r.2 < 0x80 then
      .both (2 * stateRoom + rangeRoom * ranges.length)
    else
      let sequences := ranges.flatMap fun r => byteSequences r.1 r.2
      let (edges, nodes) := treeSize [] sequences
      ⟨stateRoom + (nodes + 1) * stateRoom + edges * rangeRoom,
        2 * stateRoom + edges * stateRoom + sequences.length * branchRoom⟩

/-- The room of a state that branches in two. -/
def forkCost : Cost := .both (stateRoom + 2 * branchRoom)

/-- The room of a state that does nothing. -/
def plainCost : Cost := .both stateRoom

/-- The room of a repetition of something of a given cost. -/
def repetitionCost (min : Nat) (max : Option Nat) (canBeEmpty : Bool) (e : Cost) : Cost :=
  match min, max with
  | 0, some 1 => forkCost.add (e.add plainCost)
  | 0, none =>
    if canBeEmpty then e.add (forkCost.add (forkCost.add plainCost)) else e.add forkCost
  | n, none => (e.times n).add forkCost
  | n, some m =>
    let front := if n = 0 then plainCost else e.times n
    if m ≤ n then front
    else front.add (plainCost.add ((forkCost.add e).times (m - n)))

namespace Expr

mutual

/-- The room that an expression takes up. -/
def cost : Expr → Cost
  | empty => plainCost
  | chars set => setCost set
  | look _ => plainCost
  | sequence es => costs es
  | choice es =>
    match es with
    | [] => plainCost
    | es => (costs es).add (.both (2 * stateRoom + branchRoom * es.length))
  | repetition min max e => repetitionCost min max (e.least?.getD 1 == 0) e.cost
  | group e => e.cost.add ⟨2 * stateRoom, 0⟩

/-- The room that several expressions take up. -/
def costs : List Expr → Cost
  | [] => .zero
  | e :: es => e.cost.add (costs es)

end

/-- The room of what surrounds every pattern: a loop over the bytes before a match, the group of the
whole match, and the state that accepts. -/
def frameCost : Cost :=
  ⟨6 * stateRoom + 2 * branchRoom + rangeRoom, 4 * stateRoom + 2 * branchRoom + rangeRoom⟩

/-- Does an expression take up more room than it may? -/
def isTooBig (e : Expr) : Bool :=
  let total := e.cost.add frameCost
  roomLimit < total.forward || roomLimit < total.backward

end Expr

end Targeting.Pattern
