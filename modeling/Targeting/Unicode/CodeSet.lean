/-!
# Sets of code points

A set is the increasing list of code points at which membership changes, so a range is two entries
and the complement is one entry more or less. One sweep over two such lists (`combine`) carries out
every Boolean operation on sets. Tables of character properties are written as the alternating
lengths of their gaps and ranges (`ofLengths`).
-/

set_option autoImplicit false

namespace Targeting.Unicode

/-- A set of code points, as the increasing list of points where membership changes. -/
structure CodeSet where
  flips : List Nat
deriving DecidableEq, Repr, Inhabited

namespace CodeSet

/-- One more than the largest code point. -/
def bound : Nat := 0x110000

/-- No code point. -/
def empty : CodeSet := ⟨[]⟩

/-- Every code point. -/
def all : CodeSet := ⟨[0, bound]⟩

/-- The code points from `lo` to `hi`, both included; empty if `hi < lo`. -/
def range (lo hi : Nat) : CodeSet :=
  if lo ≤ hi then ⟨[lo, hi + 1]⟩ else empty

/-- A single code point. -/
def single (c : Nat) : CodeSet := range c c

/-- Membership by walking the changes up to the point. -/
def memFlips : List Nat → Nat → Bool
  | [], _ => false
  | f :: fs, c => if c < f then false else !memFlips fs c

/-- Does the set hold the code point? -/
def mem (s : CodeSet) (c : Nat) : Bool :=
  memFlips s.flips c

/-- The sweep of `combine`: where each input stands, and the changes still to come. The first
argument bounds the number of changes. -/
def sweep (op : Bool → Bool → Bool) : Nat → Bool → Bool → List Nat → List Nat → List Nat
  | 0, _, _, _, _ => []
  | _ + 1, _, _, [], [] => []
  | n + 1, a, b, x :: xs, [] => emit op a b (!a) b x (sweep op n (!a) b xs [])
  | n + 1, a, b, [], y :: ys => emit op a b a (!b) y (sweep op n a (!b) [] ys)
  | n + 1, a, b, x :: xs, y :: ys =>
    if x < y then emit op a b (!a) b x (sweep op n (!a) b xs (y :: ys))
    else if y < x then emit op a b a (!b) y (sweep op n a (!b) (x :: xs) ys)
    else emit op a b (!a) (!b) x (sweep op n (!a) (!b) xs ys)
where
  /-- Keeps a point where the combined membership changes. -/
  emit (op : Bool → Bool → Bool) (a b a' b' : Bool) (point : Nat) (rest : List Nat) : List Nat :=
    if op a b = op a' b' then rest else point :: rest

/-- The set of points whose memberships in two sets satisfy `op`, which must hold of no point
outside both. -/
def combine (op : Bool → Bool → Bool) (s t : CodeSet) : CodeSet :=
  ⟨sweep op (s.flips.length + t.flips.length) false false s.flips t.flips⟩

/-- Points of either set. -/
def union (s t : CodeSet) : CodeSet := combine or s t

/-- Points of both sets. -/
def inter (s t : CodeSet) : CodeSet := combine and s t

/-- Points of the first set that the second lacks. -/
def diff (s t : CodeSet) : CodeSet := combine (fun a b => a && !b) s t

/-- Points of exactly one of the sets. -/
def symmDiff (s t : CodeSet) : CodeSet := combine xor s t

/-- Points outside the set. -/
def complement (s : CodeSet) : CodeSet := diff all s

/-- The union of several sets. -/
def unions (ss : List CodeSet) : CodeSet := ss.foldl union empty

/-- The ranges of the set in increasing order, both ends included. -/
def ranges (s : CodeSet) : List (Nat × Nat) :=
  pair s.flips
where
  /-- Pairs each entering change with the leaving one after it. -/
  pair : List Nat → List (Nat × Nat)
    | lo :: hi :: rest => (lo, hi - 1) :: pair rest
    | _ => []

/-- Is the character layout of a table, which separates entries and means nothing else? -/
def isSeparator (c : Char) : Bool :=
  c == ' ' || c == '\n'

/-- The characters of a table between its separators, which are spaces and line ends. -/
def runs (table : String) : List (List Char) :=
  (table.toList.splitBy fun c d => isSeparator c == isSeparator d).filter fun run =>
    !run.any isSeparator

/-- The entries of a table. -/
def entries (table : String) : List String :=
  (runs table).map String.ofList

/-- The decimal numbers of a table. -/
def numbers (table : String) : List Nat :=
  (runs table).map fun digits => Nat.ofDigitChars 10 digits 0

/-- Running totals of a list of lengths. -/
def totals : Nat → List Nat → List Nat
  | _, [] => []
  | start, n :: ns => (start + n) :: totals (start + n) ns

/-- A set from a table that gives by turns how many code points are out of it and in it. -/
def ofLengths (table : String) : CodeSet :=
  ⟨totals 0 (numbers table)⟩

/-- The changes of half-open ranges given in order; ranges that touch become one. -/
def joinSpans : List (Nat × Nat) → List Nat
  | [] => []
  | (lo, hi) :: rest =>
    match joinSpans rest with
    | [] => [lo, hi]
    | next :: more => if next = hi then lo :: more else lo :: hi :: next :: more

/-- A set from half-open ranges in order. -/
def ofSpans (spans : List (Nat × Nat)) : CodeSet :=
  ⟨joinSpans spans⟩

/-- A sorted list with each entry kept once. -/
def distinct : List Nat → List Nat
  | a :: b :: rest => if a = b then distinct (b :: rest) else a :: distinct (b :: rest)
  | short => short

/-- The set of the listed code points. -/
def ofList (cs : List Nat) : CodeSet :=
  .ofSpans ((distinct cs.mergeSort).map fun c => (c, c + 1))

/-- How many entries of a sorted array do not exceed `c`, found by halving the span from `lo` to
`hi`; the first argument bounds the halvings. -/
def rank (flips : Array Nat) (c : Nat) : Nat → Nat → Nat → Nat
  | 0, lo, _ => lo
  | n + 1, lo, hi =>
    if lo < hi then
      let middle := (lo + hi) / 2
      if flips.getD middle 0 ≤ c then rank flips c n (middle + 1) hi else rank flips c n lo middle
    else lo

/-- Membership in a set given as a sorted array of its changes. -/
def memArray (flips : Array Nat) (c : Nat) : Bool :=
  rank flips c 32 0 flips.size % 2 == 1

end CodeSet

end Targeting.Unicode
