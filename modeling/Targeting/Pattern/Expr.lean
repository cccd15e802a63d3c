import Targeting.Unicode.CodeSet

/-!
# Expressions

What a pattern means: characters out of a set, places in the text, and sequences, choices and
repetitions of these. The constructors `Expr.ofSequence`, `Expr.ofChoice` and `Expr.times` simplify
as they build, without changing what is matched: nothing is wrapped alone, a choice of characters is
one set, and what can only match the empty text is repeated at most once.
-/

set_option autoImplicit false

namespace Targeting.Pattern

/-- A place in a text, told from the characters on its two sides. `Ascii` ones know ASCII words
only. -/
inductive Look where
  | start
  | stop
  | startLine
  | stopLine
  | startLineCrlf
  | stopLineCrlf
  | boundary (ascii : Bool)
  | notBoundary (ascii : Bool)
  | wordStart (ascii : Bool)
  | wordStop (ascii : Bool)
  | wordStartHalf (ascii : Bool)
  | wordStopHalf (ascii : Bool)
deriving DecidableEq, Repr

/-- An expression. -/
inductive Expr where
  /-- The empty text. -/
  | empty
  /-- One character out of a set. -/
  | chars (set : Unicode.CodeSet)
  /-- The empty text at a place. -/
  | look (l : Look)
  /-- One after the other. -/
  | sequence (es : List Expr)
  /-- Any one of them; with none, nothing. -/
  | choice (es : List Expr)
  /-- From `min` up to `max` times, or any number of times. -/
  | repetition (min : Nat) (max : Option Nat) (e : Expr)
  /-- A numbered group. -/
  | group (e : Expr)
deriving Inhabited

namespace Expr

/-- How many bytes of text a character takes up. -/
def charBytes (c : Nat) : Nat :=
  if c < 0x80 then 1 else if c < 0x800 then 2 else if c < 0x10000 then 3 else 4

mutual

/-- The least number of bytes an expression matches; none if it matches nothing. -/
def least? : Expr → Option Nat
  | empty => some 0
  | chars set => set.flips.head?.map charBytes
  | look _ => some 0
  | sequence es => leastOfAll? es
  | choice es => leastOfAny? es
  | repetition 0 _ _ => some 0
  | repetition (n + 1) _ e => (least? e).map ((n + 1) * ·)
  | group e => least? e

/-- The least number of bytes that a sequence matches. -/
def leastOfAll? : List Expr → Option Nat
  | [] => some 0
  | e :: es =>
    match least? e, leastOfAll? es with
    | some a, some b => some (a + b)
    | _, _ => none

/-- The least number of bytes that one of several expressions matches. -/
def leastOfAny? : List Expr → Option Nat
  | [] => none
  | e :: es =>
    match least? e, leastOfAny? es with
    | some a, some b => some (min a b)
    | some a, none => some a
    | none, b => b

end

mutual

/-- Can the expression match nothing but the empty text? -/
def isVoid : Expr → Bool
  | empty => true
  | chars _ => false
  | look _ => true
  | sequence es => areVoid es
  | choice es => !es.isEmpty && areVoid es
  | repetition _ max e => max == some 0 || isVoid e
  | group e => isVoid e

/-- Can none of several expressions match more than the empty text? -/
def areVoid : List Expr → Bool
  | [] => true
  | e :: es => isVoid e && areVoid es

end

/-- One expression after the other. -/
def ofSequence (es : List Expr) : Expr :=
  let parts := es.flatMap fun
    | empty => []
    | sequence inner => inner
    | e => [e]
  match parts with
  | [] => empty
  | [e] => e
  | parts => sequence parts

/-- The sets of expressions that are all sets. -/
def sets? : List Expr → Option (List Unicode.CodeSet)
  | [] => some []
  | chars set :: es => (sets? es).map (set :: ·)
  | _ :: _ => none

/-- One expression out of several. -/
def ofChoice (es : List Expr) : Expr :=
  let branches := es.flatMap fun
    | choice inner => inner
    | e => [e]
  match branches with
  | [e] => e
  | branches =>
    match sets? branches with
    | some (s :: sets) => chars (.unions (s :: sets))
    | _ => choice branches

/-- An expression several times over. -/
def times (min : Nat) (max : Option Nat) (e : Expr) : Expr :=
  let min' := if isVoid e then Nat.min min 1 else min
  let max' := if isVoid e then some ((max.map (Nat.min · 1)).getD 1) else max
  if min' = 0 ∧ max' = some 0 then empty
  else if min' = 1 ∧ max' = some 1 then e
  else repetition min' max' e

end Expr

end Targeting.Pattern
