import Targeting.Pattern.Expr
import Targeting.Unicode.Property

/-!
# Searching a text

A pattern is searched by carrying marks through it. A `Program` is an expression in which every set
of characters may carry a mark: the last character was taken there. Between two characters `advance`
moves all marks at once over the next one, so a text takes time proportional to its length times the
size of the pattern, whatever the pattern is. A new attempt enters at the front between any two
characters; as soon as one comes out at the end, the pattern occurs in the text.

Parts without marks are left alone (`isLive`).
-/

set_option autoImplicit false

namespace Targeting.Pattern

/-- The characters on the two sides of a place in a text. -/
structure Gap where
  before : Option Char
  after : Option Char
deriving DecidableEq

/-- The changes of the set of word characters, for searching. -/
def wordFlips : Array Nat :=
  Unicode.Property.word.flips.toArray

/-- Is there a character, and does it belong to words? -/
def isWord (ascii : Bool) : Option Char → Bool
  | none => false
  | some c =>
    if c.toNat < 128 then c.isAlphanum || c == '_'
    else !ascii && Unicode.CodeSet.memArray wordFlips c.toNat

/-- Does a place lie as wanted? A return and a line feed end one line together. -/
def Look.holds (g : Gap) : Look → Bool
  | start => g.before == none
  | stop => g.after == none
  | startLine => g.before == none || g.before == some '\n'
  | stopLine => g.after == none || g.after == some '\n'
  | startLineCrlf =>
    g.before == none || g.before == some '\n' || (g.before == some '\r' && g.after != some '\n')
  | stopLineCrlf =>
    g.after == none || g.after == some '\r' || (g.after == some '\n' && g.before != some '\r')
  | boundary ascii => isWord ascii g.before != isWord ascii g.after
  | notBoundary ascii => isWord ascii g.before == isWord ascii g.after
  | wordStart ascii => !isWord ascii g.before && isWord ascii g.after
  | wordStop ascii => isWord ascii g.before && !isWord ascii g.after
  | wordStartHalf ascii => !isWord ascii g.before
  | wordStopHalf ascii => !isWord ascii g.after

/-- An expression with marks. Inner nodes remember whether there is a mark below them. -/
inductive Program where
  | empty
  /-- Nothing matches. -/
  | never
  /-- One character out of a set, given by its changes. -/
  | chars (flips : Array Nat) (marked : Bool)
  | look (l : Look)
  | sequence (live : Bool) (a b : Program)
  | choice (live : Bool) (a b : Program)
  /-- Any number of times. -/
  | star (live : Bool) (a : Program)
deriving Inhabited

namespace Program

/-- Is there a mark? -/
def isLive : Program → Bool
  | chars _ marked => marked
  | sequence live _ _ => live
  | choice live _ _ => live
  | star live _ => live
  | _ => false

/-- Does the program match the empty text at a place? -/
def matchesEmpty (g : Gap) : Program → Bool
  | empty => true
  | never => false
  | chars _ _ => false
  | look l => l.holds g
  | sequence _ a b => matchesEmpty g a && matchesEmpty g b
  | choice _ a b => matchesEmpty g a || matchesEmpty g b
  | star _ _ => true

/-- Does a mark come out at the end, at a place? -/
def isDone (g : Gap) : Program → Bool
  | chars _ marked => marked
  | sequence live a b => live && (isDone g b || (isDone g a && matchesEmpty g b))
  | choice live a b => live && (isDone g a || isDone g b)
  | star live a => live && isDone g a
  | _ => false

/-- Moves the marks over the character after a place, together with one that enters at the front if
`enter` says so. The result tells, too, whether something comes out at the end at the place
itself. -/
def advance (g : Gap) (enter : Bool) : Program → Program × Bool
  | empty => (empty, enter)
  | never => (never, false)
  | chars flips marked =>
    let taken := enter && g.after.any fun c => Unicode.CodeSet.memArray flips c.toNat
    (chars flips taken, marked)
  | look l => (look l, enter && l.holds g)
  | sequence live a b =>
    if enter || live then
      let (a', out) := advance g enter a
      let (b', out) := advance g out b
      (sequence (a'.isLive || b'.isLive) a' b', out)
    else (sequence live a b, false)
  | choice live a b =>
    if enter || live then
      let (a', outA) := advance g enter a
      let (b', outB) := advance g enter b
      (choice (a'.isLive || b'.isLive) a' b', outA || outB)
    else (choice live a b, false)
  | star live a =>
    if enter || live then
      let again := enter || isDone g a
      let a' := (advance g again a).1
      (star a'.isLive a', again)
    else (star live a, false)

/-- One program after another. -/
def append : Program → Program → Program
  | empty, b => b
  | a, empty => a
  | a, b => sequence false a b

/-- A program several times over, built evenly so that it nests no deeper than it has to; the first
argument bounds the halvings. -/
def copies (a : Program) : Nat → Nat → Program
  | 0, _ => empty
  | _, 0 => empty
  | _, 1 => a
  | bound + 1, n => append (copies a bound (n / 2)) (copies a bound (n - n / 2))

/-- A program from `min` up to `max` times, or any number of times. -/
def repeated (min : Nat) (max : Option Nat) (a : Program) : Program :=
  match max with
  | none => append (copies a (min + 1) min) (star false a)
  | some max =>
    append (copies a (min + 1) min)
      (copies (choice false empty a) (max - min + 1) (max - min))

mutual

/-- The program of an expression, without marks. -/
def ofExpr : Expr → Program
  | .empty => empty
  | .chars set => chars set.flips.toArray false
  | .look l => look l
  | .sequence es => ofSequence es
  | .choice es => ofChoice es
  | .repetition min max e => repeated min max (ofExpr e)
  | .group e => ofExpr e

/-- The program of expressions one after the other. -/
def ofSequence : List Expr → Program
  | [] => empty
  | e :: es => append (ofExpr e) (ofSequence es)

/-- The program of a choice between expressions. -/
def ofChoice : List Expr → Program
  | [] => never
  | e :: es => choice false (ofExpr e) (ofChoice es)

end

/-- Does something come out at the end, now or after some of the characters that follow? -/
def search (before : Option Char) (p : Program) : List Char → Bool
  | [] => (advance ⟨before, none⟩ true p).2
  | c :: cs =>
    let (p', out) := advance ⟨before, some c⟩ true p
    out || search (some c) p' cs

/-- Does the program match anywhere in a text? -/
def occursIn (p : Program) (text : String) : Bool :=
  search none p text.toList

end Program

end Targeting.Pattern
