import Targeting.Pattern.Engine

/-!
# Patterns as trees

What the text of a pattern says, before flags and properties are looked up: characters, classes,
anchors, repetitions, groups, sequences and alternatives. `Node.depth` measures how deeply a tree
nests, which is limited.
-/

set_option autoImplicit false

namespace Targeting.Pattern

/-- A switch for the rest of a group. -/
inductive Flag where
  /-- `i`: letters match in either case. -/
  | ignoreCase
  /-- `m`: line anchors match at every line. -/
  | multiLine
  /-- `s`: the dot matches a line end, too. -/
  | dotAll
  /-- `U`: repetitions prefer fewer. -/
  | lazy
  /-- `u`: classes mean all characters and not ASCII alone. -/
  | unicode
  /-- `R`: a line ends in a return, a line feed or both. -/
  | crlf
  /-- `x`: white space and comments in the pattern mean nothing. -/
  | spaced
deriving DecidableEq, Repr

/-- Flags switched on (`true`) or off. -/
abbrev Switches : Type := List (Flag × Bool)

/-- The classes with a letter: digits, white space, characters of words. -/
inductive LetterClass where
  | digit
  | space
  | word
deriving DecidableEq, Repr

/-- The classes of ASCII characters with a name. -/
inductive AsciiClass where
  | alnum
  | alpha
  | ascii
  | blank
  | cntrl
  | digit
  | graph
  | lower
  | print
  | punct
  | space
  | upper
  | word
  | xdigit
deriving DecidableEq, Repr

/-- The property of characters that a class names. -/
inductive Query where
  /-- A property of one letter. -/
  | letter (c : Char)
  /-- A property, category or script by its name. -/
  | name (s : String)
  /-- A value of a property. -/
  | value (property value : String)
deriving DecidableEq, Repr

/-- A character that stands for itself. -/
structure Literal where
  char : Char
  /-- Written as a backslash, `x` and two digits, so that it can mean a byte. -/
  isByte : Bool := false
deriving DecidableEq, Repr

/-- The operations between sets in brackets. -/
inductive SetOp where
  | inter
  | diff
  | symmDiff
deriving DecidableEq, Repr

/-- What stands between brackets. -/
inductive ClassSet where
  | empty
  | literal (l : Literal)
  | range (lo hi : Literal)
  | ascii (negated : Bool) (kind : AsciiClass)
  | letter (negated : Bool) (kind : LetterClass)
  | property (negated : Bool) (query : Query)
  | bracketed (negated : Bool) (set : ClassSet)
  | union (items : List ClassSet)
  | binary (op : SetOp) (left right : ClassSet)
deriving Inhabited

/-- A place in the text. -/
inductive Anchor where
  | lineStart
  | lineEnd
  | textStart
  | textEnd
  | boundary
  | notBoundary
  | wordStart
  | wordEnd
  | wordStartHalf
  | wordEndHalf
deriving DecidableEq, Repr

/-- A pattern as a tree. -/
inductive Node where
  | empty
  /-- Switches for the rest of the group. -/
  | flags (switches : Switches)
  | literal (l : Literal)
  | dot
  | anchor (a : Anchor)
  | letter (negated : Bool) (kind : LetterClass)
  | property (negated : Bool) (query : Query)
  | bracketed (negated : Bool) (set : ClassSet)
  /-- From `min` times up to `max` times, or any number of times. -/
  | repetition (min : Nat) (max : Option Nat) (node : Node)
  /-- A group, with a number or with switches for its inside. -/
  | group (numbered : Bool) (switches : Switches) (node : Node)
  | sequence (nodes : List Node)
  | alternatives (nodes : List Node)
deriving Inhabited

namespace ClassSet

mutual

/-- How deeply a set nests. -/
def depth : ClassSet → Nat
  | bracketed _ set => 1 + depth set
  | union items => 1 + depths items
  | binary _ left right => 1 + max (depth left) (depth right)
  | _ => 0

/-- The largest depth of several sets. -/
def depths : List ClassSet → Nat
  | [] => 0
  | s :: ss => max (depth s) (depths ss)

end

/-- The union of items read one after the other; a single item is not wrapped. -/
def ofItems : List ClassSet → ClassSet
  | [] => empty
  | [item] => item
  | items => union items

end ClassSet

namespace Node

mutual

/-- How deeply a tree nests. -/
def depth : Node → Nat
  | bracketed _ set => 1 + set.depth
  | repetition _ _ node => 1 + depth node
  | group _ _ node => 1 + depth node
  | sequence nodes => 1 + depths nodes
  | alternatives nodes => 1 + depths nodes
  | _ => 0

/-- The largest depth of several trees. -/
def depths : List Node → Nat
  | [] => 0
  | n :: ns => max (depth n) (depths ns)

end

/-- Trees one after the other; a single tree is not wrapped. -/
def ofSequence : List Node → Node
  | [] => empty
  | [node] => node
  | nodes => sequence nodes

/-- Trees to choose from; a single tree is not wrapped. -/
def ofAlternatives : List Node → Node
  | [node] => node
  | nodes => alternatives nodes

/-- How deeply a pattern may nest. -/
def depthLimit : Nat := 250

end Node

end Targeting.Pattern
