import Targeting.Pattern.Expr
import Targeting.Pattern.Property
import Targeting.Unicode.CaseFold

/-!
# What patterns mean

`Node.meaning` turns a tree into an expression under the flags in force. Switches count from where
they stand to the end of their group, across its alternatives. Without the flag `u` classes hold
ASCII characters only, and a class that would hold anything else is refused, since the text is not
searched byte by byte.
-/

set_option autoImplicit false

namespace Targeting.Pattern

open Unicode

/-- The flags in force. -/
structure Flags where
  ignoreCase : Bool := false
  multiLine : Bool := false
  dotAll : Bool := false
  unicode : Bool := true
  crlf : Bool := false

namespace Flags

/-- The flags after one switch. Preferring fewer repetitions and spacing change no meaning. -/
def switch (f : Flags) (s : Flag × Bool) : Flags :=
  match s.1 with
  | .ignoreCase => { f with ignoreCase := s.2 }
  | .multiLine => { f with multiLine := s.2 }
  | .dotAll => { f with dotAll := s.2 }
  | .unicode => { f with unicode := s.2 }
  | .crlf => { f with crlf := s.2 }
  | .lazy => f
  | .spaced => f

/-- The flags after several switches. -/
def switchAll (f : Flags) (s : Switches) : Flags :=
  s.foldl switch f

end Flags

/-- Upper and lower case letters of ASCII. -/
def asciiLetters : CodeSet :=
  (CodeSet.range 65 90).union (.range 97 122)

/-- A range of letters of one case in the other case, which is 32 places up or down. -/
def otherCase (r : Nat × Nat) : CodeSet :=
  ((CodeSet.range (r.1 + 32) (r.2 + 32)).union (.range (r.1 - 32) (r.2 - 32))).inter asciiLetters

/-- A set of ASCII characters with every letter in both cases. -/
def closeAscii (s : CodeSet) : CodeSet :=
  s.union (.unions ((s.inter asciiLetters).ranges.map otherCase))

/-- The characters of a named ASCII class. -/
def AsciiClass.set : AsciiClass → CodeSet
  | alnum => .unions [.range 48 57, asciiLetters]
  | alpha => asciiLetters
  | ascii => .range 0 127
  | blank => .unions [.single 9, .single 32]
  | cntrl => .unions [.range 0 31, .single 127]
  | digit => .range 48 57
  | graph => .range 33 126
  | lower => .range 97 122
  | print => .range 32 126
  | punct => .unions [.range 33 47, .range 58 64, .range 91 96, .range 123 126]
  | space => .unions [.range 9 13, .single 32]
  | upper => .range 65 90
  | word => .unions [.range 48 57, .single 95, asciiLetters]
  | xdigit => .unions [.range 48 57, .range 65 70, .range 97 102]

/-- The decimal digits of all scripts. -/
def digitSet : CodeSet := Category.setOf [.decimalNumber]

/-- The characters of a class with a letter. -/
def LetterClass.set (unicode : Bool) : LetterClass → CodeSet
  | digit => if unicode then digitSet else AsciiClass.digit.set
  | space => if unicode then Property.whiteSpace else AsciiClass.space.set
  | word => if unicode then Property.word else AsciiClass.word.set

/-- A set in both cases, where case is ignored. -/
def Flags.fold (f : Flags) (s : CodeSet) : CodeSet :=
  if f.ignoreCase then if f.unicode then CaseFold.close s else closeAscii s else s

/-- A set or its complement. Among ASCII characters there is no complement. -/
def Flags.negateIf (f : Flags) (negated : Bool) (s : CodeSet) : Except Fault CodeSet :=
  if negated then if f.unicode then .ok s.complement else .error .malformed else .ok s

/-- The character of a literal, as far as it may stand in text: without the flag `u`, a byte that is
not ASCII is no character. -/
def Flags.char (f : Flags) (l : Literal) : Except Fault Char :=
  if !f.unicode && l.isByte && 128 ≤ l.char.toNat then .error .malformed else .ok l.char

/-- The character of a literal in a set, which without the flag `u` is ASCII. -/
def Flags.setChar (f : Flags) (l : Literal) : Except Fault Nat :=
  if !f.unicode && 128 ≤ l.char.toNat then .error .malformed else .ok l.char.toNat

/-- The characters that a query asks for, where classes may hold any. -/
def Flags.property (f : Flags) (negated : Bool) (q : Query) : Except Fault CodeSet :=
  if f.unicode then
    match propertySet? q with
    | some s => f.negateIf negated (f.fold s)
    | none => .error .malformed
  else .error .malformed

mutual

/-- The characters of a set. -/
def ClassSet.meaning (f : Flags) : ClassSet → Except Fault CodeSet
  | .empty => .ok .empty
  | .literal l => do return .single (← f.setChar l)
  | .range lo hi => do return .range (← f.setChar lo) (← f.setChar hi)
  | .ascii negated kind => f.negateIf negated (f.fold kind.set)
  | .letter negated kind => f.negateIf negated (kind.set f.unicode)
  | .property negated query => f.property negated query
  | .bracketed negated set => do f.negateIf negated (f.fold (← set.meaning f))
  | .union items => do return .unions (← ClassSet.meanings f items)
  | .binary op left right => do
    let l := f.fold (← left.meaning f)
    let r := f.fold (← right.meaning f)
    match op with
    | .inter => return l.inter r
    | .diff => return l.diff r
    | .symmDiff => return l.symmDiff r

/-- The characters of several sets. -/
def ClassSet.meanings (f : Flags) : List ClassSet → Except Fault (List CodeSet)
  | [] => .ok []
  | s :: ss => do
    let set ← s.meaning f
    return set :: (← ClassSet.meanings f ss)

end

/-- The characters that the dot matches. -/
def Flags.dot (f : Flags) : Except Fault CodeSet :=
  if !f.unicode then .error .malformed
  else if f.dotAll then .ok .all
  else if f.crlf then .ok (CodeSet.unions [.single 10, .single 13]).complement
  else .ok (CodeSet.single 10).complement

/-- The place that an anchor means. -/
def Anchor.look (f : Flags) : Anchor → Look
  | lineStart => if f.multiLine then if f.crlf then .startLineCrlf else .startLine else .start
  | lineEnd => if f.multiLine then if f.crlf then .stopLineCrlf else .stopLine else .stop
  | textStart => .start
  | textEnd => .stop
  | boundary => .boundary !f.unicode
  | notBoundary => .notBoundary !f.unicode
  | wordStart => .wordStart !f.unicode
  | wordEnd => .wordStop !f.unicode
  | wordStartHalf => .wordStartHalf !f.unicode
  | wordEndHalf => .wordStopHalf !f.unicode

mutual

/-- The expression of a tree, and the flags that are in force behind it. -/
def Node.meaning (f : Flags) : Node → Except Fault (Expr × Flags)
  | .empty => .ok (.empty, f)
  | .flags s => .ok (.empty, f.switchAll s)
  | .literal l => do return (.chars (f.fold (.single (← f.char l).toNat)), f)
  | .dot => do return (.chars (← f.dot), f)
  | .anchor a => .ok (.look (a.look f), f)
  | .letter negated kind => do return (.chars (← f.negateIf negated (kind.set f.unicode)), f)
  | .property negated query => do return (.chars (← f.property negated query), f)
  | .bracketed negated set => do
    return (.chars (← f.negateIf negated (f.fold (← set.meaning f))), f)
  | .repetition min max node => do
    let (e, f) ← node.meaning f
    return (.times min max e, f)
  | .group numbered s node => do
    let (e, _) ← node.meaning (f.switchAll s)
    return (if numbered then .group e else e, f)
  | .sequence nodes => do
    let (es, f) ← Node.meanings f nodes
    return (.ofSequence es, f)
  | .alternatives nodes => do
    let (es, f) ← Node.meanings f nodes
    return (.ofChoice es, f)

/-- The expressions of several trees, each under the flags in force behind the one before. -/
def Node.meanings (f : Flags) : List Node → Except Fault (List Expr × Flags)
  | [] => .ok ([], f)
  | n :: ns => do
    let (e, f) ← n.meaning f
    let (es, f) ← Node.meanings f ns
    return (e :: es, f)

end

end Targeting.Pattern
