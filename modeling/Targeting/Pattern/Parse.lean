import Targeting.Pattern.Tree
import Targeting.Text.Blank
import Targeting.Text.Hex

/-!
# Reading patterns

`parse` reads the text of a pattern as a tree, or finds that it is none. Every function takes the
characters that are left and returns those behind what it read. With the flag `x` white space and
comments are passed over between the parts of a pattern (`skip`).

There are no back references and no looking around, since neither can be matched in time
proportional to the text.
-/

set_option autoImplicit false

namespace Targeting.Pattern

namespace Parse

/-- The characters behind a comment: those after the next line end. -/
def afterLine : List Char → List Char
  | [] => []
  | '\n' :: cs => cs
  | _ :: cs => afterLine cs

/-- Passes over white space and comments; the first argument bounds their number. -/
def skipSpaced : Nat → List Char → List Char
  | 0, cs => cs
  | _, [] => []
  | n + 1, c :: cs =>
    if Text.isSpace c then skipSpaced n cs
    else if c == '#' then skipSpaced n (afterLine cs)
    else c :: cs

/-- Passes over white space and comments where they mean nothing. -/
def skip (spaced : Bool) (cs : List Char) : List Char :=
  if spaced then skipSpaced cs.length cs else cs

/-- The character behind the first one, which with the flag `x` is looked for past white space. A
number sign hides itself there, and the next character that is not white space counts. -/
def peek (spaced : Bool) : List Char → Option Char
  | [] => none
  | _ :: cs =>
    if spaced then
      match cs.dropWhile Text.isSpace with
      | '#' :: rest => (rest.dropWhile Text.isSpace).head?
      | rest => rest.head?
    else cs.head?

/-- Requires that something is left. -/
def more (cs : List Char) : Except Fault (List Char) :=
  if cs.isEmpty then .error .malformed else .ok cs

/-- The character with a number. -/
def charOf (n : Nat) : Except Fault Char :=
  if h : n.isValidChar then .ok (Char.ofNatAux n h) else .error .malformed

/-- A fixed number of hexadecimal digits, after those whose value is given. -/
def hexDigits (spaced : Bool) : Nat → Nat → List Char → Except Fault (Nat × List Char)
  | 0, value, cs => .ok (value, cs)
  | _, _, [] => .error .malformed
  | n + 1, value, c :: cs =>
    match Text.hexValue? c with
    | some d => hexDigits spaced n (value * 16 + d) (skip spaced cs)
    | none => .error .malformed

/-- Hexadecimal digits up to a closing brace, after those whose value is given, if any; the first
argument bounds their number. -/
def hexBraced (spaced : Bool) : Nat → Option Nat → List Char → Except Fault (Nat × List Char)
  | 0, _, _ => .error .malformed
  | n + 1, value, cs =>
    match skip spaced cs with
    | '\x7d' :: rest =>
      match value with
      | some v => .ok (v, rest)
      | none => .error .malformed
    | c :: rest =>
      match Text.hexValue? c with
      | some d => hexBraced spaced n (some (value.getD 0 * 16 + d)) rest
      | none => .error .malformed
    | [] => .error .malformed

/-- A character by its number, from behind the letter that introduces it; the letter gives the
number of digits where they are not in braces. -/
def hex (spaced : Bool) (digits : Nat) (cs : List Char) : Except Fault (Literal × List Char) := do
  match ← more (skip spaced cs) with
  | '\x7b' :: rest =>
    let (n, rest) ← hexBraced spaced (rest.length + 1) none rest
    return ({ char := ← charOf n }, rest)
  | cs =>
    let (n, rest) ← hexDigits spaced digits 0 cs
    return ({ char := ← charOf n, isByte := digits == 2 }, rest)

/-- The characters up to a closing brace; the first argument bounds their number. -/
def braced (spaced : Bool) : Nat → List Char → Except Fault (List Char × List Char)
  | 0, _ => .error .malformed
  | n + 1, cs =>
    match skip spaced cs with
    | '\x7d' :: rest => .ok ([], rest)
    | c :: rest => do
      let (name, rest) ← braced spaced n rest
      return (c :: name, rest)
    | [] => .error .malformed

/-- Splits a name in two at a sign, if it is there. -/
def splitAt? (sign : List Char) : List Char → Option (List Char × List Char)
  | [] => none
  | c :: cs =>
    if sign.isPrefixOf (c :: cs) then some ([], (c :: cs).drop sign.length)
    else (splitAt? sign cs).map fun parts => (c :: parts.1, parts.2)

/-- The property that a name in braces asks for. -/
def queryOf (name : List Char) : Query :=
  let parts? :=
    (splitAt? ['!', '='] name) <|> (splitAt? [':'] name) <|> (splitAt? ['='] name)
  match parts? with
  | some (property, value) => .value (String.ofList property) (String.ofList value)
  | none => .name (String.ofList name)

/-- A property, from behind the letter that introduces it. -/
def property (spaced : Bool) (cs : List Char) : Except Fault (Query × List Char) := do
  match ← more (skip spaced cs) with
  | '\x7b' :: rest =>
    let (name, rest) ← braced spaced (rest.length + 1) rest
    return (queryOf name, rest)
  | '\\' :: _ => throw .malformed
  | c :: rest => return (.letter c, skip spaced rest)
  | [] => throw .malformed

/-- Is the character part of the pattern language? -/
def isMeta (c : Char) : Bool :=
  "\\.+*?()|[]\x7b\x7d^$#&-~".toList.contains c

/-- May the character stand behind a backslash for itself? Letters and digits are kept for meanings
of their own, and so are the angle brackets. -/
def isEscapable (c : Char) : Bool :=
  isMeta c || (c.toNat < 128 && !c.isAlphanum && c != '<' && c != '>')

/-- Something that is not made of other parts. -/
inductive Primitive where
  | literal (l : Literal)
  | dot
  | anchor (a : Anchor)
  | letter (negated : Bool) (kind : LetterClass)
  | property (negated : Bool) (query : Query)

/-- Letters and hyphens, white space between them passed over; the first argument bounds their
number. -/
def boundaryWord (spaced : Bool) : Nat → List Char → List Char × List Char
  | 0, cs => ([], cs)
  | _, [] => ([], [])
  | n + 1, c :: cs =>
    if c.isAlpha || c == '-' then
      let (word, rest) := boundaryWord spaced n (skip spaced cs)
      (c :: word, rest)
    else ([], c :: cs)

/-- A word boundary, from behind its letter. A word in braces behind it gives another kind of
boundary; braces that hold no word are left, since they may be a repetition. -/
def boundary (spaced : Bool) (cs : List Char) : Except Fault (Anchor × List Char) := do
  match cs with
  | '\x7b' :: inner =>
    let inner ← more (skip spaced inner)
    let (word, rest) := boundaryWord spaced inner.length inner
    if word.isEmpty then return (.boundary, cs)
    else
      match rest with
      | '\x7d' :: rest =>
        match String.ofList word with
        | "start" => return (.wordStart, rest)
        | "end" => return (.wordEnd, rest)
        | "start-half" => return (.wordStartHalf, rest)
        | "end-half" => return (.wordEndHalf, rest)
        | _ => throw .malformed
      | _ => throw .malformed
  | _ => return (.boundary, cs)

/-- What stands behind a backslash. -/
def escape (spaced : Bool) : List Char → Except Fault (Primitive × List Char)
  | [] => .error .malformed
  | c :: cs => do
    if c.isDigit then throw .malformed
    else if isEscapable c then return (.literal { char := c }, cs)
    else
      match c with
      | 'x' => let (l, cs) ← hex spaced 2 cs; return (.literal l, cs)
      | 'u' => let (l, cs) ← hex spaced 4 cs; return (.literal l, cs)
      | 'U' => let (l, cs) ← hex spaced 8 cs; return (.literal l, cs)
      | 'p' => let (q, cs) ← property spaced cs; return (.property false q, cs)
      | 'P' => let (q, cs) ← property spaced cs; return (.property true q, cs)
      | 'd' => return (.letter false .digit, cs)
      | 'D' => return (.letter true .digit, cs)
      | 's' => return (.letter false .space, cs)
      | 'S' => return (.letter true .space, cs)
      | 'w' => return (.letter false .word, cs)
      | 'W' => return (.letter true .word, cs)
      | 'a' => return (.literal { char := '\x07' }, cs)
      | 'f' => return (.literal { char := '\x0c' }, cs)
      | 't' => return (.literal { char := '\t' }, cs)
      | 'n' => return (.literal { char := '\n' }, cs)
      | 'r' => return (.literal { char := '\r' }, cs)
      | 'v' => return (.literal { char := '\x0b' }, cs)
      | 'A' => return (.anchor .textStart, cs)
      | 'z' => return (.anchor .textEnd, cs)
      | 'b' => let (a, cs) ← boundary spaced cs; return (.anchor a, cs)
      | 'B' => return (.anchor .notBoundary, cs)
      | '<' => return (.anchor .wordStart, cs)
      | '>' => return (.anchor .wordEnd, cs)
      | _ => throw .malformed

/-- The class of ASCII characters with a name. -/
def asciiClass? : String → Option AsciiClass
  | "alnum" => some .alnum
  | "alpha" => some .alpha
  | "ascii" => some .ascii
  | "blank" => some .blank
  | "cntrl" => some .cntrl
  | "digit" => some .digit
  | "graph" => some .graph
  | "lower" => some .lower
  | "print" => some .print
  | "punct" => some .punct
  | "space" => some .space
  | "upper" => some .upper
  | "word" => some .word
  | "xdigit" => some .xdigit
  | _ => none

/-- A named class between colons and brackets, from behind its first bracket. Anything else there
is an ordinary set. -/
def namedClass? : List Char → Option (ClassSet × List Char)
  | ':' :: cs =>
    let (negated, cs) :=
      match cs with
      | '^' :: cs => (true, cs)
      | cs => (false, cs)
    let name := cs.takeWhile (· != ':')
    match cs.dropWhile (· != ':') with
    | ':' :: ']' :: rest =>
      (asciiClass? (String.ofList name)).map fun kind => (.ascii negated kind, rest)
    | _ => none
  | _ => none

/-- One part of a set: an escape, or a character that stands for itself. -/
def setPrimitive (spaced : Bool) : List Char → Except Fault (Primitive × List Char)
  | [] => .error .malformed
  | '\\' :: cs => escape spaced cs
  | c :: cs => .ok (.literal { char := c }, cs)

/-- A part as an item of a set; anchors and the dot are none. -/
def itemOf : Primitive → Except Fault ClassSet
  | .literal l => .ok (.literal l)
  | .letter negated kind => .ok (.letter negated kind)
  | .property negated query => .ok (.property negated query)
  | .dot => .error .malformed
  | .anchor _ => .error .malformed

/-- A part as an end of a range, which only a character can be. -/
def endOf : Primitive → Except Fault Literal
  | .literal l => .ok l
  | _ => .error .malformed

/-- An item of a set, or a range of characters. A hyphen before the closing bracket, or before
another hyphen, makes no range. -/
def setItem (spaced : Bool) (cs : List Char) : Except Fault (ClassSet × List Char) := do
  let (first, cs) ← setPrimitive spaced cs
  let cs ← more (skip spaced cs)
  if cs.head? != some '-' || peek spaced cs == some ']' || peek spaced cs == some '-' then
    return (← itemOf first, cs)
  else
    let cs ← more (skip spaced cs.tail)
    let (second, cs) ← setPrimitive spaced cs
    let lo ← endOf first
    let hi ← endOf second
    if lo.char ≤ hi.char then return (.range lo hi, cs) else throw .malformed

/-- Hyphens at the front of a set stand for themselves; the first argument bounds their number. -/
def leadingHyphens (spaced : Bool) : Nat → List Char → Except Fault (List ClassSet × List Char)
  | n + 1, '-' :: cs => do
    let cs ← more (skip spaced cs)
    let (items, cs) ← leadingHyphens spaced n cs
    return (.literal { char := '-' } :: items, cs)
  | _, cs => .ok ([], cs)

/-- The start of a set, from behind its bracket: is it negated, and which items stand for themselves
only there? -/
def openSet (spaced : Bool) (cs : List Char) :
    Except Fault ((Bool × List ClassSet) × List Char) := do
  let cs ← more (skip spaced cs)
  let (negated, cs) ←
    match cs with
    | '^' :: cs => pure (true, ← more (skip spaced cs))
    | cs => pure (false, cs)
  let (items, cs) ← leadingHyphens spaced cs.length cs
  match items, cs with
  | [], ']' :: cs => return ((negated, [.literal { char := ']' }]), ← more (skip spaced cs))
  | _, _ => return ((negated, items), cs)

/-- A set operation that waits for its right side. -/
abbrev Pending : Type := Option (SetOp × ClassSet)

/-- Applies the operation that waits to what was read since. -/
def settle (pending : Pending) (items : List ClassSet) : ClassSet :=
  match pending with
  | some (op, left) => .binary op left (.ofItems items.reverse)
  | none => .ofItems items.reverse

/-- The set operation that starts here. -/
def setOp? : List Char → Option (SetOp × List Char)
  | '&' :: '&' :: cs => some (.inter, cs)
  | '-' :: '-' :: cs => some (.diff, cs)
  | '~' :: '~' :: cs => some (.symmDiff, cs)
  | _ => none

/-- The inside of a set up to its closing bracket: the operation that waits, and the items read
since, latest first. The first argument bounds the number of parts. -/
def setBody (spaced : Bool) :
    Nat → Pending → List ClassSet → List Char → Except Fault (ClassSet × List Char)
  | 0, _, _, _ => .error .malformed
  | n + 1, pending, items, cs =>
    match skip spaced cs with
    | [] => .error .malformed
    | ']' :: cs => .ok (settle pending items, cs)
    | '[' :: cs =>
      match namedClass? cs with
      | some (item, cs) => setBody spaced n pending (item :: items) cs
      | none => do
        let ((negated, front), cs) ← openSet spaced cs
        let (inner, cs) ← setBody spaced n none front.reverse cs
        setBody spaced n pending (.bracketed negated inner :: items) cs
    | cs =>
      match setOp? cs with
      | some (op, cs) => setBody spaced n (some (op, settle pending items)) [] cs
      | none => do
        let (item, cs) ← setItem spaced cs
        setBody spaced n pending (item :: items) cs

/-- A set in brackets, from behind the opening one. -/
def bracketed (spaced : Bool) (cs : List Char) : Except Fault (Node × List Char) := do
  let ((negated, front), cs) ← openSet spaced cs
  let (set, cs) ← setBody spaced (cs.length + 1) none front.reverse cs
  return (.bracketed negated set, cs)

/-- A decimal number, and white space around it. It fits a word of 32 bits. -/
def decimal (spaced : Bool) (cs : List Char) : Except Fault (Nat × List Char) := do
  let cs := cs.dropWhile Text.isSpace
  let (digits, cs) := digitsOf spaced cs.length cs
  let cs := skip spaced (cs.dropWhile Text.isSpace)
  let n := Nat.ofDigitChars 10 digits 0
  if digits.isEmpty || decide (Nat.pow 2 32 ≤ n) then throw .malformed
  return (n, cs)
where
  /-- The digits at the front. -/
  digitsOf (spaced : Bool) : Nat → List Char → List Char × List Char
    | 0, cs => ([], cs)
    | _, [] => ([], [])
    | n + 1, c :: cs =>
      if c.isDigit then
        let (digits, rest) := digitsOf spaced n (skip spaced cs)
        (c :: digits, rest)
      else ([], c :: cs)

/-- A mark that makes a repetition prefer fewer. -/
def lazyMark : List Char → List Char
  | '?' :: cs => cs
  | cs => cs

/-- The bounds of a repetition, from behind the opening brace. -/
def bounds (spaced : Bool) (cs : List Char) : Except Fault ((Nat × Option Nat) × List Char) := do
  let (low, cs) ← decimal spaced (← more (skip spaced cs))
  match cs with
  | '\x7d' :: cs => return ((low, some low), lazyMark (skip spaced cs))
  | ',' :: cs =>
    match ← more (skip spaced cs) with
    | '\x7d' :: cs => return ((low, none), lazyMark (skip spaced cs))
    | cs =>
      let (high, cs) ← decimal spaced cs
      match cs with
      | '\x7d' :: cs =>
        if low ≤ high then return ((low, some high), lazyMark (skip spaced cs))
        else throw .malformed
      | _ => throw .malformed
  | _ => throw .malformed

/-- Repeats the part read last, which may be no switch. -/
def repeatLast (min : Nat) (max : Option Nat) : List Node → Except Fault (List Node)
  | [] => .error .malformed
  | .empty :: _ => .error .malformed
  | .flags _ :: _ => .error .malformed
  | node :: nodes => .ok (.repetition min max node :: nodes)

/-- The flag with a letter. -/
def flag? : Char → Option Flag
  | 'i' => some .ignoreCase
  | 'm' => some .multiLine
  | 's' => some .dotAll
  | 'U' => some .lazy
  | 'u' => some .unicode
  | 'R' => some .crlf
  | 'x' => some .spaced
  | _ => none

/-- Switches up to a colon or a closing parenthesis, which is left. No flag comes twice, and a
hyphen comes once and before a flag; `negated` tells that it has come, and `dangling` that no flag
has come since. -/
def switches : Bool → Bool → Switches → List Char → Except Fault (Switches × List Char)
  | _, _, _, [] => .error .malformed
  | negated, dangling, done, c :: cs =>
    if c == ':' || c == ')' then
      if dangling then .error .malformed else .ok (done.reverse, c :: cs)
    else if c == '-' then
      if negated then .error .malformed else switches true true done cs
    else
      match flag? c with
      | none => .error .malformed
      | some f =>
        if done.any (·.1 == f) then .error .malformed
        else switches negated false ((f, !negated) :: done) cs

/-- May the character stand in the name of a group? Not all may stand first. -/
def isNameChar (first : Bool) (c : Char) : Bool :=
  if first then c == '_' || Unicode.Property.alphabetic.mem c.toNat
  else c == '_' || c == '.' || c == '[' || c == ']' || Unicode.Property.alphabetic.mem c.toNat ||
    numeric.mem c.toNat
where
  /-- Digits and other numbers. -/
  numeric : Unicode.CodeSet :=
    Unicode.Category.setOf [.decimalNumber, .letterNumber, .otherNumber]

/-- The name of a group up to a closing angle bracket; it is not empty. -/
def groupName (cs : List Char) : Except Fault (String × List Char) := do
  let name := cs.takeWhile (· != '>')
  match name, cs.dropWhile (· != '>') with
  | c :: more, '>' :: rest =>
    if isNameChar true c && more.all (isNameChar false) then return (String.ofList name, rest)
    else throw .malformed
  | _, _ => throw .malformed

/-- What an opening parenthesis starts. -/
inductive Opening where
  /-- Switches for the rest of the group around it. -/
  | switches (s : Switches)
  /-- A group, perhaps with a name or with switches for its inside. -/
  | group (name? : Option String) (numbered : Bool) (s : Switches)

/-- What stands behind an opening parenthesis, before the inside of the group. -/
def opening (spaced : Bool) (cs : List Char) : Except Fault (Opening × List Char) := do
  match skip spaced cs with
  | '?' :: '=' :: _ => throw .malformed
  | '?' :: '!' :: _ => throw .malformed
  | '?' :: '<' :: '=' :: _ => throw .malformed
  | '?' :: '<' :: '!' :: _ => throw .malformed
  | '?' :: 'P' :: '<' :: cs => let (name, cs) ← groupName cs; return (.group name true [], cs)
  | '?' :: '<' :: cs => let (name, cs) ← groupName cs; return (.group name true [], cs)
  | '?' :: cs =>
    let (s, cs) ← switches false false [] cs
    match cs with
    | ')' :: cs => if s.isEmpty then throw .malformed else return (.switches s, cs)
    | _ :: cs => return (.group none false s, cs)
    | [] => throw .malformed
  | cs => return (.group none true [], cs)

/-- Whether white space means nothing after some switches. -/
def spacedAfter (spaced : Bool) (s : Switches) : Bool :=
  (s.lookup .spaced).getD spaced

/-- What has been read of a group: the names of groups so far in the whole pattern, the complete
alternatives and the parts of the one under way, both latest first. -/
structure Progress where
  names : List String
  branches : List Node := []
  parts : List Node := []

/-- The group as read so far. -/
def Progress.node (p : Progress) : Node :=
  .ofAlternatives (Node.ofSequence p.parts.reverse :: p.branches).reverse

/-- Puts a part with those read. -/
def Progress.push (p : Progress) (node : Node) : Progress :=
  { p with parts := node :: p.parts }

/-- A part that is not made of others, as a tree. -/
def nodeOf : Primitive → Node
  | .literal l => .literal l
  | .dot => .dot
  | .anchor a => .anchor a
  | .letter negated kind => .letter negated kind
  | .property negated query => .property negated query

/-- The inside of a group up to a closing parenthesis or the end, either of which is left. The first
argument bounds the number of parts. -/
def body (spaced : Bool) :
    Nat → Progress → List Char → Except Fault ((Node × List String) × List Char)
  | 0, _, _ => .error .malformed
  | n + 1, p, cs =>
    match skip spaced cs with
    | [] => .ok ((p.node, p.names), [])
    | c :: cs =>
      match c with
      | ')' => .ok ((p.node, p.names), c :: cs)
      | '|' => body spaced n ⟨p.names, .ofSequence p.parts.reverse :: p.branches, []⟩ cs
      | '(' => do
        match ← opening spaced cs with
        | (.switches s, cs) => body (spacedAfter spaced s) n (p.push (.flags s)) cs
        | (.group name? numbered s, cs) =>
          if name?.any p.names.contains then throw .malformed
          let names := name?.toList ++ p.names
          let ((inner, names), cs) ← body (spacedAfter spaced s) n { names } cs
          match cs with
          | ')' :: cs => body spaced n ({ p with names }.push (.group numbered s inner)) cs
          | _ => throw .malformed
      | '[' => do
        let (node, cs) ← bracketed spaced cs
        body spaced n (p.push node) cs
      | '?' => do body spaced n { p with parts := ← repeatLast 0 (some 1) p.parts } (lazyMark cs)
      | '*' => do body spaced n { p with parts := ← repeatLast 0 none p.parts } (lazyMark cs)
      | '+' => do body spaced n { p with parts := ← repeatLast 1 none p.parts } (lazyMark cs)
      | '\x7b' => do
        let ((min, max), cs) ← bounds spaced cs
        body spaced n { p with parts := ← repeatLast min max p.parts } cs
      | '\\' => do
        let (part, cs) ← escape spaced cs
        body spaced n (p.push (nodeOf part)) cs
      | '.' => body spaced n (p.push .dot) cs
      | '^' => body spaced n (p.push (.anchor .lineStart)) cs
      | '$' => body spaced n (p.push (.anchor .lineEnd)) cs
      | c => body spaced n (p.push (.literal { char := c })) cs

end Parse

/-- A pattern as a tree. -/
def parse (pattern : String) : Except Fault Node := do
  let cs := pattern.toList
  let ((node, _), rest) ← Parse.body false (cs.length + 1) { names := [] } cs
  if rest.isEmpty && decide (node.depth ≤ Node.depthLimit) then return node
  else throw .malformed

end Targeting.Pattern
