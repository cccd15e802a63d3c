import Targeting.Json.Numeral
import Targeting.Text.Hex

/-!
# Tokens of JSON text

`tokens` cuts a text into tokens, without the white space between them. A text that stops being JSON
ends in the token `invalid`, so a reader of tokens fails no earlier than at the first fault. Two
faults leave the spelling of a token intact and show only to a reader that wants its value: a number
beyond the range of 64 bits and a string with half of a surrogate pair.
-/

set_option autoImplicit false

namespace Targeting.Json

/-- A token of JSON text. -/
inductive Token where
  | openBrace
  | closeBrace
  | openBracket
  | closeBracket
  | comma
  | colon
  | null
  | bool (b : Bool)
  /-- A number; without a value if it is too large. -/
  | number (n : Option Number)
  /-- A string; without a value if it holds half of a surrogate pair. -/
  | string (s : Option String)
  /-- Something that starts no token. -/
  | invalid
deriving DecidableEq, Inhabited

namespace Token

/-- White space between tokens. -/
def isSpace (c : Char) : Bool :=
  c == ' ' || c == '\n' || c == '\t' || c == '\r'

/-- A part of a string: a character, or a unit of 16 bits given by its number. -/
inductive Piece where
  | char (c : Char)
  | unit (n : Nat)

/-- The character that a backslash and a letter stand for. -/
def shortEscape? (c : Char) : Option Char :=
  match c with
  | '"' => some '"'
  | '\\' => some '\\'
  | '/' => some '/'
  | 'b' => some '\x08'
  | 'f' => some '\x0c'
  | 'n' => some '\n'
  | 'r' => some '\r'
  | 't' => some '\t'
  | _ => none

/-- The pieces of a string up to its closing quote, and what follows it. -/
def pieces : List Char → Option (List Piece × List Char)
  | [] => none
  | '"' :: rest => some ([], rest)
  | '\\' :: 'u' :: a :: b :: c :: d :: rest => do
    let n :=
      (← Text.hexValue? a) * 4096 + (← Text.hexValue? b) * 256 + (← Text.hexValue? c) * 16 +
        (← Text.hexValue? d)
    let (ps, rest) ← pieces rest
    return (.unit n :: ps, rest)
  | '\\' :: e :: rest => do
    let c ← shortEscape? e
    let (ps, rest) ← pieces rest
    return (.char c :: ps, rest)
  | c :: rest =>
    if c == '\\' || c.toNat < 32 then none
    else do
      let (ps, rest) ← pieces rest
      return (.char c :: ps, rest)

/-- Is the unit the first half of a surrogate pair? -/
def isHigh (n : Nat) : Bool := decide (0xd800 ≤ n) && decide (n < 0xdc00)

/-- Is the unit the second half of a surrogate pair? -/
def isLow (n : Nat) : Bool := decide (0xdc00 ≤ n) && decide (n < 0xe000)

/-- The characters of a string's pieces, two units that form a pair being one character; none if a
half stands alone. -/
def characters : List Piece → Option (List Char)
  | [] => some []
  | .char c :: rest => (characters rest).map (c :: ·)
  | .unit high :: .unit low :: rest =>
    if isHigh high then
      if isLow low then
        let c := Char.ofNat (0x10000 + (high - 0xd800) * 0x400 + (low - 0xdc00))
        (characters rest).map (c :: ·)
      else none
    else if isLow high then none
    else (characters (.unit low :: rest)).map (Char.ofNat high :: ·)
  | .unit n :: rest =>
    if isHigh n || isLow n then none else (characters rest).map (Char.ofNat n :: ·)

/-- A string token, from behind its opening quote. -/
def string? (cs : List Char) : Option (Token × List Char) := do
  let (ps, rest) ← pieces cs
  return (.string ((characters ps).map String.ofList), rest)

/-- The number that a run of decimal digits stands for. -/
def natOf (digits : List Char) : Nat :=
  Nat.ofDigitChars 10 digits 0

/-- The digits of a fraction, from the point on, and what follows; none if a point has no digits. -/
def fraction? : List Char → Option (List Char × List Char)
  | '.' :: rest =>
    let digits := rest.takeWhile Char.isDigit
    if digits.isEmpty then none else some (digits, rest.dropWhile Char.isDigit)
  | rest => some ([], rest)

/-- The value of an exponent, from its letter on, and what follows; an absent one has no value. -/
def exponent? (cs : List Char) : Option (Option Int × List Char) :=
  match cs with
  | e :: rest =>
    if e == 'e' || e == 'E' then
      let (negative, rest) :=
        match rest with
        | '-' :: r => (true, r)
        | '+' :: r => (false, r)
        | r => (false, r)
      let digits := rest.takeWhile Char.isDigit
      let size : Int := natOf digits
      if digits.isEmpty then none
      else some (some (if negative then -size else size), rest.dropWhile Char.isDigit)
    else some (none, cs)
  | [] => some (none, [])

/-- A number token without its sign. -/
def unsigned? (negative : Bool) (cs : List Char) : Option (Token × List Char) := do
  let whole := cs.takeWhile Char.isDigit
  if whole.isEmpty || (whole.head? == some '0' && 1 < whole.length) then none
  else
    let (decimals, rest) ← fraction? (cs.dropWhile Char.isDigit)
    let (exponent, rest) ← exponent? rest
    return (.number (Number.ofDigits? negative whole decimals exponent), rest)

/-- The token that starts with a character, and what follows it. -/
def first? (c : Char) (rest : List Char) : Option (Token × List Char) :=
  match c with
  | '\x7b' => some (.openBrace, rest)
  | '\x7d' => some (.closeBrace, rest)
  | '[' => some (.openBracket, rest)
  | ']' => some (.closeBracket, rest)
  | ',' => some (.comma, rest)
  | ':' => some (.colon, rest)
  | '"' => string? rest
  | '-' => unsigned? true rest
  | 'n' =>
    match rest with
    | 'u' :: 'l' :: 'l' :: rest => some (.null, rest)
    | _ => none
  | 't' =>
    match rest with
    | 'r' :: 'u' :: 'e' :: rest => some (.bool true, rest)
    | _ => none
  | 'f' =>
    match rest with
    | 'a' :: 'l' :: 's' :: 'e' :: rest => some (.bool false, rest)
    | _ => none
  | c => if c.isDigit then unsigned? false (c :: rest) else none

/-- The tokens of a text; the first argument bounds their number. -/
def scan : Nat → List Char → List Token
  | 0, _ => []
  | n + 1, cs =>
    match cs.dropWhile isSpace with
    | [] => []
    | c :: rest =>
      match first? c rest with
      | some (t, rest) => t :: scan n rest
      | none => [.invalid]

end Token

/-- The tokens of a text. -/
def tokens (s : String) : List Token :=
  let cs := s.toList
  Token.scan cs.length cs

end Targeting.Json
