import Targeting.Decimal.Layout
import Targeting.Json.Basic
import Targeting.Text.Hex

/-!
# Writing JSON

The compact form: no spaces, members in the order given. Numbers with a fraction show it even where
it is zero, and take an exponent when they are small or large. Of the characters in strings only the
quote, the backslash and the controls below the space are escaped.
-/

set_option autoImplicit false

namespace Targeting.Json

/-- Numbers from `10⁻⁵` up to below `10¹⁶` are positional, and whole ones end in `.0`; others take
an exponent with its sign. There is no spelling for other values than numbers: they are null. -/
def numberLayout : Layout where
  tie := .even
  positional := fun power => decide (-5 ≤ power) && decide (power < 16)
  wholeEnd := ".0"
  exponentUp := "e+"
  exponentDown := "e-"
  nanWord := "null"
  infinityWord := "null"

/-- A number in JSON. -/
def Number.text : Number → String
  | int n _ => toString n
  | real x _ => numberLayout.write x

/-- A character inside a JSON string. -/
def escape (c : Char) : List Char :=
  match c with
  | '"' => ['\\', '"']
  | '\\' => ['\\', '\\']
  | '\x08' => ['\\', 'b']
  | '\x0c' => ['\\', 'f']
  | '\n' => ['\\', 'n']
  | '\r' => ['\\', 'r']
  | '\t' => ['\\', 't']
  | c =>
    if c.toNat < 32 then
      ['\\', 'u', '0', '0', Text.hexDigit (c.toNat / 16), Text.hexDigit (c.toNat % 16)]
    else [c]

/-- A JSON string, with what follows it. -/
def writeString (s : String) (rest : List Char) : List Char :=
  '"' :: s.toList.flatMap escape ++ '"' :: rest

mutual

/-- A JSON value in compact form, with what follows it. -/
def write : Json → List Char → List Char
  | null, rest => 'n' :: 'u' :: 'l' :: 'l' :: rest
  | bool true, rest => 't' :: 'r' :: 'u' :: 'e' :: rest
  | bool false, rest => 'f' :: 'a' :: 'l' :: 's' :: 'e' :: rest
  | number n, rest => n.text.toList ++ rest
  | string s, rest => writeString s rest
  | array items, rest => '[' :: writeItems items (']' :: rest)
  | object members, rest => '\x7b' :: writeMembers members ('\x7d' :: rest)

/-- The items of an array with commas between them. -/
def writeItems : List Json → List Char → List Char
  | [], rest => rest
  | [v], rest => write v rest
  | v :: w :: vs, rest => write v (',' :: writeItems (w :: vs) rest)

/-- The members of an object with commas between them. -/
def writeMembers : List (String × Json) → List Char → List Char
  | [], rest => rest
  | [(name, v)], rest => writeString name (':' :: write v rest)
  | (name, v) :: m :: ms, rest =>
    writeString name (':' :: write v (',' :: writeMembers (m :: ms) rest))

end

/-- A JSON value as compact text. -/
def text (v : Json) : String :=
  String.ofList (write v [])

end Targeting.Json
