import Targeting.Condition.Basic
import Targeting.Text.Quoted

/-!
# Conditions as text for people

A composite is a bracket with its word and its parts; a leaf is a brace with its name, operator and
expected value. Expected texts are quoted, so that a text never looks like a number or a flag; names
are written as they are.

Every writer takes what follows as an argument.
-/

set_option autoImplicit false

namespace Targeting

/-- An expected value, with what follows it: texts quoted, others as for people. -/
def Value.writeExpected (v : Value) (rest : List Char) : List Char :=
  match v with
  | .text s => (Text.quote s).toList ++ rest
  | v => v.display.toList ++ rest

/-- A leaf, with what follows it. -/
def Leaf.write (l : Leaf) (rest : List Char) : List Char :=
  "\x7bname='".toList ++ l.name.toList ++ "', match='".toList ++ l.operator.text.toList ++
    "', value=".toList ++ l.value.writeExpected ('\x7d' :: rest)

/-- A leaf as text. -/
def Leaf.display (l : Leaf) : String :=
  String.ofList (l.write [])

namespace Condition

mutual

/-- A condition, with what follows it. -/
def write : Condition → List Char → List Char
  | and xs, rest => "[and".toList ++ writeParts xs (']' :: rest)
  | or xs, rest => "[or".toList ++ writeParts xs (']' :: rest)
  | not x, rest => "[not, ".toList ++ write x (']' :: rest)
  | leaf l, rest => l.write rest

/-- The parts of a composite, each behind a comma. -/
def writeParts : List Condition → List Char → List Char
  | [], rest => rest
  | x :: xs, rest => ',' :: ' ' :: write x (writeParts xs rest)

end

theorem write_and (xs : List Condition) (rest : List Char) :
    (and xs).write rest = "[and".toList ++ writeParts xs (']' :: rest) := rfl

theorem write_or (xs : List Condition) (rest : List Char) :
    (or xs).write rest = "[or".toList ++ writeParts xs (']' :: rest) := rfl

theorem write_not (x : Condition) (rest : List Char) :
    (not x).write rest = "[not, ".toList ++ x.write (']' :: rest) := rfl

theorem write_leaf (l : Leaf) (rest : List Char) : (leaf l).write rest = l.write rest := rfl

theorem writeParts_nil (rest : List Char) : writeParts [] rest = rest := rfl

theorem writeParts_cons (x : Condition) (xs : List Condition) (rest : List Char) :
    writeParts (x :: xs) rest = ',' :: ' ' :: x.write (writeParts xs rest) := rfl

/-- A condition as text. -/
def display (c : Condition) : String :=
  String.ofList (write c [])

end Condition

end Targeting
