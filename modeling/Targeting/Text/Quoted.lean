import Targeting.Unicode.Property

/-!
# Quoted text

A text between double quotes, written so that every character can be seen: quotes, backslashes and
the common controls have escapes of their own, and other characters that leave no mark of their own
(controls, unassigned code points, separators, characters that attach to the one before) are given
by their number.
-/

set_option autoImplicit false

namespace Targeting.Text

/-- Code points that leave no mark of their own on paper. -/
def unseen : Unicode.CodeSet :=
  ((Unicode.Category.setOf [.control, .format, .surrogate, .privateUse, .unassigned, .lineSeparator,
    .paragraphSeparator, .spaceSeparator]).union Unicode.Property.graphemeExtend).diff
      (.single ' '.toNat)

/-- The changes of `unseen`, for searching. -/
def unseenFlips : Array Nat :=
  unseen.flips.toArray

/-- Is the character written by its number? Characters of printed ASCII never are. -/
def needsNumber (c : Char) : Bool :=
  !(' ' ≤ c && c ≤ '~') && Unicode.CodeSet.memArray unseenFlips c.toNat

/-- A character by its number in hexadecimal digits. -/
def numbered (c : Char) : List Char :=
  '\\' :: 'u' :: '\x7b' :: Nat.toDigits 16 c.toNat ++ ['\x7d']

/-- A character as it stands in quoted text. -/
def escape (c : Char) : List Char :=
  match c with
  | '"' => ['\\', '"']
  | '\\' => ['\\', '\\']
  | '\n' => ['\\', 'n']
  | '\r' => ['\\', 'r']
  | '\t' => ['\\', 't']
  | '\x00' => ['\\', '0']
  | c => if needsNumber c then numbered c else [c]

/-- The characters of a text as they stand between the quotes. -/
def escapeAll (cs : List Char) : List Char :=
  cs.flatMap escape

/-- The text between double quotes. -/
def quote (s : String) : String :=
  String.ofList ('"' :: escapeAll s.toList ++ ['"'])

end Targeting.Text
