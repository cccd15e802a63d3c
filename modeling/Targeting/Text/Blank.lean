import Targeting.Unicode.Property

/-!
# Blank text

A name that holds nothing but white space names nothing. White space is the Unicode property: the
ASCII layout characters, the no-break space, the typographic spaces, and the line and paragraph
separators.
-/

set_option autoImplicit false

namespace Targeting.Text

/-- Is the character white space? -/
def isSpace (c : Char) : Bool :=
  Unicode.Property.whiteSpace.mem c.toNat

/-- Does the text hold nothing but white space? -/
def isBlank (s : String) : Bool :=
  s.toList.all isSpace

end Targeting.Text
