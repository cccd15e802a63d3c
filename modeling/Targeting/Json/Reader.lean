import Targeting.Json.Fault
import Targeting.Json.Token

/-!
# Reading from tokens

A reader takes the tokens it needs from the front and returns the rest. `list` and `object` read the
inside of brackets and braces with a reader for what stands there, so a value is read in the order
of the text and the first fault met is the one reported. `Json.ofTokens` reads any value;
`skipValue` passes over one without looking at it, however deeply it nests.
-/

set_option autoImplicit false

namespace Targeting.Json

/-- Takes a value from the front of the tokens. -/
abbrev Reader (α : Type) : Type :=
  List Token → Except Fault (α × List Token)

/-- How many lists and objects may be open at once in a text. -/
def nestingLimit : Nat := 127

namespace Reader

variable {α σ : Type}

/-- The fault of finding another kind of value than the one wanted. -/
def wrongType (wanted : String) : List Token → Fault
  | .null :: _ => .wrongType .null wanted
  | .bool b :: _ => .wrongType (.bool b) wanted
  | .number (some n) :: _ => .wrongType (.number n) wanted
  | .string (some s) :: _ => .wrongType (.string s) wanted
  | .openBracket :: _ => .wrongType .sequence wanted
  | .openBrace :: _ => .wrongType .map wanted
  | _ => .malformed

/-- Passes over a colon. -/
def colon : List Token → Except Fault (List Token)
  | .colon :: ts => .ok ts
  | _ => .error .malformed

/-- Items with commas between them, up to the closing bracket; the first argument bounds their
number. -/
def items (item : Reader α) : Nat → Reader (List α)
  | 0, _ => .error .malformed
  | n + 1, ts => do
    let (a, ts) ← item ts
    match ts with
    | .comma :: ts =>
      let (as, ts) ← items item n ts
      return (a :: as, ts)
    | .closeBracket :: ts => return ([a], ts)
    | _ => throw .malformed

/-- The inside of brackets and the closing bracket. -/
def list (item : Reader α) : Reader (List α)
  | .closeBracket :: ts => .ok ([], ts)
  | ts => items item ts.length ts

/-- Members with commas between them, up to the closing brace. What has been read of the members
is carried along; `member` gets the name and reads from the colon on. -/
def members (member : σ → String → Reader σ) : Nat → σ → Reader σ
  | n + 1, state, .string (some name) :: ts => do
    let (state, ts) ← member state name ts
    match ts with
    | .comma :: ts => members member n state ts
    | .closeBrace :: ts => return (state, ts)
    | _ => throw .malformed
  | _, _, _ => .error .malformed

/-- The inside of braces and the closing brace. -/
def object (member : σ → String → Reader σ) (start : σ) : Reader σ
  | .closeBrace :: ts => .ok (start, ts)
  | ts => members member ts.length start ts

/-- A string; another value is not what was wanted. -/
def string (wanted : String) : Reader String
  | .string (some s) :: ts => .ok (s, ts)
  | ts => .error (wrongType wanted ts)

/-- A whole text read by a reader. -/
def complete (reader : Reader α) (text : String) : Except Fault α := do
  let (a, rest) ← reader (tokens text)
  match rest with
  | [] => return a
  | _ => throw .malformed

end Reader

/-- Any JSON value; the first argument is how many lists and objects may still be opened. -/
def ofTokens : Nat → Reader Json
  | _, .null :: ts => .ok (.null, ts)
  | _, .bool b :: ts => .ok (.bool b, ts)
  | _, .number (some n) :: ts => .ok (.number n, ts)
  | _, .string (some s) :: ts => .ok (.string s, ts)
  | depth + 1, .openBracket :: ts => do
    let (items, ts) ← Reader.list (ofTokens depth) ts
    return (.array items, ts)
  | depth + 1, .openBrace :: ts => do
    let member (members : List (String × Json)) (name : String) : Reader (List (String × Json)) :=
      fun ts => do
        let (value, ts) ← ofTokens depth (← Reader.colon ts)
        return ((name, value) :: members, ts)
    let (members, ts) ← Reader.object member [] ts
    return (.object members.reverse, ts)
  | _, _ => .error .malformed

/-- Reads a text as JSON, with a limit on nesting. -/
def read (depth : Nat) (text : String) : Except Fault Json :=
  Reader.complete (ofTokens depth) text

/-- Reads a text as JSON that may nest as deeply as its length allows. -/
def readAny (text : String) : Except Fault Json :=
  read text.length text

/-- What an open bracket or brace holds. -/
inductive Container where
  | array
  | object

/-- What may come next while a value is passed over. -/
inductive Awaiting where
  /-- A value. -/
  | value
  /-- A first item or member, or the end of what was just opened. -/
  | first (c : Container)
  /-- The name of a member. -/
  | name
  /-- The colon behind a name. -/
  | colon
  /-- A comma, or the end of the innermost container. -/
  | next

/-- Passes over the rest of a value inside the containers that are open, innermost first. -/
def skipFrom : Awaiting → List Container → Reader Unit
  | _, _, [] => .error .malformed
  | .colon, open_, .colon :: ts => skipFrom .value open_ ts
  | .name, open_, .string _ :: ts => skipFrom .colon open_ ts
  | .first .object, open_, .string _ :: ts => skipFrom .colon open_ ts
  | .next, .array :: open_, .comma :: ts => skipFrom .value (.array :: open_) ts
  | .next, .object :: open_, .comma :: ts => skipFrom .name (.object :: open_) ts
  | .next, .array :: open_, .closeBracket :: ts => close open_ ts
  | .first .array, _ :: open_, .closeBracket :: ts => close open_ ts
  | .next, .object :: open_, .closeBrace :: ts => close open_ ts
  | .first .object, _ :: open_, .closeBrace :: ts => close open_ ts
  | .value, open_, t :: ts => value open_ t ts
  | .first .array, open_, t :: ts => value open_ t ts
  | _, _, _ => .error .malformed
where
  /-- A container or a plain value is complete. -/
  close : List Container → Reader Unit
    | [], ts => .ok ((), ts)
    | c :: open_, ts => skipFrom .next (c :: open_) ts
  /-- A value starts with the given token. -/
  value (open_ : List Container) (t : Token) : Reader Unit := fun ts =>
    match t with
    | .null | .bool _ | .number _ | .string _ => close open_ ts
    | .openBracket => skipFrom (.first .array) (.array :: open_) ts
    | .openBrace => skipFrom (.first .object) (.object :: open_) ts
    | _ => .error .malformed

/-- Passes over one value of any kind. -/
def skipValue : Reader Unit :=
  skipFrom .value []

end Targeting.Json
