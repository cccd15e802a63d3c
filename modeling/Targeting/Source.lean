import Std.Data.HashMap
import Std.Data.TreeMap
import Targeting.Table
import Targeting.Value

/-!
# Where attributes come from

A rule looks attributes up by name and does nothing else with them, so anything that answers for a
name can be a `Source`: a table of attributes, the standard maps, or a plain function.
-/

set_option autoImplicit false

namespace Targeting

/-- Something that knows attributes by name. -/
class Source (σ : Type) where
  /-- The value under a name, if there is an entry. -/
  lookup : σ → String → Option Value

/-- The attributes of one user, by name. -/
abbrev Attributes : Type := Table String Value

instance : Source Attributes := ⟨Table.find?⟩

instance : Source (Std.HashMap String Value) := ⟨fun m name => m[name]?⟩

instance : Source (Std.TreeMap String Value) := ⟨fun m name => m[name]?⟩

instance : Source (String → Option Value) := ⟨id⟩

/-- Attributes in a hash map. -/
def Attributes.toHashMap (a : Attributes) : Std.HashMap String Value :=
  .ofList a.entries

/-- Attributes in a search tree. -/
def Attributes.toTreeMap (a : Attributes) : Std.TreeMap String Value :=
  .ofList a.entries

end Targeting
