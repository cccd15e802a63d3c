import Targeting.Event
import Targeting.Table

/-!
# Equal conditions are shared

A condition that is put into the table again, with the same parts in the same order, is the one that
is there already. Whether two requests got the very same shared condition shows in the serial number
of the handle.
-/

set_option autoImplicit false

namespace Targeting

/-- A shared condition. -/
structure Handle where
  /-- Tells this shared condition from every other. -/
  serial : Nat
  condition : Condition
deriving DecidableEq

/-- The shared conditions, by what they say. -/
structure InternTable where
  table : Table Condition Handle
  /-- The serial number of the next handle. -/
  next : Nat

namespace InternTable

/-- Nothing is shared yet. -/
def empty : InternTable := ⟨.empty, 0⟩

instance : Inhabited InternTable := ⟨empty⟩

/-- How many conditions are shared. -/
def size (t : InternTable) : Nat :=
  t.table.size

/-- Forgets every condition. Serial numbers go on, since handles stay in use. -/
def clear (t : InternTable) : InternTable :=
  ⟨.empty, t.next⟩

/-- The shared condition that equals a given one, which is put into the table if there is none. -/
def intern (t : InternTable) (c : Condition) : Handle × InternTable × List Event :=
  match t.table.find? c with
  | some handle => (handle, t, [])
  | none =>
    let handle : Handle := ⟨t.next, c⟩
    (handle, ⟨t.table.insert c handle, t.next + 1⟩, [.interned c])

/-- Takes a condition out of the table, and returns its handle, which stays valid. -/
def forget (t : InternTable) (c : Condition) : Option Handle × InternTable :=
  (t.table.find? c, ⟨t.table.erase c, t.next⟩)

end InternTable

end Targeting
