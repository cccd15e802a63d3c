import Targeting.Value

/-!
# Conditions

A leaf tests one attribute by an operator against an expected value; a condition combines leaves
with and, or and not. Two conditions are equal when they have the same shape and the same leaves in
the same order: `beq` decides that, and `hash` agrees with it, so conditions can be keys.

`size` counts the nodes of a condition and `depth` those on a longest way down.
-/

set_option autoImplicit false

namespace Targeting

/-- How a leaf compares an attribute with the expected value. -/
inductive Operator where
  /-- The attribute equals the value, of the same kind. -/
  | exact
  /-- The attribute is there and not null. -/
  | present
  /-- The text contains the value. -/
  | substring
  /-- The number is greater than the value. -/
  | gt
  /-- The number is greater than the value or equal to it. -/
  | ge
  /-- The number is less than the value. -/
  | lt
  /-- The number is less than the value or equal to it. -/
  | le
  /-- The text matches the value, which is a pattern. -/
  | regex
deriving DecidableEq, Repr, Hashable, Inhabited

namespace Operator

/-- The word for an operator, in texts for people and in stored data. -/
def text : Operator → String
  | exact => "exact"
  | present => "exists"
  | substring => "substring"
  | gt => "gt"
  | ge => "ge"
  | lt => "lt"
  | le => "le"
  | regex => "regex"

/-- Does the operator compare numbers? -/
def isNumeric : Operator → Bool
  | gt | ge | lt | le => true
  | _ => false

/-- Every operator, in the order in which its word is offered to a reader. -/
def every : List Operator := [exact, present, substring, gt, ge, lt, le, regex]

end Operator

/-- A test of one attribute. -/
structure Leaf where
  name : String
  operator : Operator
  value : Value
deriving DecidableEq, Hashable, Inhabited

/-- A rule over a user's attributes. -/
inductive Condition where
  /-- Every part holds; with no parts it holds. -/
  | and (parts : List Condition)
  /-- Some part holds; with no parts it does not. -/
  | or (parts : List Condition)
  /-- The part does not hold. -/
  | not (part : Condition)
  /-- The test succeeds. -/
  | leaf (test : Leaf)
deriving Inhabited

namespace Condition

mutual

/-- Same shape, same leaves in the same order? -/
def beq : Condition → Condition → Bool
  | and xs, and ys => beqList xs ys
  | or xs, or ys => beqList xs ys
  | not x, not y => beq x y
  | leaf l, leaf m => l == m
  | _, _ => false

/-- As many parts, equal one by one? -/
def beqList : List Condition → List Condition → Bool
  | [], [] => true
  | x :: xs, y :: ys => beq x y && beqList xs ys
  | _, _ => false

end

mutual

theorem beq_refl : (x : Condition) → beq x x = true
  | and xs => by simp only [beq]; exact beqList_refl xs
  | or xs => by simp only [beq]; exact beqList_refl xs
  | not x => by simp only [beq]; exact beq_refl x
  | leaf l => by simp [beq]

theorem beqList_refl : (xs : List Condition) → beqList xs xs = true
  | [] => rfl
  | x :: xs => by simp [beqList, beq_refl x, beqList_refl xs]

end

mutual

theorem eq_of_beq : (x y : Condition) → beq x y = true → x = y
  | and xs, y, h => by
    cases y with
    | and ys => rw [eq_of_beqList xs ys (by simpa only [beq] using h)]
    | _ => simp [beq] at h
  | or xs, y, h => by
    cases y with
    | or ys => rw [eq_of_beqList xs ys (by simpa only [beq] using h)]
    | _ => simp [beq] at h
  | not x, y, h => by
    cases y with
    | not y => rw [eq_of_beq x y (by simpa only [beq] using h)]
    | _ => simp [beq] at h
  | leaf l, y, h => by
    cases y with
    | leaf m => simp only [beq, beq_iff_eq] at h; rw [h]
    | _ => simp [beq] at h

theorem eq_of_beqList : (xs ys : List Condition) → beqList xs ys = true → xs = ys
  | [], ys, h => by
    cases ys with
    | nil => rfl
    | cons _ _ => simp [beqList] at h
  | x :: xs, ys, h => by
    cases ys with
    | nil => simp [beqList] at h
    | cons y ys =>
      simp only [beqList, Bool.and_eq_true] at h
      rw [eq_of_beq x y h.1, eq_of_beqList xs ys h.2]

end

instance : BEq Condition := ⟨beq⟩

instance : LawfulBEq Condition where
  rfl := beq_refl _
  eq_of_beq := eq_of_beq _ _

instance : DecidableEq Condition := instDecidableEqOfLawfulBEq

mutual

/-- A number that equal conditions share. -/
def hash : Condition → UInt64
  | and xs => mixHash 3 (hashList xs)
  | or xs => mixHash 5 (hashList xs)
  | not x => mixHash 7 (hash x)
  | leaf l => mixHash 11 (Hashable.hash l)

/-- A number that equal lists of parts share. -/
def hashList : List Condition → UInt64
  | [] => 13
  | x :: xs => mixHash (hash x) (hashList xs)

end

instance : Hashable Condition := ⟨hash⟩

/-- A test of a named attribute. -/
def test (name : String) (operator : Operator) (value : Value) : Condition :=
  leaf ⟨name, operator, value⟩

/-- The attribute equals a value. -/
def exact (name : String) (value : Value) : Condition :=
  test name .exact value

/-- The attribute is there and not null. -/
def present (name : String) : Condition :=
  test name .present .null

/-- The parts of a condition, in the order in which they are evaluated. -/
def children : Condition → List Condition
  | and xs => xs
  | or xs => xs
  | not x => [x]
  | leaf _ => []

mutual

/-- How many nodes a condition has. -/
def size : Condition → Nat
  | and xs => 1 + sizes xs
  | or xs => 1 + sizes xs
  | not x => 1 + size x
  | leaf _ => 1

/-- How many nodes several conditions have together. -/
def sizes : List Condition → Nat
  | [] => 0
  | x :: xs => size x + sizes xs

end

mutual

/-- How many nodes there are on a longest way down; one for a leaf. -/
def depth : Condition → Nat
  | and xs => 1 + depths xs
  | or xs => 1 + depths xs
  | not x => 1 + depth x
  | leaf _ => 1

/-- The largest depth of several conditions; zero for none. -/
def depths : List Condition → Nat
  | [] => 0
  | x :: xs => max (depth x) (depths xs)

end

mutual

/-- The leaves of a condition from left to right, repeated ones included. -/
def leaves : Condition → List Leaf
  | and xs => leavesList xs
  | or xs => leavesList xs
  | not x => leaves x
  | leaf l => [l]

/-- The leaves of several conditions. -/
def leavesList : List Condition → List Leaf
  | [] => []
  | x :: xs => leaves x ++ leavesList xs

end

end Condition

end Targeting
