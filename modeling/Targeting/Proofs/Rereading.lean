import Targeting.Proofs.JsonText
import Targeting.Proofs.StoredValue

/-!
# Rules with their numbers reread

What is written of a number need not be read as the same number (`Binary64.reread`). So the text of a
stored rule is read as the stored form of another rule, which has the same shape, names, operators and
texts, and each of its numbers reread (`Condition.reread_toJson`). That is the rule itself exactly if
each of its numbers is reread as itself (`Condition.reread_eq_self_iff`).
-/

set_option autoImplicit false

namespace Targeting

/-- What the reader makes of the JSON text of a number; one that is not finite has none, and stays. -/
def Binary64.reread (x : Binary64) : Binary64 :=
  if h : x.isFinite = true then (Json.Number.real x h).reread.toBinary64 else x

/-- A value with its number reread. -/
def Value.reread : Value → Value
  | number x => number x.reread
  | v => v

/-- A leaf with its number reread. -/
def Leaf.reread (l : Leaf) : Leaf :=
  { l with value := l.value.reread }

/-- A condition with its numbers reread. -/
def Condition.reread (c : Condition) : Condition :=
  c.mapLeaves Leaf.reread

/-- An audience with its numbers reread. -/
def Audience.reread (a : Audience) : Audience :=
  { a with conditions := a.conditions.reread }

/-- A finite number is reread as a finite number. -/
theorem Binary64.exists_real_reread {x : Binary64} (finite : x.isFinite = true) :
    ∃ h : x.reread.isFinite = true, (Json.Number.real x finite).reread = .real x.reread h := by
  obtain ⟨y, h, read⟩ := Json.Number.exists_reread_real finite
  have same : x.reread = y := by
    rw [reread, dif_pos finite, read]
    rfl
  subst same
  exact ⟨h, read⟩

theorem Binary64.reread_of_not_finite {x : Binary64} (infinite : x.isFinite = false) :
    x.reread = x :=
  dif_neg (by simp [infinite])

@[simp] theorem Binary64.isFinite_reread (x : Binary64) : x.reread.isFinite = x.isFinite := by
  cases finite : x.isFinite with
  | true => exact (exists_real_reread finite).1
  | false => rw [reread_of_not_finite finite, finite]

/-- What is written of a number is short: the digits make up an integer and the exponent a power of ten
that are both held exactly. -/
structure Binary64.WrittenShortly (x : Binary64) (s : Spelling) : Prop where
  proper : s.Proper
  text : s.text = Json.numberLayout.digitsOf (Decimal.shortest .even x)
  small : s.coefficient ≤ 2 ^ 53
  near : s.power.natAbs ≤ 22

/-- A number that is written with few digits and a small power of ten is reread as itself. -/
theorem Binary64.reread_eq_self_of_short {x : Binary64} (finite : x.isFinite = true) {s : Spelling}
    (short : x.WrittenShortly s) : x.reread = x := by
  have read :=
    (Json.Number.readAs_real_of_short finite short.proper short.text short.small short.near).reread_eq
  rw [reread, dif_pos finite, read]
  rfl

theorem Leaf.reread_eq_self_iff (l : Leaf) : l.reread = l ↔ l.value.reread = l.value := by
  constructor
  · intro same
    exact congrArg Leaf.value same
  · intro same
    rw [reread, same]

/-- **A rule is reread as it is if and only if all its numbers are.** -/
theorem Condition.reread_eq_self_iff (c : Condition) :
    c.reread = c ↔ ∀ l ∈ c.leaves, l.value.reread = l.value := by
  rw [reread, mapLeaves_eq_self_iff]
  simp only [Leaf.reread_eq_self_iff]

/-- A finite number is left as it is reread, and one that is not is null in any case. -/
theorem Value.stored_reread_eq_iff (v : Value) :
    v.reread.stored = v.stored ↔ v.reread = v := by
  cases v with
  | number x =>
    cases finite : x.isFinite with
    | true => simp [reread, stored, finite]
    | false => simp [reread, stored, finite, Binary64.reread_of_not_finite finite]
  | _ => exact iff_of_true rfl rfl

theorem Leaf.stored_reread_eq_iff (l : Leaf) :
    l.reread.stored = l.stored ↔ l.value.reread = l.value := by
  rw [← l.value.stored_reread_eq_iff]
  constructor
  · intro same
    exact congrArg Leaf.value same
  · intro same
    rw [stored, stored]
    exact congrArg (Leaf.mk l.name l.operator) same

/-- **What is left of a reread rule is what is left of the rule, exactly if its numbers are reread as
themselves.** -/
theorem Condition.stored_reread_eq_iff (c : Condition) :
    c.reread.stored = c.stored ↔ ∀ l ∈ c.leaves, l.value.reread = l.value := by
  rw [reread, stored, stored, mapLeaves_mapLeaves, mapLeaves_eq_iff]
  simp only [Function.comp_apply, Leaf.stored_reread_eq_iff]

/-! ## Stored forms -/

@[simp] theorem Operator.reread_toJson (o : Operator) : o.toJson.reread = o.toJson := rfl

theorem Value.reread_toJson (v : Value) : v.toJson.reread = v.reread.toJson := by
  cases v with
  | number x =>
    cases finite : x.isFinite with
    | true =>
      obtain ⟨h, read⟩ := Binary64.exists_real_reread finite
      rw [toJson, dif_pos finite, reread, toJson, dif_pos h, Json.reread, read]
    | false =>
      rw [toJson, dif_neg (by simp [finite]), reread, toJson, dif_neg (by simp [finite])]
      rfl
  | _ => rfl

theorem Leaf.reread_toJson (l : Leaf) : l.toJson.reread = l.reread.toJson := by
  simp only [toJson, Json.reread, Json.rereadMembers, Operator.reread_toJson, l.value.reread_toJson,
    reread]

mutual

/-- **The stored form of a rule, reread, is the stored form of the rule with its numbers reread.** -/
theorem Condition.reread_toJson : (c : Condition) → c.toJson.reread = c.reread.toJson
  | .and parts => by
    rw [toJson, Json.reread, Json.rereadMembers, Json.reread, listToJson_reread parts]
    rfl
  | .or parts => by
    rw [toJson, Json.reread, Json.rereadMembers, Json.reread, listToJson_reread parts]
    rfl
  | .not part => by
    rw [toJson, Json.reread, Json.rereadMembers, reread_toJson part]
    rfl
  | .leaf l => by
    rw [toJson, Json.reread, Json.rereadMembers, l.reread_toJson]
    rfl

theorem Condition.listToJson_reread : (parts : List Condition) →
    Json.rereadItems (listToJson parts) = listToJson (mapLeavesList Leaf.reread parts)
  | [] => rfl
  | part :: parts => by
    rw [listToJson, Json.rereadItems, reread_toJson part, listToJson_reread parts]
    rfl

end

theorem Audience.reread_toJson (a : Audience) : a.toJson.reread = a.reread.toJson := by
  simp only [toJson, Json.reread, Json.rereadMembers, a.conditions.reread_toJson, reread]

end Targeting
