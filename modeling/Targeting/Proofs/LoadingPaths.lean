import Targeting.Proofs.AudienceReading
import Targeting.Proofs.TextReading

/-!
# Two ways of loading

Data in JSON text can be loaded at once, or be read as a JSON value that is loaded then. The first
takes the members of an object in the order of the text, the second in the order of their names.
Where no object repeats a name both succeed or both fail, and what they give is the same, in
whatever order the members stand (`Stored.loading_paths_agree`).

Text follows the value with its members as they come; there the value is read as what it is by the
grammar, and so is the sorted value; and the grammar does not see the order.
-/

set_option autoImplicit false

namespace Targeting.Stored

open Json (Fault Reader spell bind_eq_ok_iff)

variable {α : Type}

/-- Two ways give results that are the same, or neither gives one. -/
inductive SameResult (same : α → α → Prop) : Except Fault α → Except Fault α → Prop
  | ok {a b : α} (alike : same a b) : SameResult same (.ok a) (.ok b)
  | error (f g : Fault) : SameResult same (.error f) (.error g)

/-- The same names are bound, to the same values. -/
def SameTable (a b : Attributes) : Prop :=
  ∀ name, a.find? name = b.find? name

/-- What comes of some data that is loaded as a rule, a leaf, an audience or attributes. -/
structure Loaded where
  condition : Except Fault Condition
  leaf : Except Fault Leaf
  audience : Except Fault Audience
  attributes : Except Fault Attributes

/-- What comes of a text that is loaded at once. -/
def Loaded.ofText (text : String) : Loaded where
  condition := Condition.ofText text
  leaf := Leaf.ofText text
  audience := Audience.ofText text
  attributes := Attributes.ofText text

/-- What comes of a JSON value. -/
def Loaded.ofJson (v : Json) : Loaded where
  condition := Condition.ofJson v
  leaf := Leaf.ofJson v
  audience := Audience.ofJson v
  attributes := Attributes.ofJson v

/-- The same comes of both, whatever they are loaded as. -/
structure Loaded.Alike (x y : Loaded) : Prop where
  condition : SameResult (· = ·) x.condition y.condition
  leaf : SameResult (· = ·) x.leaf y.leaf
  audience : SameResult (· = ·) x.audience y.audience
  attributes : SameResult SameTable x.attributes y.attributes

theorem sameResult_of_iff {x y : Except Fault α} (same : ∀ a, x = .ok a ↔ y = .ok a) :
    SameResult (· = ·) x y := by
  cases x with
  | ok a =>
    rw [(same a).1 rfl]
    exact .ok rfl
  | error f =>
    cases y with
    | ok a => cases (same a).2 rfl
    | error g => exact .error f g

theorem sameResult_of_find?_iff {x y : Except Fault Attributes}
    (same : ∀ find, (∃ a, x = .ok a ∧ a.find? = find) ↔ ∃ b, y = .ok b ∧ b.find? = find) :
    SameResult SameTable x y := by
  cases x with
  | ok a =>
    obtain ⟨b, rfl, looks⟩ := (same a.find?).1 ⟨a, rfl, rfl⟩
    exact .ok fun name => (congrFun looks name).symm
  | error f =>
    cases y with
    | ok b =>
      obtain ⟨a, failed, -⟩ := (same b.find?).2 ⟨b, rfl, rfl⟩
      cases failed
    | error g => exact .error f g

theorem SameResult.symm {same : α → α → Prop} (back : ∀ a b, same a b → same b a)
    {x y : Except Fault α} (h : SameResult same x y) : SameResult same y x := by
  cases h with
  | ok alike => exact .ok (back _ _ alike)
  | error f g => exact .error g f

theorem SameResult.trans {same : α → α → Prop} (chain : ∀ a b c, same a b → same b c → same a c)
    {x y z : Except Fault α} (first : SameResult same x y) (second : SameResult same y z) :
    SameResult same x z := by
  cases first with
  | ok alike =>
    cases second with
    | ok alike' => exact .ok (chain _ _ _ alike alike')
  | error f g =>
    cases second with
    | error _ h => exact .error f h

theorem SameResult.eq_ok {x : Except Fault α} {a : α} (h : SameResult (· = ·) x (.ok a)) :
    x = .ok a := by
  cases h with
  | ok alike => rw [alike]

theorem Loaded.Alike.symm {x y : Loaded} (h : x.Alike y) : y.Alike x where
  condition := h.condition.symm fun _ _ same => same.symm
  leaf := h.leaf.symm fun _ _ same => same.symm
  audience := h.audience.symm fun _ _ same => same.symm
  attributes := h.attributes.symm fun _ _ same name => (same name).symm

theorem Loaded.Alike.trans {x y z : Loaded} (first : x.Alike y) (second : y.Alike z) :
    x.Alike z where
  condition := first.condition.trans (fun _ _ _ same same' => same.trans same') second.condition
  leaf := first.leaf.trans (fun _ _ _ same same' => same.trans same') second.leaf
  audience := first.audience.trans (fun _ _ _ same same' => same.trans same') second.audience
  attributes :=
    first.attributes.trans (fun _ _ _ same same' name => (same name).trans (same' name))
      second.attributes

/-- A text made of the tokens of a value is read as the value is, if the reader follows it. -/
theorem complete_eq_ok_iff {reader : Nat → Reader α} {f : Json → Except Fault α} {limit : Nat}
    (follows : Json.Reader.FollowsWithin reader f limit) {text : String} {v : Json}
    (spelled : Json.tokens text = spell v []) (shallow : v.nesting ≤ limit) (a : α) :
    Reader.complete (reader limit) text = .ok a ↔ f v = .ok a := by
  have agree := follows v shallow []
  rw [Reader.complete, spelled]
  generalize reader limit (spell v []) = x, f v = r at agree
  cases agree with
  | ok b => rfl
  | error f g =>
    constructor
    · intro failed
      cases failed
    · intro failed
      cases failed

/-- Where no object repeats a name a text is loaded as its value is. -/
theorem ofText_alike_ofJson {text : String} {v : Json}
    (read : Json.read Json.nestingLimit text = .ok v) (distinct : v.distinct = true) :
    (Loaded.ofText text).Alike (Loaded.ofJson v) := by
  obtain ⟨spelled, shallow⟩ := (Json.read_eq_ok_iff _ text v).1 read
  have sorted := Json.distinct_sorted v
  refine ⟨?_, ?_, ?_, ?_⟩
  · refine sameResult_of_iff fun c => ?_
    show Condition.ofText text = .ok c ↔ conditionOf v.sorted = .ok c
    rw [conditionOf_eq_ok_iff c sorted, isCondition_sorted_iff, ← conditionOf_eq_ok_iff c distinct]
    exact complete_eq_ok_iff (readCondition_follows _) spelled shallow c
  · refine sameResult_of_iff fun l => ?_
    show Leaf.ofText text = .ok l ↔ leafOf v.sorted = .ok l
    rw [leafOf_eq_ok_iff sorted, isLeaf_sorted_iff, ← leafOf_eq_ok_iff distinct]
    exact complete_eq_ok_iff (readLeaf_follows _) spelled shallow l
  · refine sameResult_of_iff fun a => ?_
    show Audience.ofText text = .ok a ↔ audienceOf v.sorted = .ok a
    rw [audienceOf_eq_ok_iff sorted, isAudience_sorted_iff, ← audienceOf_eq_ok_iff distinct]
    exact complete_eq_ok_iff (readAudience_follows _) spelled shallow a
  · refine sameResult_of_find?_iff fun find => ?_
    show (∃ a, Attributes.ofText text = .ok a ∧ a.find? = find) ↔
      ∃ b, attributesOf v.sorted = .ok b ∧ b.find? = find
    rw [exists_attributesOf_iff sorted, isTable_sorted_iff, ← exists_attributesOf_iff distinct]
    refine exists_congr fun a => and_congr_left' ?_
    exact complete_eq_ok_iff (readAttributes_follows _) spelled shallow a

/-- **Both ways of loading agree.** If a text reads as a value in which no object repeats a name,
loading the text at once and loading the value succeed both or fail both, and give the same; and so
does any other text of the value with its members in another order. -/
theorem loading_paths_agree {text : String} {v : Json}
    (read : Json.read Json.nestingLimit text = .ok v) (distinct : v.distinct = true) :
    (Loaded.ofText text).Alike (Loaded.ofJson v) ∧
      ∀ other w, Json.read Json.nestingLimit other = .ok w → w.distinct = true →
        w.sorted = v.sorted → (Loaded.ofText other).Alike (Loaded.ofText text) := by
  have direct := ofText_alike_ofJson read distinct
  refine ⟨direct, fun other w readOther distinctOther same => ?_⟩
  have reordered : Loaded.ofJson w = Loaded.ofJson v := by
    simp only [Loaded.ofJson, Condition.ofJson, Leaf.ofJson, Audience.ofJson, Attributes.ofJson,
      same]
  have indirect := ofText_alike_ofJson readOther distinctOther
  rw [reordered] at indirect
  exact indirect.trans direct.symm

/-- A leaf with a note that is passed over, its members in one order and in another. -/
theorem reordered_leaf_loads_alike :
    let text := "\x7b \"match\": \"exists\",\n  \"note\": [null], \"name\": \"beta\" \x7d"
    let other := "\x7b\"name\":\"beta\",\"match\":\"exists\",\"note\":[null]\x7d"
    let v : Json := .object
      [("match", .string "exists"), ("note", .array [.null]), ("name", .string "beta")]
    Json.read Json.nestingLimit text = .ok v ∧ v.distinct = true ∧
      (Loaded.ofText text).Alike (Loaded.ofJson v) ∧
        (Loaded.ofText other).Alike (Loaded.ofText text) ∧
          Leaf.ofText text = .ok ⟨"beta", .present, .null⟩ := by
  intro text other v
  have read : Json.read Json.nestingLimit text = .ok v := by
    subst text v
    rfl
  have distinct : v.distinct = true := by decide
  obtain ⟨direct, reordered⟩ := loading_paths_agree read distinct
  have readOther : Json.read Json.nestingLimit other =
      .ok (.object [("name", .string "beta"), ("match", .string "exists"),
        ("note", .array [.null])]) := by
    subst other
    rfl
  have alike := reordered other _ readOther (by decide) rfl
  exact ⟨read, distinct, direct, alike, SameResult.eq_ok direct.leaf⟩

end Targeting.Stored
