import Targeting.Stored.FromText
import Targeting.Proofs.Agreement
import Targeting.Proofs.JsonScanning

/-!
# Reading text follows reading values

Reading a rule from the tokens of a value succeeds if and only if reading it from the value does,
its members taken in the order of the text, and then with the same result
(`Stored.readCondition_follows`, `Stored.readAudience_follows`,
`Stored.readAttributes_follows`). The faults may differ: an item or a member too many is no JSON where
a rule is wanted.
-/

set_option autoImplicit false

namespace Targeting.Stored

open Json (Fault Reader Token spell ok_bind)
open Json.Reader (Agree Follows FollowsWithin)

variable {α : Type} {depth : Nat}

theorem string_follows (wanted : String) (v : Json) :
    Follows (Reader.string wanted) v (stringOf v) := by
  intro ts
  cases v with
  | string s => exact .ok s
  | _ => exact .error _ _

theorem readChoice_follows (alternatives : List (String × α)) (depth : Nat) :
    FollowsWithin (readChoice alternatives) (choiceOf alternatives) depth := by
  intro v shallow ts
  cases v with
  | string name =>
    rw [spell, readChoice, choiceOf]
    exact Agree.result (choose alternatives name)
  | object members =>
    obtain ⟨left, rfl⟩ : ∃ left, depth = left + 1 := by
      rw [Json.nesting] at shallow
      exact ⟨depth - 1, by omega⟩
    match members with
    | [] => exact .error _ _
    | [(name, w)] =>
      rw [spell, Json.spellMembers, readChoice, choiceOf]
      simp only [Reader.string, ok_bind]
      refine Agree.step fun a => ?_
      cases w with
      | null => exact .ok a
      | _ => exact .error _ _
    | (name, w) :: m :: ms =>
      show Agree ts _ (.error .notOneMember)
      rw [spell, Json.spellMembers, readChoice]
      simp only [Reader.string, ok_bind]
      -- The second member is met only behind a known name and its null.
      cases choose alternatives name with
      | ok a => cases w <;> exact .error _ _
      | error fault => exact .error _ _
  | null => exact .error _ _
  | bool b => exact .error _ _
  | number n => exact .error _ _
  | array items => exact .error _ _

theorem readValue_follows (depth : Nat) : FollowsWithin readValue valueOf depth := by
  intro v shallow ts
  rw [readValue, Json.takes_ofTokens v shallow ts, ok_bind]
  exact Agree.result (valueOf v)

/-! ## Leaves -/

theorem LeafDraft.readMember_agrees (d : LeafDraft) (m : String × Json)
    (shallow : m.2.nesting ≤ depth) (ts : List Token) :
    Agree ts (d.readMember depth m.1 (.colon :: spell m.2 ts)) (d.putMember m) := by
  rw [readMember, putMember]
  cases LeafField.ofName? m.1 with
  | none =>
    simp only [Reader.colon, ok_bind, Json.skipValue_spell]
    exact .ok d
  | some field =>
    refine Agree.step fun _ => ?_
    simp only [Reader.colon, ok_bind]
    cases field with
    | name => exact (string_follows stringWanted m.2 ts).bind fun s => .ok _
    | operator => exact (readChoice_follows operators depth m.2 shallow ts).bind fun o => .ok _
    | value => exact (readValue_follows depth m.2 shallow ts).bind fun a => .ok _

/-- What stands behind an item of a list: the next one, or the end. -/
def behindItem (items : List Json) (ts : List Token) : List Token :=
  match items with
  | [] => .closeBracket :: ts
  | v :: vs => .comma :: Json.spellItems (v :: vs) (.closeBracket :: ts)

theorem spellItems_cons (v : Json) (vs : List Json) (ts : List Token) :
    Json.spellItems (v :: vs) (.closeBracket :: ts) = spell v (behindItem vs ts) := by
  cases vs <;> rfl

theorem nextItem?_first (v : Json) (ts : List Token) :
    nextItem? true (spell v ts) = .ok (some (spell v ts)) := by
  cases v <;> rfl

theorem nextItem?_behindItem (v : Json) (vs : List Json) (ts : List Token) :
    nextItem? false (behindItem (v :: vs) ts) = .ok (some (spell v (behindItem vs ts))) := by
  rw [behindItem, spellItems_cons]
  cases v <;> rfl

theorem readLeafItems_agrees {items : List Json} (shallow : ∀ v ∈ items, v.nesting ≤ depth)
    (ts : List Token) :
    Agree ts (readLeafItems depth (Json.spellItems items (.closeBracket :: ts)))
      (leafOfItems items) := by
  cases items with
  | nil => exact .error _ _
  | cons n rest =>
    rw [readLeafItems, leafOfItems, spellItems_cons, nextItem?_first, ok_bind]
    refine (string_follows stringWanted n _).bind fun name => ?_
    cases rest with
    | nil => exact .error _ _
    | cons o rest =>
      dsimp only
      rw [nextItem?_behindItem, ok_bind]
      have operator : o.nesting ≤ depth := shallow o (by simp)
      refine (readChoice_follows operators depth o operator _).bind fun p => ?_
      cases rest with
      | nil => exact .ok _
      | cons v rest =>
        dsimp only
        rw [nextItem?_behindItem, ok_bind]
        have value : v.nesting ≤ depth := shallow v (by simp)
        refine (readValue_follows depth v value _).bind fun a => ?_
        cases rest with
        | nil => exact .ok _
        | cons w rest => exact .error _ _

theorem readLeaf_follows (depth : Nat) : FollowsWithin readLeaf leafOf depth := by
  intro v shallow ts
  cases v with
  | object members =>
    rw [Json.nesting] at shallow
    obtain ⟨left, rfl⟩ : ∃ left, depth = left + 1 := ⟨depth - 1, by omega⟩
    have each := (Json.nestingMembers_le_iff members).1 (by omega : _ ≤ left)
    rw [spell, readLeaf, leafOf]
    have fields (d : LeafDraft) (m : String × Json) (mem : m ∈ members) :=
      d.readMember_agrees m (each m mem)
    exact (Reader.object_follows fields {} ts).bind fun d => Agree.result d.finish
  | array items =>
    rw [Json.nesting] at shallow
    obtain ⟨left, rfl⟩ : ∃ left, depth = left + 1 := ⟨depth - 1, by omega⟩
    have each := (Json.nestingItems_le_iff items).1 (by omega : _ ≤ left)
    exact readLeafItems_agrees each ts
  | null => cases depth <;> exact .error _ _
  | bool b => cases depth <;> exact .error _ _
  | number n => cases depth <;> exact .error _ _
  | string s => cases depth <;> exact .error _ _

/-! ## Conditions -/

/-- The parts of a composite, from a list. -/
def partsOf : Json → Except Fault (List Condition)
  | .array items => conditionsOf items
  | v => .error (.wrongType v.found listWanted)

/-- A condition of one kind, from the value that its word is bound to. -/
def bodyOf (tag : Tag) (v : Json) : Except Fault Condition :=
  match tag with
  | .and => do return .and (← partsOf v)
  | .or => do return .or (← partsOf v)
  | .not => do return .not (← conditionOf v)
  | .leaf => do return .leaf (← leafOf v)

theorem conditionOf_single (name : String) (v : Json) :
    conditionOf (.object [(name, v)]) = choose tags name >>= fun tag => bodyOf tag v := by
  unfold conditionOf
  refine congrArg _ (funext fun tag => ?_)
  cases tag with
  | and => cases v <;> rfl
  | or => cases v <;> rfl
  | not => rfl
  | leaf => rfl

theorem conditionsOf_eq_mapM (items : List Json) : conditionsOf items = items.mapM conditionOf := by
  induction items with
  | nil => rfl
  | cons v vs ih => rw [conditionsOf, ih, List.mapM_cons]

theorem readParts_follows (part : FollowsWithin readCondition conditionOf depth) :
    FollowsWithin readParts partsOf (depth + 1) := by
  intro v shallow ts
  cases v with
  | array items =>
    rw [Json.nesting] at shallow
    have each := (Json.nestingItems_le_iff items).1 (by omega : _ ≤ depth)
    rw [spell, readParts, partsOf, conditionsOf_eq_mapM]
    exact Reader.list_follows (fun v mem => part v (each v mem)) ts
  | _ => exact .error _ _

theorem readCondition_step (parts : FollowsWithin readParts partsOf depth)
    (part : FollowsWithin readCondition conditionOf depth) :
    FollowsWithin readCondition conditionOf (depth + 1) := by
  intro v shallow ts
  cases v with
  | string name => exact Agree.step (s := choose tags name) fun tag => .error _ _
  | object members =>
    rw [Json.nesting] at shallow
    have each := (Json.nestingMembers_le_iff members).1 (by omega : _ ≤ depth)
    match members with
    | [] => exact .error _ _
    | [(name, v)] =>
      have inner : v.nesting ≤ depth := each (name, v) (by simp)
      rw [spell, Json.spellMembers, readCondition, conditionOf_single]
      simp only [Reader.string, Reader.colon, ok_bind]
      refine Agree.step fun tag => ?_
      cases tag with
      | and => exact (parts v inner _).bind fun cs => .ok _
      | or => exact (parts v inner _).bind fun cs => .ok _
      | not => exact (part v inner _).bind fun c => .ok _
      | leaf => exact (readLeaf_follows depth v inner _).bind fun l => .ok _
    | (name, v) :: m :: ms =>
      have inner : v.nesting ≤ depth := each (name, v) (by simp)
      show Agree ts _ (.error .notOneMember)
      rw [spell, Json.spellMembers, readCondition]
      simp only [Reader.string, Reader.colon, ok_bind]
      -- Behind the first member a closing brace is wanted, whatever the member was.
      cases choose tags name with
      | error fault => exact .error _ _
      | ok tag =>
        cases tag with
        | and => exact (parts v inner _).refuse (fun cs => ⟨.malformed, rfl⟩) _
        | or => exact (parts v inner _).refuse (fun cs => ⟨.malformed, rfl⟩) _
        | not => exact (part v inner _).refuse (fun c => ⟨.malformed, rfl⟩) _
        | leaf => exact (readLeaf_follows depth v inner _).refuse (fun l => ⟨.malformed, rfl⟩) _
  | null => exact .error _ _
  | bool b => exact .error _ _
  | number n => exact .error _ _
  | array items => exact .error _ _

/-- Without brackets and braces there is no condition and no list. -/
theorem readCondition_flat : FollowsWithin readCondition conditionOf 0 := by
  intro v shallow ts
  cases v with
  | string name => exact Agree.step (s := choose tags name) fun tag => .error _ _
  | object members =>
    rw [Json.nesting] at shallow
    omega
  | null => exact .error _ _
  | bool b => exact .error _ _
  | number n => exact .error _ _
  | array items => exact .error _ _

theorem readParts_flat : FollowsWithin readParts partsOf 0 := by
  intro v shallow ts
  cases v with
  | array items =>
    rw [Json.nesting] at shallow
    omega
  | _ => exact .error _ _

/-- **Reading a condition from text follows reading it from the value.** -/
theorem readCondition_follows (depth : Nat) : FollowsWithin readCondition conditionOf depth := by
  -- A composite takes two levels, its own and that of its list, so both are carried along.
  suffices both : FollowsWithin readCondition conditionOf depth ∧
      FollowsWithin readParts partsOf depth from both.1
  induction depth with
  | zero => exact ⟨readCondition_flat, readParts_flat⟩
  | succ depth ih =>
    obtain ⟨part, parts⟩ := ih
    exact ⟨readCondition_step parts part, readParts_follows part⟩

/-! ## Audiences and attributes -/

theorem AudienceDraft.readMember_agrees (d : AudienceDraft) (m : String × Json)
    (shallow : m.2.nesting ≤ depth) (ts : List Token) :
    Agree ts (d.readMember depth m.1 (.colon :: spell m.2 ts)) (d.putMember m) := by
  rw [readMember, putMember]
  cases AudienceField.ofName? m.1 with
  | none =>
    simp only [Reader.colon, ok_bind, Json.skipValue_spell]
    exact .ok d
  | some field =>
    refine Agree.step fun _ => ?_
    simp only [Reader.colon, ok_bind]
    cases field with
    | id => exact (string_follows stringWanted m.2 ts).bind fun s => .ok _
    | name => exact (string_follows stringWanted m.2 ts).bind fun s => .ok _
    | conditions => exact (readCondition_follows depth m.2 shallow ts).bind fun c => .ok _

theorem readAudienceItems_agrees {items : List Json} (shallow : ∀ v ∈ items, v.nesting ≤ depth)
    (ts : List Token) :
    Agree ts (readAudienceItems depth (Json.spellItems items (.closeBracket :: ts)))
      (audienceOfItems items) := by
  cases items with
  | nil => exact .error _ _
  | cons i rest =>
    rw [readAudienceItems, audienceOfItems, spellItems_cons, nextItem?_first, ok_bind]
    refine (string_follows stringWanted i _).bind fun id => ?_
    cases rest with
    | nil => exact .error _ _
    | cons n rest =>
      dsimp only
      rw [nextItem?_behindItem, ok_bind]
      refine (string_follows stringWanted n _).bind fun name => ?_
      cases rest with
      | nil => exact .error _ _
      | cons c rest =>
        dsimp only
        rw [nextItem?_behindItem, ok_bind]
        have conditions : c.nesting ≤ depth := shallow c (by simp)
        refine (readCondition_follows depth c conditions _).bind fun rule => ?_
        cases rest with
        | nil => exact .ok _
        | cons w rest => exact .error _ _

theorem readAudience_follows (depth : Nat) : FollowsWithin readAudience audienceOf depth := by
  intro v shallow ts
  cases v with
  | object members =>
    rw [Json.nesting] at shallow
    obtain ⟨left, rfl⟩ : ∃ left, depth = left + 1 := ⟨depth - 1, by omega⟩
    have each := (Json.nestingMembers_le_iff members).1 (by omega : _ ≤ left)
    rw [spell, readAudience, audienceOf]
    have fields (d : AudienceDraft) (m : String × Json) (mem : m ∈ members) :=
      d.readMember_agrees m (each m mem)
    exact (Reader.object_follows fields {} ts).bind fun d => Agree.result d.finish
  | array items =>
    rw [Json.nesting] at shallow
    obtain ⟨left, rfl⟩ : ∃ left, depth = left + 1 := ⟨depth - 1, by omega⟩
    have each := (Json.nestingItems_le_iff items).1 (by omega : _ ≤ left)
    exact readAudienceItems_agrees each ts
  | null => cases depth <;> exact .error _ _
  | bool b => cases depth <;> exact .error _ _
  | number n => cases depth <;> exact .error _ _
  | string s => cases depth <;> exact .error _ _

theorem readAttribute_agrees (a : Attributes) (m : String × Json) (shallow : m.2.nesting ≤ depth)
    (ts : List Token) :
    Agree ts (readAttribute depth a m.1 (.colon :: spell m.2 ts)) (putAttribute a m) := by
  rw [readAttribute, putAttribute]
  exact (readValue_follows depth m.2 shallow ts).bind fun value => .ok _

theorem readAttributes_follows (depth : Nat) : FollowsWithin readAttributes attributesOf depth := by
  intro v shallow ts
  cases v with
  | object members =>
    rw [Json.nesting] at shallow
    obtain ⟨left, rfl⟩ : ∃ left, depth = left + 1 := ⟨depth - 1, by omega⟩
    have each := (Json.nestingMembers_le_iff members).1 (by omega : _ ≤ left)
    have entries (a : Attributes) (m : String × Json) (mem : m ∈ members) :=
      readAttribute_agrees a m (each m mem)
    exact Reader.object_follows entries .empty ts
  | null => cases depth <;> exact .error _ _
  | bool b => cases depth <;> exact .error _ _
  | number n => cases depth <;> exact .error _ _
  | string s => cases depth <;> exact .error _ _
  | array items => cases depth <;> exact .error _ _

end Targeting.Stored
