import Mathlib.Data.List.Forall2
import Targeting.Json.Reader
import Targeting.Proofs.JsonText

/-!
# Reading what was written

A reader takes a value if it makes something of the value's tokens and leaves what follows
(`Json.Reader.Takes`). Lists and objects are taken whole if their items and members are taken one by
one (`Json.Reader.list_spell`, `Json.Reader.object_spell`), so from the text of any JSON value the
value is read, its numbers as they are reread, unless it nests more deeply than the limit
(`Json.read_text`).
-/

set_option autoImplicit false

namespace Targeting.Json

mutual

/-- How many brackets and braces of a value are open at once. -/
def nesting : Json → Nat
  | array items => 1 + nestingItems items
  | object members => 1 + nestingMembers members
  | _ => 0

/-- The deepest nesting of several items. -/
def nestingItems : List Json → Nat
  | [] => 0
  | v :: vs => max (nesting v) (nestingItems vs)

/-- The deepest nesting of the values of several members. -/
def nestingMembers : List (String × Json) → Nat
  | [] => 0
  | (_, v) :: ms => max (nesting v) (nestingMembers ms)

end

-- Rereading changes numbers alone.
mutual

@[simp] theorem nesting_reread : (v : Json) → v.reread.nesting = v.nesting
  | null => rfl
  | bool _ => rfl
  | number _ => rfl
  | string _ => rfl
  | array items => by rw [reread, nesting, nesting, nesting_rereadItems items]
  | object members => by rw [reread, nesting, nesting, nesting_rereadMembers members]

theorem nesting_rereadItems : (items : List Json) →
    nestingItems (rereadItems items) = nestingItems items
  | [] => rfl
  | v :: vs => by rw [rereadItems, nestingItems, nestingItems, nesting_reread v, nesting_rereadItems vs]

theorem nesting_rereadMembers : (members : List (String × Json)) →
    nestingMembers (rereadMembers members) = nestingMembers members
  | [] => rfl
  | (_, v) :: ms => by
    rw [rereadMembers, nestingMembers, nestingMembers, nesting_reread v, nesting_rereadMembers ms]

end

theorem nesting_single (name : String) (v : Json) :
    (object [(name, v)]).nesting = 1 + v.nesting := by
  simp [nesting, nestingMembers]

-- Items and members are separated, so there are at least as many tokens as there are of them; and
-- every bracket that is open has a token.
mutual

theorem length_spell : (v : Json) → (ts : List Token) → v.nesting + ts.length < (spell v ts).length
  | null, ts => by simp [nesting, spell]
  | bool _, ts => by simp [nesting, spell]
  | number _, ts => by simp [nesting, spell]
  | string _, ts => by simp [nesting, spell]
  | array items, ts => by
    have inside := length_spellItems items (.closeBracket :: ts)
    simp only [nesting, spell, List.length_cons] at inside ⊢
    omega
  | object members, ts => by
    have inside := length_spellMembers members (.closeBrace :: ts)
    simp only [nesting, spell, List.length_cons] at inside ⊢
    omega

theorem length_spellItems : (items : List Json) → (ts : List Token) →
    nestingItems items + ts.length ≤ (spellItems items ts).length ∧
      items.length + ts.length ≤ (spellItems items ts).length
  | [], ts => by simp [nestingItems, spellItems]
  | [v], ts => by
    have first := length_spell v ts
    simp only [nestingItems, spellItems, List.length_cons, List.length_nil]
    omega
  | v :: w :: vs, ts => by
    have first := length_spell v (.comma :: spellItems (w :: vs) ts)
    have others := length_spellItems (w :: vs) ts
    rw [nestingItems, spellItems]
    simp only [List.length_cons] at first others ⊢
    omega

theorem length_spellMembers : (members : List (String × Json)) → (ts : List Token) →
    nestingMembers members + ts.length ≤ (spellMembers members ts).length ∧
      members.length + ts.length ≤ (spellMembers members ts).length
  | [], ts => by simp [nestingMembers, spellMembers]
  | [(_, v)], ts => by
    have first := length_spell v ts
    simp only [nestingMembers, spellMembers, List.length_cons, List.length_nil]
    omega
  | (_, v) :: m :: ms, ts => by
    have first := length_spell v (.comma :: spellMembers (m :: ms) ts)
    have others := length_spellMembers (m :: ms) ts
    rw [nestingMembers, spellMembers]
    simp only [List.length_cons] at first others ⊢
    omega

end

theorem spell_ne_closeBracket (v : Json) (ts rest : List Token) :
    spell v ts ≠ .closeBracket :: rest := by
  cases v <;> simp [spell]

theorem spellItems_ne_closeBracket (v : Json) (vs : List Json) (ts rest : List Token) :
    spellItems (v :: vs) ts ≠ .closeBracket :: rest := by
  cases vs <;> exact spell_ne_closeBracket v _ rest

theorem spellMembers_ne_closeBrace (m : String × Json) (ms : List (String × Json))
    (ts rest : List Token) : spellMembers (m :: ms) ts ≠ .closeBrace :: rest := by
  cases ms <;> simp [spellMembers]

theorem length_le_of_lexed {cs : List Char} {ts : List Token} (lexed : Lexed cs ts) :
    ts.length ≤ cs.length := by
  induction lexed with
  | nil => exact Nat.le_refl _
  | cons _ _ shorter _ ih =>
    rw [List.length_cons, List.length_cons]
    omega

namespace Reader

variable {α σ : Type}

/-- The reader makes `a` of the tokens of `v` and leaves what follows them. -/
def Takes (reader : Reader α) (v : Json) (a : α) : Prop :=
  ∀ ts : List Token, reader (spell v ts) = .ok (a, ts)

theorem complete_text {reader : Reader α} {v : Json} {a : α} (takes : reader.Takes v.reread a) :
    complete reader v.text = .ok a := by
  rw [complete, tokens_text, takes]
  rfl

/-- Items that are taken one by one, up to the closing bracket. -/
theorem items_spell {item : Reader α} {v : Json} {vs : List Json} {a : α} {as : List α}
    (takes : List.Forall₂ item.Takes (v :: vs) (a :: as)) (ts : List Token) {n : Nat}
    (enough : vs.length ≤ n) :
    items item (n + 1) (spellItems (v :: vs) (.closeBracket :: ts)) = .ok (a :: as, ts) := by
  induction vs generalizing v a as n with
  | nil =>
    obtain ⟨first, others⟩ := List.forall₂_cons.1 takes
    cases others
    rw [items, spellItems, first]
    rfl
  | cons w ws ih =>
    obtain ⟨first, others⟩ := List.forall₂_cons.1 takes
    cases as with
    | nil => cases others
    | cons b bs =>
      cases n with
      | zero => cases enough
      | succ n =>
        have later := ih others (Nat.le_of_succ_le_succ enough)
        rw [items, spellItems, first]
        simp only [bind, Except.bind, later]
        rfl

/-- A list with items is read item by item, and its tokens bound their number. -/
theorem exists_list_eq_items (item : Reader α) (v : Json) (vs : List Json) (ts : List Token) :
    ∃ n, vs.length ≤ n ∧
      list item (spellItems (v :: vs) (.closeBracket :: ts)) =
        items item (n + 1) (spellItems (v :: vs) (.closeBracket :: ts)) := by
  obtain ⟨-, length⟩ := length_spellItems (v :: vs) (.closeBracket :: ts)
  simp only [List.length_cons] at length
  obtain ⟨n, room⟩ : ∃ n, (spellItems (v :: vs) (.closeBracket :: ts)).length = n + 1 :=
    Nat.exists_eq_succ_of_ne_zero (by omega)
  refine ⟨n, by omega, ?_⟩
  unfold list
  split
  · rename_i closed
    exact absurd closed (spellItems_ne_closeBracket v vs _ _)
  · rw [room]

/-- A list is taken whole if its items are taken one by one. -/
theorem list_spell {item : Reader α} {vs : List Json} {as : List α}
    (takes : List.Forall₂ item.Takes vs as) (ts : List Token) :
    list item (spellItems vs (.closeBracket :: ts)) = .ok (as, ts) := by
  cases takes with
  | nil => rfl
  | @cons v a vs as first others =>
    obtain ⟨n, enough, opened⟩ := exists_list_eq_items item v vs ts
    rw [opened]
    exact items_spell (.cons first others) ts enough

/-- What is made of members that are taken one by one, starting from a state. -/
inductive TakesMembers (member : σ → String → Reader σ) : σ → List (String × Json) → σ → Prop
  | nil (state : σ) : TakesMembers member state [] state
  | cons {state next last : σ} {name : String} {v : Json} {ms : List (String × Json)}
    (first : ∀ ts : List Token, member state name (.colon :: spell v ts) = .ok (next, ts))
    (later : TakesMembers member next ms last) : TakesMembers member state ((name, v) :: ms) last

/-- Members that are taken one by one, up to the closing brace. -/
theorem members_spell {member : σ → String → Reader σ} {start last : σ} {m : String × Json}
    {ms : List (String × Json)} (takes : TakesMembers member start (m :: ms) last)
    (ts : List Token) {n : Nat} (enough : ms.length ≤ n) :
    members member (n + 1) start (spellMembers (m :: ms) (.closeBrace :: ts)) = .ok (last, ts) := by
  induction ms generalizing m start n with
  | nil =>
    cases takes with
    | cons first later =>
      cases later
      rw [spellMembers, members, first]
      rfl
  | cons l ls ih =>
    cases takes with
    | cons first others =>
      cases n with
      | zero => cases enough
      | succ n =>
        have later := ih others (Nat.le_of_succ_le_succ enough)
        rw [spellMembers, members, first]
        exact later

/-- An object with members is read member by member, and its tokens bound their number. -/
theorem exists_object_eq_members (member : σ → String → Reader σ) (start : σ) (m : String × Json)
    (ms : List (String × Json)) (ts : List Token) :
    ∃ n, ms.length ≤ n ∧
      object member start (spellMembers (m :: ms) (.closeBrace :: ts)) =
        members member (n + 1) start (spellMembers (m :: ms) (.closeBrace :: ts)) := by
  obtain ⟨-, length⟩ := length_spellMembers (m :: ms) (.closeBrace :: ts)
  simp only [List.length_cons] at length
  obtain ⟨n, room⟩ : ∃ n, (spellMembers (m :: ms) (.closeBrace :: ts)).length = n + 1 :=
    Nat.exists_eq_succ_of_ne_zero (by omega)
  refine ⟨n, by omega, ?_⟩
  unfold object
  split
  · rename_i closed
    exact absurd closed (spellMembers_ne_closeBrace m ms _ _)
  · rw [room]

/-- An object is taken whole if its members are taken one by one. -/
theorem object_spell {member : σ → String → Reader σ} {start last : σ}
    {ms : List (String × Json)} (takes : TakesMembers member start ms last) (ts : List Token) :
    object member start (spellMembers ms (.closeBrace :: ts)) = .ok (last, ts) := by
  cases ms with
  | nil =>
    cases takes
    rfl
  | cons m ms =>
    obtain ⟨n, enough, opened⟩ := exists_object_eq_members member start m ms ts
    rw [opened]
    exact members_spell takes ts enough

end Reader

/-- A reader of any JSON keeps every member it meets. -/
def keepMember (depth : Nat) (members : List (String × Json)) (name : String) :
    Reader (List (String × Json)) := fun ts => do
  let (value, ts) ← ofTokens depth (← Reader.colon ts)
  return ((name, value) :: members, ts)

theorem takesMembers_keep {depth : Nat} {members : List (String × Json)}
    (takes : ∀ m ∈ members, Reader.Takes (ofTokens depth) m.2 m.2) (kept : List (String × Json)) :
    Reader.TakesMembers (keepMember depth) kept members (members.reverse ++ kept) := by
  induction members generalizing kept with
  | nil => exact .nil kept
  | cons m ms ih =>
    obtain ⟨first, others⟩ := List.forall_mem_cons.1 takes
    rw [List.reverse_cons, List.append_assoc]
    refine .cons (fun ts => ?_) (ih others (m :: kept))
    rw [keepMember, Reader.colon]
    simp only [bind, Except.bind, first ts]
    rfl

theorem takes_array {depth : Nat} {items : List Json}
    (takes : ∀ v ∈ items, Reader.Takes (ofTokens depth) v v) :
    Reader.Takes (ofTokens (depth + 1)) (.array items) (.array items) := by
  intro ts
  have each : List.Forall₂ (Reader.Takes (ofTokens depth)) items items :=
    List.forall₂_same.2 takes
  rw [spell, ofTokens, Reader.list_spell each]
  rfl

theorem takes_object {depth : Nat} {members : List (String × Json)}
    (takes : ∀ m ∈ members, Reader.Takes (ofTokens depth) m.2 m.2) :
    Reader.Takes (ofTokens (depth + 1)) (.object members) (.object members) := by
  intro ts
  have read := Reader.object_spell (takesMembers_keep takes []) ts
  unfold keepMember at read
  rw [spell, ofTokens, read]
  simp [bind, Except.bind, pure, Except.pure]

mutual

/-- **Any value within the limit on nesting is taken as itself.** -/
theorem takes_ofTokens : (v : Json) → {depth : Nat} → v.nesting ≤ depth →
    Reader.Takes (ofTokens depth) v v
  | null, _, _ => fun _ => by rw [spell, ofTokens]
  | bool _, _, _ => fun _ => by rw [spell, ofTokens]
  | number _, _, _ => fun _ => by rw [spell, ofTokens]
  | string _, _, _ => fun _ => by rw [spell, ofTokens]
  | array items, depth, shallow => by
    cases depth with
    | zero => simp [nesting] at shallow
    | succ depth =>
      rw [nesting] at shallow
      exact takes_array (takes_items items (by omega))
  | object members, depth, shallow => by
    cases depth with
    | zero => simp [nesting] at shallow
    | succ depth =>
      rw [nesting] at shallow
      exact takes_object (takes_members members (by omega))

theorem takes_items : (items : List Json) → {depth : Nat} → nestingItems items ≤ depth →
    ∀ v ∈ items, Reader.Takes (ofTokens depth) v v
  | [], _, _ => fun _ mem => by cases mem
  | v :: vs, depth, shallow => by
    rw [nestingItems] at shallow
    have first := takes_ofTokens v (by omega : v.nesting ≤ depth)
    have others := takes_items vs (by omega : nestingItems vs ≤ depth)
    exact List.forall_mem_cons.2 ⟨first, others⟩

theorem takes_members : (members : List (String × Json)) → {depth : Nat} →
    nestingMembers members ≤ depth → ∀ m ∈ members, Reader.Takes (ofTokens depth) m.2 m.2
  | [], _, _ => fun _ mem => by cases mem
  | (name, v) :: ms, depth, shallow => by
    rw [nestingMembers] at shallow
    have first := takes_ofTokens v (by omega : v.nesting ≤ depth)
    have others := takes_members ms (by omega : nestingMembers ms ≤ depth)
    exact List.forall_mem_cons.2 ⟨first, others⟩

end

/-- **A written value is read, whatever it holds, its numbers as they are reread**, unless it nests too
deeply. -/
theorem read_text {v : Json} {depth : Nat} (shallow : v.nesting ≤ depth) :
    read depth v.text = .ok v.reread := by
  refine Reader.complete_text (takes_ofTokens v.reread ?_)
  rw [nesting_reread]
  exact shallow

/-- A text is long enough for its own nesting. -/
theorem nesting_le_length (v : Json) : v.nesting ≤ v.text.length := by
  have lexed : Lexed (write v []) (spell v.reread []) := lexed_write v endsNumber_nil .nil
  have tokens := length_spell v.reread []
  have characters := length_le_of_lexed lexed
  have length : v.text.length = (write v []).length := by rw [text, String.length_ofList]
  rw [nesting_reread] at tokens
  omega

theorem readAny_text (v : Json) : readAny v.text = .ok v.reread :=
  read_text v.nesting_le_length

end Targeting.Json
