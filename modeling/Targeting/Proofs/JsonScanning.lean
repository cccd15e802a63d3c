import Targeting.Proofs.JsonReading

/-!
# What the tokens of a text are

The reader of any JSON takes the tokens of a value and no others, so a text reads as a value if and
only if its tokens are those of the value, which nests within the limit (`Json.read_eq_ok_iff`).
Passing over a value leaves what follows it, however deeply it nests (`Json.skipValue_spell`).
-/

set_option autoImplicit false

namespace Targeting.Json

variable {depth : Nat} {ts rest : List Token}

namespace Reader

/-- The reader takes the tokens of a value with a property and no others. -/
def TakesOnly (item : Reader Json) (P : Json → Prop) : Prop :=
  ∀ ts v rest, item ts = .ok (v, rest) → ts = spell v rest ∧ P v

variable {item : Reader Json} {P : Json → Prop}

theorem items_takesOnly (only : item.TakesOnly P) {n : Nat} {ts : List Token} {vs : List Json}
    (read : items item n ts = .ok (vs, rest)) :
    vs ≠ [] ∧ ts = spellItems vs (.closeBracket :: rest) ∧ ∀ v ∈ vs, P v := by
  induction n generalizing ts vs with
  | zero => cases read
  | succ n ih =>
    rw [items, bind_eq_ok_iff] at read
    obtain ⟨⟨v, after⟩, first, read⟩ := read
    obtain ⟨rfl, holds⟩ := only ts v after first
    dsimp only at read
    split at read
    · obtain ⟨⟨others, _⟩, later, ⟨⟩⟩ := bind_eq_ok_iff.1 read
      obtain ⟨nonempty, rfl, each⟩ := ih later
      refine ⟨List.cons_ne_nil _ _, ?_, List.forall_mem_cons.2 ⟨holds, each⟩⟩
      cases others with
      | nil => exact absurd rfl nonempty
      | cons w ws => rfl
    · cases read
      exact ⟨List.cons_ne_nil _ _, rfl, List.forall_mem_singleton.2 holds⟩
    · cases read

theorem list_takesOnly (only : item.TakesOnly P) {vs : List Json}
    (read : list item ts = .ok (vs, rest)) :
    ts = spellItems vs (.closeBracket :: rest) ∧ ∀ v ∈ vs, P v := by
  unfold list at read
  split at read
  · cases read
    exact ⟨rfl, nofun⟩
  · exact (items_takesOnly only read).2

end Reader

theorem keepMember_takesOnly {P : Json → Prop} (only : Reader.TakesOnly (ofTokens depth) P)
    {kept next : List (String × Json)} {name : String}
    (read : keepMember depth kept name ts = .ok (next, rest)) :
    ∃ v, ts = .colon :: spell v rest ∧ next = (name, v) :: kept ∧ P v := by
  rw [keepMember, bind_eq_ok_iff] at read
  obtain ⟨after, colon, read⟩ := read
  obtain ⟨⟨v, _⟩, first, ⟨⟩⟩ := bind_eq_ok_iff.1 read
  obtain ⟨rfl, holds⟩ := only after v rest first
  rw [Reader.colon.eq_def] at colon
  split at colon
  · cases colon
    exact ⟨v, rfl, rfl, holds⟩
  · cases colon

/-- Members are kept in front of those that were kept before. -/
theorem members_takesOnly {P : Json → Prop} (only : Reader.TakesOnly (ofTokens depth) P) {n : Nat}
    {ts : List Token} {kept all : List (String × Json)}
    (read : Reader.members (keepMember depth) n kept ts = .ok (all, rest)) :
    ∃ ms, ms ≠ [] ∧ all = ms.reverse ++ kept ∧ ts = spellMembers ms (.closeBrace :: rest) ∧
      ∀ m ∈ ms, P m.2 := by
  induction n generalizing ts kept with
  | zero => cases read
  | succ n ih =>
    unfold Reader.members at read
    split at read
    · rename_i m name _ same
      obtain rfl : n = m := Nat.succ.inj same
      rw [bind_eq_ok_iff] at read
      obtain ⟨⟨next, after⟩, first, read⟩ := read
      obtain ⟨v, rfl, rfl, holds⟩ := keepMember_takesOnly only first
      dsimp only at read
      split at read
      · obtain ⟨ms, nonempty, rfl, rfl, each⟩ := ih read
        refine ⟨(name, v) :: ms, List.cons_ne_nil _ _, ?_, ?_, List.forall_mem_cons.2 ⟨holds, each⟩⟩
        · simp
        · cases ms with
          | nil => exact absurd rfl nonempty
          | cons m rest => rfl
      · cases read
        exact ⟨[(name, v)], List.cons_ne_nil _ _, rfl, rfl, List.forall_mem_singleton.2 holds⟩
      · cases read
    · cases read

theorem object_takesOnly {P : Json → Prop} (only : Reader.TakesOnly (ofTokens depth) P)
    {all : List (String × Json)}
    (read : Reader.object (keepMember depth) [] ts = .ok (all, rest)) :
    ts = spellMembers all.reverse (.closeBrace :: rest) ∧ ∀ m ∈ all.reverse, P m.2 := by
  unfold Reader.object at read
  split at read
  · cases read
    exact ⟨rfl, nofun⟩
  · obtain ⟨ms, -, rfl, spelled, each⟩ := members_takesOnly only read
    rw [List.append_nil, List.reverse_reverse]
    exact ⟨spelled, each⟩

theorem nestingItems_le_iff (items : List Json) :
    nestingItems items ≤ depth ↔ ∀ v ∈ items, v.nesting ≤ depth := by
  induction items with
  | nil => simp [nestingItems]
  | cons v vs ih => simp [nestingItems, ih]

theorem nestingMembers_le_iff (members : List (String × Json)) :
    nestingMembers members ≤ depth ↔ ∀ m ∈ members, m.2.nesting ≤ depth := by
  induction members with
  | nil => simp [nestingMembers]
  | cons m ms ih => simp [nestingMembers, ih]

/-- **The reader of any JSON takes nothing but the tokens of a value within the limit.** -/
theorem ofTokens_takesOnly (depth : Nat) :
    Reader.TakesOnly (ofTokens depth) fun v => v.nesting ≤ depth := by
  induction depth using Nat.strongRecOn with
  | ind depth ih =>
    intro ts v rest read
    unfold ofTokens at read
    split at read
    · cases read
      exact ⟨rfl, Nat.zero_le _⟩
    · cases read
      exact ⟨rfl, Nat.zero_le _⟩
    · cases read
      exact ⟨rfl, Nat.zero_le _⟩
    · cases read
      exact ⟨rfl, Nat.zero_le _⟩
    · rename_i left after
      obtain ⟨⟨items, _⟩, inside, ⟨⟩⟩ := bind_eq_ok_iff.1 read
      obtain ⟨rfl, each⟩ := Reader.list_takesOnly (ih left (Nat.lt_succ_self left)) inside
      refine ⟨rfl, ?_⟩
      have deepest := (nestingItems_le_iff items).2 each
      show 1 + nestingItems items ≤ left + 1
      omega
    · rename_i left after
      obtain ⟨⟨members, _⟩, inside, ⟨⟩⟩ := bind_eq_ok_iff.1 read
      obtain ⟨rfl, each⟩ := object_takesOnly (ih left (Nat.lt_succ_self left)) inside
      refine ⟨rfl, ?_⟩
      have deepest := (nestingMembers_le_iff members.reverse).2 each
      show 1 + nestingMembers members.reverse ≤ left + 1
      omega
    · cases read

/-- **A text reads as a value if and only if it is made of the tokens of the value**, and the value
nests within the limit. -/
theorem read_eq_ok_iff (depth : Nat) (text : String) (v : Json) :
    read depth text = .ok v ↔ tokens text = spell v [] ∧ v.nesting ≤ depth := by
  rw [read, Reader.complete]
  constructor
  · intro accepted
    obtain ⟨⟨w, rest⟩, inside, ended⟩ := bind_eq_ok_iff.1 accepted
    obtain ⟨spelled, shallow⟩ := ofTokens_takesOnly depth _ w rest inside
    dsimp only at ended
    split at ended
    · cases ended
      exact ⟨spelled, shallow⟩
    · cases ended
  · rintro ⟨spelled, shallow⟩
    rw [spelled, takes_ofTokens v shallow]
    rfl

/-! ## Passing over a value -/

theorem close_cons (c : Container) (open_ : List Container) (ts : List Token) :
    skipFrom.close (c :: open_) ts = skipFrom .next (c :: open_) ts := by
  rw [skipFrom.close]

theorem skipFrom_first_spell (open_ : List Container) (v : Json) (ts : List Token) :
    skipFrom (.first .array) open_ (spell v ts) = skipFrom .value open_ (spell v ts) := by
  cases v <;> simp only [spell, skipFrom]

theorem skipFrom_first_spellItems (open_ : List Container) (v : Json) (vs : List Json)
    (ts : List Token) :
    skipFrom (.first .array) open_ (spellItems (v :: vs) ts) =
      skipFrom .value open_ (spellItems (v :: vs) ts) := by
  cases vs with
  | nil => exact skipFrom_first_spell open_ v ts
  | cons w ws => exact skipFrom_first_spell open_ v _

theorem skipFrom_first_spellMembers (open_ : List Container) (m : String × Json)
    (ms : List (String × Json)) (ts : List Token) :
    skipFrom (.first .object) open_ (spellMembers (m :: ms) ts) =
      skipFrom .name open_ (spellMembers (m :: ms) ts) := by
  cases ms <;> simp only [spellMembers, skipFrom]

-- What is open beside the value stays as it was: a value that is passed over opens and closes its
-- own brackets and braces.
mutual

/-- A value that is passed over is complete where its tokens end. -/
theorem skipFrom_spell : (v : Json) → (open_ : List Container) → (ts : List Token) →
    skipFrom .value open_ (spell v ts) = skipFrom.close open_ ts
  | null, open_, ts => by simp only [spell, skipFrom, skipFrom.value]
  | bool _, open_, ts => by simp only [spell, skipFrom, skipFrom.value]
  | number _, open_, ts => by simp only [spell, skipFrom, skipFrom.value]
  | string _, open_, ts => by simp only [spell, skipFrom, skipFrom.value]
  | array items, open_, ts => by
    have inside := skipFrom_spellItems items open_ ts
    rw [spell, skipFrom, skipFrom.value]
    match items with
    | [] => rw [spellItems, skipFrom]
    | v :: vs => rw [skipFrom_first_spellItems, inside (List.cons_ne_nil v vs)]
  | object members, open_, ts => by
    have inside := skipFrom_spellMembers members open_ ts
    rw [spell, skipFrom, skipFrom.value]
    match members with
    | [] => rw [spellMembers, skipFrom]
    | m :: ms => rw [skipFrom_first_spellMembers, inside (List.cons_ne_nil m ms)]

theorem skipFrom_spellItems : (items : List Json) → (open_ : List Container) →
    (ts : List Token) → items ≠ [] →
    skipFrom .value (.array :: open_) (spellItems items (.closeBracket :: ts)) =
      skipFrom.close open_ ts
  | [], _, _, nonempty => absurd rfl nonempty
  | [v], open_, ts, _ => by
    rw [spellItems, skipFrom_spell v, close_cons, skipFrom]
  | v :: w :: vs, open_, ts, _ => by
    rw [spellItems, skipFrom_spell v, close_cons, skipFrom]
    exact skipFrom_spellItems (w :: vs) open_ ts (List.cons_ne_nil w vs)

theorem skipFrom_spellMembers : (members : List (String × Json)) → (open_ : List Container) →
    (ts : List Token) → members ≠ [] →
    skipFrom .name (.object :: open_) (spellMembers members (.closeBrace :: ts)) =
      skipFrom.close open_ ts
  | [], _, _, nonempty => absurd rfl nonempty
  | [(name, v)], open_, ts, _ => by
    rw [spellMembers, skipFrom, skipFrom, skipFrom_spell v, close_cons, skipFrom]
  | (name, v) :: m :: ms, open_, ts, _ => by
    rw [spellMembers, skipFrom, skipFrom, skipFrom_spell v, close_cons, skipFrom]
    exact skipFrom_spellMembers (m :: ms) open_ ts (List.cons_ne_nil m ms)

end

/-- **Passing over a value leaves what follows it**, however deeply the value nests. -/
theorem skipValue_spell (v : Json) (ts : List Token) : skipValue (spell v ts) = .ok ((), ts) := by
  rw [skipValue, skipFrom_spell, skipFrom.close]

end Targeting.Json
