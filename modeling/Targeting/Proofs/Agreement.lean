import Targeting.Proofs.JsonReading

/-!
# Reading tokens beside reading values

A reader of tokens follows a function of values if on the tokens of a value it ends as the function
does: with the same result and what comes behind the value, or with a fault
(`Json.Reader.Follows`). The faults may differ. Two ways of reading are compared step by step:
`Json.Reader.Agree.bind` puts steps together, and lists and objects are read as their items and
members are (`Json.Reader.list_follows`, `Json.Reader.object_follows`).
-/

set_option autoImplicit false

namespace Targeting.Json.Reader

variable {α β σ : Type} {ts rest : List Token}

/-- Reading from tokens ends as reading from a value does: with the same result, and the given
tokens left, or with faults. -/
inductive Agree (ts : List Token) : Except Fault (α × List Token) → Except Fault α → Prop
  | ok (a : α) : Agree ts (.ok (a, ts)) (.ok a)
  | error (f g : Fault) : Agree ts (.error f) (.error g)

/-- On the tokens of `v`, whatever follows them, the reader does what `r` says. -/
def Follows (reader : Reader α) (v : Json) (r : Except Fault α) : Prop :=
  ∀ ts : List Token, Agree ts (reader (spell v ts)) r

/-- On every value that stays within a limit on nesting, the reader with that limit does what a
function makes of the value. -/
def FollowsWithin (reader : Nat → Reader α) (f : Json → Except Fault α) (depth : Nat) : Prop :=
  ∀ v : Json, v.nesting ≤ depth → Follows (reader depth) v (f v)

namespace Agree

variable {x : Except Fault (α × List Token)} {r : Except Fault α}

/-- Steps that agree, one after the other. -/
theorem bind {f : α × List Token → Except Fault (β × List Token)} {g : α → Except Fault β}
    (first : Agree rest x r) (next : ∀ a, Agree ts (f (a, rest)) (g a)) :
    Agree ts (x >>= f) (r >>= g) := by
  cases first with
  | ok a => exact next a
  | error f g => exact .error f g

/-- A step that takes no tokens. -/
theorem step {s : Except Fault β} {f : β → Except Fault (α × List Token)} {g : β → Except Fault α}
    (next : ∀ b, Agree ts (f b) (g b)) : Agree ts (s >>= f) (s >>= g) := by
  cases s with
  | ok b => exact next b
  | error fault => exact .error fault fault

/-- A result is handed on with the tokens that are left. -/
theorem result (s : Except Fault α) : Agree ts (s >>= fun a => pure (a, ts)) s := by
  cases s with
  | ok a => exact .ok a
  | error fault => exact .error fault fault

/-- What follows a step fails. -/
theorem refuse {f : α × List Token → Except Fault (β × List Token)} (first : Agree rest x r)
    (fails : ∀ a, ∃ fault, f (a, rest) = .error fault) (g : Fault) :
    Agree ts (x >>= f) (.error g) := by
  cases first with
  | ok a =>
    obtain ⟨fault, failed⟩ := fails a
    show Agree ts (f (a, rest)) (.error g)
    rw [failed]
    exact .error fault g
  | error f _ => exact .error f g

end Agree

variable {item : Reader α} {f : Json → Except Fault α}

theorem items_follow {v : Json} {vs : List Json} (each : ∀ w ∈ v :: vs, Follows item w (f w))
    (ts : List Token) {n : Nat} (enough : vs.length ≤ n) :
    Agree ts (items item (n + 1) (spellItems (v :: vs) (.closeBracket :: ts)))
      ((v :: vs).mapM f) := by
  induction vs generalizing v n with
  | nil =>
    rw [items, spellItems, List.mapM_cons]
    exact (each v List.mem_cons_self _).bind fun a => .ok [a]
  | cons w ws ih =>
    obtain ⟨first, others⟩ := List.forall_mem_cons.1 each
    cases n with
    | zero => cases enough
    | succ n =>
      rw [items, spellItems, List.mapM_cons]
      refine (first _).bind fun a => ?_
      exact (ih others (Nat.le_of_succ_le_succ enough)).bind fun as => .ok (a :: as)

/-- A list is read as its items are. -/
theorem list_follows {vs : List Json} (each : ∀ v ∈ vs, Follows item v (f v)) (ts : List Token) :
    Agree ts (list item (spellItems vs (.closeBracket :: ts))) (vs.mapM f) := by
  cases vs with
  | nil => exact .ok []
  | cons v vs =>
    obtain ⟨n, enough, opened⟩ := exists_list_eq_items item v vs ts
    rw [opened]
    exact items_follow each ts enough

variable {member : σ → String → Reader σ} {put : σ → String × Json → Except Fault σ}

theorem members_follow {m : String × Json} {ms : List (String × Json)}
    (each : ∀ s, ∀ l ∈ m :: ms, ∀ ts, Agree ts (member s l.1 (.colon :: spell l.2 ts)) (put s l))
    (start : σ) (ts : List Token) {n : Nat} (enough : ms.length ≤ n) :
    Agree ts (members member (n + 1) start (spellMembers (m :: ms) (.closeBrace :: ts)))
      ((m :: ms).foldlM put start) := by
  induction ms generalizing m start n with
  | nil =>
    rw [spellMembers, members, List.foldlM_cons]
    exact (each start m List.mem_cons_self _).bind fun s => .ok s
  | cons l ls ih =>
    cases n with
    | zero => cases enough
    | succ n =>
      rw [spellMembers, members, List.foldlM_cons]
      refine (each start m List.mem_cons_self _).bind fun s => ?_
      have others : ∀ s, ∀ k ∈ l :: ls, ∀ ts,
          Agree ts (member s k.1 (.colon :: spell k.2 ts)) (put s k) :=
        fun s k mem => each s k (List.mem_cons_of_mem m mem)
      exact ih others s (Nat.le_of_succ_le_succ enough)

/-- An object is read as its members are, one after the other. -/
theorem object_follows {ms : List (String × Json)}
    (each : ∀ s, ∀ m ∈ ms, ∀ ts, Agree ts (member s m.1 (.colon :: spell m.2 ts)) (put s m))
    (start : σ) (ts : List Token) :
    Agree ts (object member start (spellMembers ms (.closeBrace :: ts))) (ms.foldlM put start) := by
  cases ms with
  | nil => exact .ok start
  | cons m ms =>
    obtain ⟨n, enough, opened⟩ := exists_object_eq_members member start m ms ts
    rw [opened]
    exact members_follow each start ts enough

end Targeting.Json.Reader
