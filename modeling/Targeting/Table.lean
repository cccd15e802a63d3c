/-!
# Finite tables

A table binds keys to values, each key once. It is a list of entries whose keys differ, so its size
is the number of bound keys. What an operation does is said by the look-ups that follow it:
`find?_insert`, `find?_erase` and `find?_empty`.
-/

set_option autoImplicit false

namespace Targeting

/-- Keys bound to values, each key at most once. -/
structure Table (κ ν : Type) where
  entries : List (κ × ν)
  distinct : (entries.map Prod.fst).Nodup := by simp

namespace Table

variable {κ ν : Type}

/-- No key is bound. -/
def empty : Table κ ν := ⟨[], by simp⟩

instance : Inhabited (Table κ ν) := ⟨empty⟩

/-- How many keys are bound. -/
def size (t : Table κ ν) : Nat :=
  t.entries.length

/-- The bound keys. -/
def keys (t : Table κ ν) : List κ :=
  t.entries.map Prod.fst

variable [DecidableEq κ]

/-- The value of a key in a list of entries. -/
def findIn (key : κ) : List (κ × ν) → Option ν
  | [] => none
  | (k, v) :: rest => if k = key then some v else findIn key rest

/-- The value a key is bound to. -/
def find? (t : Table κ ν) (key : κ) : Option ν :=
  findIn key t.entries

/-- Removes the binding of a key. -/
def erase (t : Table κ ν) (key : κ) : Table κ ν where
  entries := t.entries.filter fun e => e.1 ≠ key
  distinct := t.distinct.sublist (List.filter_sublist.map _)

/-- Binds a key, in place of an earlier binding. -/
def insert (t : Table κ ν) (key : κ) (value : ν) : Table κ ν where
  entries := (key, value) :: (t.erase key).entries
  distinct := by
    refine List.nodup_cons.2 ⟨?_, (t.erase key).distinct⟩
    simp [erase]

@[simp] theorem find?_empty (key : κ) : (empty : Table κ ν).find? key = none := rfl

theorem findIn_filter (key erased : κ) (es : List (κ × ν)) :
    findIn key (es.filter fun e => e.1 ≠ erased) =
      if key = erased then none else findIn key es := by
  induction es with
  | nil => simp [findIn]
  | cons e es ih =>
    obtain ⟨k, v⟩ := e
    by_cases hk : k = erased
    · subst hk
      simp only [ne_eq, not_true_eq_false, decide_false, List.filter_cons_of_neg,
        Bool.false_eq_true, not_false_eq_true] at ih ⊢
      rw [ih]
      by_cases h : key = k
      · simp [h]
      · simp [findIn, h, Ne.symm h]
    · simp only [ne_eq, hk, not_false_eq_true, decide_true, List.filter_cons_of_pos, findIn] at ih ⊢
      rw [ih]
      by_cases h : key = erased
      · subst h
        simp [hk]
      · simp [h]

theorem find?_erase (t : Table κ ν) (erased key : κ) :
    (t.erase erased).find? key = if key = erased then none else t.find? key :=
  findIn_filter key erased t.entries

theorem find?_insert (t : Table κ ν) (bound key : κ) (value : ν) :
    (t.insert bound value).find? key = if key = bound then some value else t.find? key := by
  by_cases h : key = bound
  · subst h
    simp [insert, find?, findIn]
  · have := find?_erase t bound key
    simp only [find?] at this
    simp [insert, find?, findIn, this, h, Ne.symm h]

theorem findIn_eq_none_iff (key : κ) (es : List (κ × ν)) :
    findIn key es = none ↔ key ∉ es.map Prod.fst := by
  induction es with
  | nil => simp [findIn]
  | cons e es ih =>
    obtain ⟨k, v⟩ := e
    by_cases h : k = key
    · simp [findIn, h]
    · simp [findIn, h, ih, Ne.symm h]

theorem find?_eq_none_iff (t : Table κ ν) (key : κ) : t.find? key = none ↔ key ∉ t.keys :=
  findIn_eq_none_iff key t.entries

end Table

end Targeting
