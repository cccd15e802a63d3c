import Mathlib.Data.String.Basic
import Targeting.Json.Basic

/-!
# Members of an object

Of the members with one name the last counts; `Json.bound?` finds it, and `Json.Sole` says that an
object has members of one name only. Sorting the members by name keeps what each name is bound to
(`Json.bound?_sortMembers`) and leaves every name once, so no object of a sorted value repeats a
name (`Json.distinct_sorted`).
-/

set_option autoImplicit false

namespace Targeting.Json

/-- The value of the last member with a name. -/
def bound? (name : String) : List (String × Json) → Option Json
  | [] => none
  | (n, v) :: rest => (bound? name rest).or (if n = name then some v else none)

/-- The members have one name, to which the value is bound. -/
def Sole (name : String) (v : Json) (members : List (String × Json)) : Prop :=
  bound? name members = some v ∧ ∀ m ∈ members, m.1 = name

/-- Members in the order of their names, each name once. -/
def InOrder (members : List (String × Json)) : Prop :=
  members.Pairwise fun a b => a.1 < b.1

mutual

/-- Does no object in the value repeat a name? -/
def distinct : Json → Bool
  | array items => distinctItems items
  | object members => decide (members.map Prod.fst).Nodup && distinctMembers members
  | _ => true

/-- Does no object in the items repeat a name? -/
def distinctItems : List Json → Bool
  | [] => true
  | v :: vs => v.distinct && distinctItems vs

/-- Does no object in the values of the members repeat a name? -/
def distinctMembers : List (String × Json) → Bool
  | [] => true
  | (_, v) :: rest => v.distinct && distinctMembers rest

end

theorem distinctItems_iff (items : List Json) :
    distinctItems items = true ↔ ∀ v ∈ items, v.distinct = true := by
  induction items with
  | nil => simp [distinctItems]
  | cons v vs ih => simp [distinctItems, ih]

theorem distinctMembers_iff (members : List (String × Json)) :
    distinctMembers members = true ↔ ∀ m ∈ members, m.2.distinct = true := by
  induction members with
  | nil => simp [distinctMembers]
  | cons m ms ih => simp [distinctMembers, ih]

theorem distinct_object_iff (members : List (String × Json)) :
    (object members).distinct = true ↔
      (members.map Prod.fst).Nodup ∧ ∀ m ∈ members, m.2.distinct = true := by
  rw [distinct, Bool.and_eq_true, decide_eq_true_eq, distinctMembers_iff]

variable {name : String} {v : Json} {members : List (String × Json)}

theorem bound?_eq_none_iff : bound? name members = none ↔ ∀ m ∈ members, m.1 ≠ name := by
  induction members with
  | nil => simp [bound?]
  | cons m ms ih => simp [bound?, ih, and_comm]

theorem mem_of_bound? (found : bound? name members = some v) : (name, v) ∈ members := by
  induction members with
  | nil => cases found
  | cons m ms ih =>
    rw [bound?, Option.or_eq_some_iff] at found
    obtain later | ⟨-, here⟩ := found
    · exact List.mem_cons_of_mem m (ih later)
    · obtain ⟨same, value⟩ := Option.ite_none_right_eq_some.1 here
      rw [← same, ← Option.some.inj value]
      exact List.mem_cons_self

/-- Where no name is repeated every member counts. -/
theorem bound?_of_mem (nodup : (members.map Prod.fst).Nodup) (mem : (name, v) ∈ members) :
    bound? name members = some v := by
  induction members with
  | nil => cases mem
  | cons m ms ih =>
    obtain ⟨fresh, others⟩ := List.nodup_cons.1 nodup
    rw [bound?]
    obtain rfl | later := List.mem_cons.1 mem
    · have absent : bound? name ms = none := by
        rw [bound?_eq_none_iff]
        intro m there same
        exact fresh (List.mem_map.2 ⟨m, there, same⟩)
      simp [absent]
    · rw [ih others later, Option.some_or]

theorem bound?_append (ms : List (String × Json)) :
    bound? name (members ++ ms) = (bound? name ms).or (bound? name members) := by
  induction members with
  | nil => simp [bound?]
  | cons m rest ih => rw [List.cons_append, bound?, ih, bound?, Option.or_assoc]

theorem bound?_append_single (other : String) (m : String × Json) :
    bound? other (members ++ [m]) = if m.1 = other then some m.2 else bound? other members := by
  rw [bound?_append, bound?, bound?, Option.none_or]
  split
  · rw [Option.some_or]
  · rw [Option.none_or]

/-- The last of members with different names has a name of its own. -/
theorem nodup_append_single {m : String × Json}
    (nodup : ((members ++ [m]).map Prod.fst).Nodup) :
    (members.map Prod.fst).Nodup ∧ bound? m.1 members = none := by
  rw [List.map_append, List.nodup_append] at nodup
  obtain ⟨others, -, differ⟩ := nodup
  refine ⟨others, bound?_eq_none_iff.2 fun n mem => ?_⟩
  exact differ n.1 (List.mem_map_of_mem mem) m.1 List.mem_cons_self

theorem bound?_sortedMembers (members : List (String × Json)) :
    bound? name (sortedMembers members) = (bound? name members).map sorted := by
  induction members with
  | nil => rfl
  | cons m ms ih =>
    rw [sortedMembers, bound?, ih, bound?, Option.map_or]
    split <;> rfl

/-- Where no name is repeated the sole name stands once. -/
theorem sole_iff_of_nodup (nodup : (members.map Prod.fst).Nodup) :
    Sole name v members ↔ members = [(name, v)] := by
  constructor
  · rintro ⟨found, same⟩
    have mem := mem_of_bound? found
    match members, nodup with
    | [], _ => cases mem
    | [m], _ => rw [List.mem_singleton.1 mem]
    | m :: n :: ms, nodup =>
      have first := same m List.mem_cons_self
      have second := same n (List.mem_cons_of_mem m List.mem_cons_self)
      simp [first, second] at nodup
  · rintro rfl
    simp [Sole, bound?]

theorem mem_of_mem_putMember {m : String × Json} (mem : m ∈ putMember name v members) :
    m = (name, v) ∨ m ∈ members := by
  induction members with
  | nil => exact .inl (List.mem_singleton.1 mem)
  | cons n ms ih =>
    rw [putMember] at mem
    split at mem
    · exact List.mem_cons.1 mem
    · split at mem
      · exact (List.mem_cons.1 mem).imp_right (List.mem_cons_of_mem n)
      · obtain rfl | later := List.mem_cons.1 mem
        · exact .inr List.mem_cons_self
        · exact (ih later).imp_right (List.mem_cons_of_mem n)

theorem inOrder_putMember (order : InOrder members) : InOrder (putMember name v members) := by
  induction members with
  | nil => exact List.pairwise_singleton _ _
  | cons n ms ih =>
    obtain ⟨least, later⟩ := List.pairwise_cons.1 order
    rw [putMember]
    split
    · rename_i before
      refine List.pairwise_cons.2 ⟨fun m mem => ?_, order⟩
      obtain rfl | mem := List.mem_cons.1 mem
      · exact before
      · exact before.trans (least m mem)
    · rename_i notBefore
      split
      · rename_i same
        exact List.pairwise_cons.2 ⟨fun m mem => same ▸ least m mem, later⟩
      · rename_i differ
        refine List.pairwise_cons.2 ⟨fun m mem => ?_, ih later⟩
        obtain rfl | mem := mem_of_mem_putMember mem
        · exact (lt_or_gt_of_ne differ).resolve_left notBefore
        · exact least m mem

/-- A member that is put among members in order takes the place of the one with its name. -/
theorem bound?_putMember (order : InOrder members) (other : String) :
    bound? other (putMember name v members) =
      if name = other then some v else bound? other members := by
  induction members with
  | nil => simp [putMember, bound?]
  | cons n ms ih =>
    obtain ⟨least, later⟩ := List.pairwise_cons.1 order
    rw [putMember]
    split
    · rename_i before
      have absent : bound? name (n :: ms) = none := by
        refine bound?_eq_none_iff.2 fun m mem => ?_
        obtain rfl | mem := List.mem_cons.1 mem
        · exact before.ne'
        · exact (before.trans (least m mem)).ne'
      rw [bound?]
      split
      · rename_i same
        rw [← same, absent, Option.none_or]
      · rw [Option.or_none]
    · split
      · rename_i same
        have absent : bound? name ms = none :=
          bound?_eq_none_iff.2 fun m mem => (same ▸ least m mem).ne'
        rw [bound?, bound?, ← same]
        split
        · rename_i same
          rw [← same, absent, Option.none_or]
        · rfl
      · rename_i differ
        rw [bound?, ih later, bound?]
        split
        · rw [Option.some_or]
        · rfl

/-- Putting members among those in order, one after the other. -/
theorem bound?_foldl_putMember (other : String) (members : List (String × Json))
    {kept : List (String × Json)} (order : InOrder kept) :
    InOrder (members.foldl (fun sorted m => putMember m.1 m.2 sorted) kept) ∧
      bound? other (members.foldl (fun sorted m => putMember m.1 m.2 sorted) kept) =
        (bound? other members).or (bound? other kept) := by
  induction members generalizing kept with
  | nil => exact ⟨order, rfl⟩
  | cons m ms ih =>
    have next : InOrder (putMember m.1 m.2 kept) := inOrder_putMember order
    obtain ⟨ordered, found⟩ := ih next
    refine ⟨ordered, ?_⟩
    rw [List.foldl_cons, found, bound?_putMember order, bound?, Option.or_assoc]
    split <;> rfl

theorem inOrder_sortMembers (members : List (String × Json)) : InOrder (sortMembers members) :=
  (bound?_foldl_putMember "" members .nil).1

/-- **Sorting keeps what every name is bound to.** -/
theorem bound?_sortMembers (name : String) (members : List (String × Json)) :
    bound? name (sortMembers members) = bound? name members := by
  rw [sortMembers, (bound?_foldl_putMember name members .nil).2]
  exact Option.or_none

theorem nodup_sortMembers (members : List (String × Json)) :
    ((sortMembers members).map Prod.fst).Nodup := by
  rw [List.Nodup, List.pairwise_map]
  exact (inOrder_sortMembers members).imp fun before => before.ne

theorem mem_of_mem_sortMembers {m : String × Json} (mem : m ∈ sortMembers members) :
    m ∈ members := by
  have found := bound?_of_mem (nodup_sortMembers members) mem
  rw [bound?_sortMembers] at found
  exact mem_of_bound? found

/-- What names the members have is told by what is bound. -/
theorem forall_name_iff : (∀ m ∈ members, m.1 = name) ↔
    ∀ other, other ≠ name → bound? other members = none := by
  constructor
  · intro same other differ
    refine bound?_eq_none_iff.2 fun m mem => ?_
    rw [same m mem]
    exact differ.symm
  · intro absent m mem
    by_contra differ
    exact bound?_eq_none_iff.1 (absent m.1 differ) m mem rfl

/-! ## What a sorted value was before -/

theorem sorted_eq_null_iff : v.sorted = null ↔ v = null := by
  cases v <;> simp [sorted]

theorem sorted_eq_string_iff {s : String} : v.sorted = string s ↔ v = string s := by
  cases v <;> simp [sorted]

theorem sorted_eq_array_iff {items : List Json} :
    v.sorted = array items ↔ ∃ raw, v = array raw ∧ sortedItems raw = items := by
  cases v <;> simp [sorted]

theorem sorted_eq_object_iff {sortedOnes : List (String × Json)} :
    v.sorted = object sortedOnes ↔
      ∃ raw, v = object raw ∧ sortMembers (sortedMembers raw) = sortedOnes := by
  cases v <;> simp [sorted]

theorem map_sorted_eq_string_iff {found : Option Json} {s : String} :
    found.map sorted = some (string s) ↔ found = some (string s) := by
  cases found with
  | none => rfl
  | some v => simp only [Option.map_some, Option.some.injEq, sorted_eq_string_iff]

theorem getElem?_sortedItems (items : List Json) (i : Nat) :
    (sortedItems items)[i]? = items[i]?.map sorted := by
  induction items generalizing i with
  | nil => rfl
  | cons v vs ih =>
    rw [sortedItems]
    cases i with
    | zero => rfl
    | succ i => exact ih i

theorem length_sortedItems (items : List Json) : (sortedItems items).length = items.length := by
  induction items with
  | nil => rfl
  | cons v vs ih => rw [sortedItems, List.length_cons, ih, List.length_cons]

theorem bound?_sorted (name : String) (members : List (String × Json)) :
    bound? name (sortMembers (sortedMembers members)) = (bound? name members).map sorted := by
  rw [bound?_sortMembers, bound?_sortedMembers]

/-- Sorting a sole member sorts its value. -/
theorem sole_sorted_iff :
    Sole name v (sortMembers (sortedMembers members)) ↔
      ∃ w, Sole name w members ∧ w.sorted = v := by
  have names : (∀ m ∈ sortMembers (sortedMembers members), m.1 = name) ↔
      ∀ m ∈ members, m.1 = name := by
    simp only [forall_name_iff, bound?_sorted, Option.map_eq_none_iff]
  rw [Sole, bound?_sorted, Option.map_eq_some_iff, names]
  constructor
  · rintro ⟨⟨w, found, same⟩, only⟩
    exact ⟨w, ⟨found, only⟩, same⟩
  · rintro ⟨w, ⟨found, only⟩, same⟩
    exact ⟨⟨w, found, same⟩, only⟩

mutual

/-- **No object of a sorted value repeats a name.** -/
theorem distinct_sorted : (v : Json) → v.sorted.distinct = true
  | null => rfl
  | bool _ => rfl
  | number _ => rfl
  | string _ => rfl
  | array items => by
    rw [sorted, distinct, distinctItems_iff]
    exact distinct_sortedItems items
  | object members => by
    rw [sorted, distinct_object_iff]
    refine ⟨nodup_sortMembers _, fun m mem => ?_⟩
    exact distinct_sortedMembers members m (mem_of_mem_sortMembers mem)

theorem distinct_sortedItems : (items : List Json) → ∀ v ∈ sortedItems items, v.distinct = true
  | [] => fun _ mem => by cases mem
  | v :: vs => List.forall_mem_cons.2 ⟨distinct_sorted v, distinct_sortedItems vs⟩

theorem distinct_sortedMembers : (members : List (String × Json)) →
    ∀ m ∈ sortedMembers members, m.2.distinct = true
  | [] => fun _ mem => by cases mem
  | (_, v) :: ms => List.forall_mem_cons.2 ⟨distinct_sorted v, distinct_sortedMembers ms⟩

end

end Targeting.Json
