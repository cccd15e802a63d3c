import Mathlib.Algebra.BigOperators.Ring.Finset
import Mathlib.Data.Set.Card
import Targeting.Condition.Basic

/-!
# How large and how deep a condition is

The size of a condition is one more than the sizes of its parts together, its depth one more than the
largest depth of a part (`Condition.size_eq`, `Condition.depth_eq`); nothing else is used of them. A
place in a condition is the list of the numbers of the parts that lead down to it. The size counts the
places (`Condition.eq_encard_places`), the depth is the length of a longest way down
(`Condition.isGreatest_depth`), and both agree exactly where no node has a second part, so that the
condition is a single way down (`Condition.depth_eq_size_iff`).
-/

set_option autoImplicit false

namespace Targeting

namespace Condition

/-! ## From the parts to the whole -/

theorem sizes_eq (cs : List Condition) : sizes cs = (cs.map size).sum := by
  induction cs with
  | nil => rfl
  | cons c cs ih => rw [sizes, ih, List.map_cons, List.sum_cons]

theorem size_eq (c : Condition) : c.size = 1 + (c.children.map size).sum := by
  cases c with
  | and parts | or parts => rw [size, sizes_eq, children]
  | not part => rw [size, children, List.map_singleton, List.sum_singleton]
  | leaf l => rfl

theorem depths_eq (cs : List Condition) : depths cs = (cs.map depth).max?.getD 0 := by
  induction cs with
  | nil => rfl
  | cons c cs ih =>
    rw [depths, ih, List.map_cons, List.max?_cons]
    cases (cs.map depth).max? with
    | none => exact Nat.max_zero c.depth
    | some largest => rfl

theorem depth_eq (c : Condition) : c.depth = 1 + (c.children.map depth).max?.getD 0 := by
  cases c with
  | and parts | or parts => rw [depth, depths_eq, children]
  | not part => rfl
  | leaf l => rfl

theorem length_leavesList (cs : List Condition) :
    (leavesList cs).length = (cs.map (·.leaves.length)).sum := by
  induction cs with
  | nil => rfl
  | cons c cs ih => rw [leavesList, List.length_append, ih, List.map_cons, List.sum_cons]

theorem size_pos (c : Condition) : 0 < c.size := by
  rw [size_eq]
  omega

/-- Beside a part, each of the other parts adds to the size at least one. -/
theorem size_add_length_le {cs : List Condition} {c : Condition} (member : c ∈ cs) :
    c.size + cs.length ≤ (cs.map size).sum + 1 := by
  induction cs with
  | nil => cases member
  | cons d cs ih =>
    rw [List.map_cons, List.sum_cons, List.length_cons]
    rcases List.mem_cons.1 member with rfl | later
    · have others : cs.length ≤ (cs.map size).sum := by
        rw [← List.length_map size]
        exact List.length_le_sum_of_one_le _ (by simpa using fun c _ => c.size_pos)
      omega
    · have counted := ih later
      have beside := d.size_pos
      omega

theorem size_add_length_children_le {c part : Condition} (member : part ∈ c.children) :
    part.size + c.children.length ≤ c.size := by
  have parts := size_add_length_le member
  rw [c.size_eq]
  omega

theorem size_lt_of_mem_children {c part : Condition} (member : part ∈ c.children) :
    part.size < c.size := by
  have counted := size_add_length_children_le member
  have some_part := List.length_pos_of_mem member
  omega

/-- What a condition has as soon as all its parts have it, every condition has. -/
theorem induction_on_children {motive : Condition → Prop}
    (step : ∀ c, (∀ part ∈ c.children, motive part) → motive c) (c : Condition) : motive c := by
  refine step c fun part member => ?_
  have smaller := size_lt_of_mem_children member
  exact induction_on_children step part
termination_by c.size

/-- Either there are no parts, or the depth is one more than that of a deepest part. -/
theorem depth_cases (c : Condition) :
    (c.children = [] ∧ c.depth = 1) ∨
      ∃ part ∈ c.children, c.depth = part.depth + 1 ∧
        ∀ other ∈ c.children, other.depth ≤ part.depth := by
  rw [depth_eq]
  cases largest : (c.children.map depth).max? with
  | none =>
    rw [List.max?_eq_none_iff, List.map_eq_nil_iff] at largest
    exact .inl ⟨largest, rfl⟩
  | some n =>
    obtain ⟨attained, bound⟩ := List.max?_eq_some_iff.1 largest
    obtain ⟨part, member, rfl⟩ := List.mem_map.1 attained
    refine .inr ⟨part, member, Nat.add_comm .., fun other among => ?_⟩
    exact bound _ (List.mem_map_of_mem among)

theorem depth_lt_of_mem_children {c part : Condition} (member : part ∈ c.children) :
    part.depth < c.depth := by
  obtain ⟨empty, -⟩ | ⟨deepest, -, depth, bound⟩ := c.depth_cases
  · rw [empty] at member
    cases member
  · have at_most := bound part member
    omega

/-! ## Places -/

/-- The node at a place, if the place is within the condition. -/
def node? : Condition → List Nat → Option Condition
  | c, [] => some c
  | c, i :: place => c.children[i]?.bind (node? · place)

/-- The places at which there is a node with a property. -/
def places (c : Condition) (P : Condition → Prop) : Set (List Nat) :=
  {place | ∃ node, c.node? place = some node ∧ P node}

/-- Such places within several parts, of which the first has the number `first`, so that taking a part
off the list leaves the other places where they are. -/
def placesFrom (first : Nat) (cs : List Condition) (P : Condition → Prop) : Set (List Nat) :=
  {place | ∃ i within part, place = (first + i) :: within ∧ cs[i]? = some part ∧
    within ∈ part.places P}

variable {c : Condition} {P : Condition → Prop}

theorem nil_mem_places_iff : [] ∈ c.places P ↔ P c := by
  simp [places, node?]

theorem cons_mem_places_iff {i : Nat} {place : List Nat} :
    i :: place ∈ c.places P ↔ ∃ part, c.children[i]? = some part ∧ place ∈ part.places P := by
  simp only [places, node?, Set.mem_ofPred_eq, Option.bind_eq_some_iff]
  constructor
  · rintro ⟨node, ⟨part, found, reached⟩, holds⟩
    exact ⟨part, found, node, reached, holds⟩
  · rintro ⟨part, found, node, reached, holds⟩
    exact ⟨node, ⟨part, found, reached⟩, holds⟩

/-- A property is nowhere if it is neither at the root nor anywhere in a part. -/
theorem places_eq_empty_iff :
    c.places P = ∅ ↔ ¬ P c ∧ ∀ part ∈ c.children, part.places P = ∅ := by
  simp only [Set.eq_empty_iff_forall_notMem]
  constructor
  · intro nowhere
    refine ⟨fun holds => nowhere [] (nil_mem_places_iff.2 holds), fun part member place stands => ?_⟩
    obtain ⟨i, found⟩ := List.getElem?_of_mem member
    exact nowhere (i :: place) (cons_mem_places_iff.2 ⟨part, found, stands⟩)
  · rintro ⟨root, parts⟩ (_ | ⟨i, place⟩) stands
    · exact root (nil_mem_places_iff.1 stands)
    · obtain ⟨part, found, within⟩ := cons_mem_places_iff.1 stands
      exact parts part (List.mem_of_getElem? found) place within

/-- Each place has the property or has it not. -/
theorem encard_places_add (c : Condition) (P : Condition → Prop) :
    (c.places P).encard + (c.places fun node => ¬ P node).encard =
      (c.places fun _ => True).encard := by
  rw [← Set.encard_union_eq]
  · congr 1
    ext place
    simp only [places, Set.mem_union, Set.mem_ofPred_eq, ← exists_or, ← and_or_left, Classical.em]
  · rw [Set.disjoint_left]
    rintro place ⟨node, here, holds⟩ ⟨other, there, fails⟩
    rw [here, Option.some_inj] at there
    exact fails (there ▸ holds)

theorem placesFrom_cons (first : Nat) (c : Condition) (cs : List Condition)
    (P : Condition → Prop) :
    placesFrom first (c :: cs) P = List.cons first '' c.places P ∪ placesFrom (first + 1) cs P := by
  ext place
  constructor
  · rintro ⟨_ | i, within, part, rfl, found, stands⟩
    · cases found
      exact .inl ⟨within, stands, rfl⟩
    · exact .inr ⟨i, within, part, by rw [Nat.add_right_comm, Nat.add_assoc], found, stands⟩
  · rintro (⟨within, stands, rfl⟩ | ⟨i, within, part, rfl, found, stands⟩)
    · exact ⟨0, within, c, rfl, rfl, stands⟩
    · exact ⟨i + 1, within, part, by rw [Nat.add_right_comm, Nat.add_assoc], found, stands⟩

/-- Places in different parts are different. -/
theorem encard_placesFrom (first : Nat) (cs : List Condition) (P : Condition → Prop) :
    (placesFrom first cs P).encard = (cs.map fun part => (part.places P).encard).sum := by
  induction cs generalizing first with
  | nil => simp [placesFrom]
  | cons c cs ih =>
    rw [placesFrom_cons, Set.encard_union_eq, ih, List.cons_injective.encard_image, List.map_cons,
      List.sum_cons]
    rw [Set.disjoint_left]
    rintro _ ⟨place, -, rfl⟩ ⟨i, within, part, same, -⟩
    have number := (List.cons.inj same).1
    omega

/-- The root is one place, and the others are in the parts. -/
theorem encard_places (c : Condition) (P : Condition → Prop) [DecidablePred P] :
    (c.places P).encard =
      (if P c then 1 else 0) + (c.children.map fun part => (part.places P).encard).sum := by
  have split : c.places P = {place | place = [] ∧ P c} ∪ placesFrom 0 c.children P := by
    ext (_ | ⟨i, place⟩)
    · simp [nil_mem_places_iff, placesFrom]
    · simp [cons_mem_places_iff, placesFrom]
  have root : {place : List Nat | place = [] ∧ P c}.encard = if P c then 1 else 0 := by
    by_cases holds : P c <;> simp [holds]
  rw [split, Set.encard_union_eq, encard_placesFrom, root]
  · rw [Set.disjoint_left]
    rintro _ ⟨rfl, -⟩ ⟨i, within, part, same, -⟩
    cases same

/-- **What adds up over the parts counts places**: a number that is the sum of those of the parts, and
one more if the root has a property, is the number of places with that property. -/
theorem eq_encard_places {f : Condition → Nat} [DecidablePred P]
    (adds : ∀ c, f c = (if P c then 1 else 0) + (c.children.map f).sum) (c : Condition) :
    (f c : ℕ∞) = (c.places P).encard := by
  induction c using induction_on_children with
  | step c ih =>
    rw [adds, encard_places, Nat.cast_add, Nat.cast_list_sum, List.map_map]
    congr 1
    · split <;> rfl
    · exact congrArg List.sum (List.map_congr_left ih)

/-- Does the node join parts, instead of testing an attribute? -/
def isComposite : Condition → Bool
  | leaf _ => false
  | _ => true

theorem length_leaves (c : Condition) :
    c.leaves.length =
      (if ¬ c.isComposite then 1 else 0) + (c.children.map (·.leaves.length)).sum := by
  cases c with
  | and parts | or parts => simp [leaves, length_leavesList, children, isComposite]
  | not part => simp [leaves, children, isComposite]
  | leaf l => simp [leaves, children, isComposite]

/-! ## Ways down -/

/-- The nodes on a way that starts at the root and goes from each node to one of its parts; it may
stop anywhere. -/
inductive WayDown : Condition → List Condition → Prop
  | stop (c : Condition) : WayDown c [c]
  | down {c part : Condition} {way : List Condition} (member : part ∈ c.children)
    (rest : WayDown part way) : WayDown c (c :: way)

theorem WayDown.length_le {c : Condition} {way : List Condition} (h : WayDown c way) :
    way.length ≤ c.depth := by
  induction h with
  | stop c =>
    rw [depth_eq]
    exact Nat.le_add_right 1 _
  | down member _ ih => exact Nat.lt_of_le_of_lt ih (depth_lt_of_mem_children member)

theorem exists_wayDown (c : Condition) : ∃ way, WayDown c way ∧ way.length = c.depth := by
  induction c using induction_on_children with
  | step c ih =>
    obtain ⟨-, depth⟩ | ⟨deepest, member, depth, -⟩ := c.depth_cases
    · exact ⟨[c], .stop c, depth.symm⟩
    · obtain ⟨way, down, length⟩ := ih deepest member
      refine ⟨c :: way, .down member down, ?_⟩
      rw [List.length_cons, length, depth]

/-- The depth is the number of nodes on a longest way down. -/
theorem isGreatest_depth (c : Condition) :
    IsGreatest {n | ∃ way, WayDown c way ∧ way.length = n} c.depth := by
  refine ⟨c.exists_wayDown, ?_⟩
  rintro _ ⟨way, down, rfl⟩
  exact down.length_le

/-! ## Depth against size -/

theorem depth_pos (c : Condition) : 0 < c.depth := by
  rw [depth_eq]
  omega

theorem depth_le_size (c : Condition) : c.depth ≤ c.size := by
  induction c using induction_on_children with
  | step c ih =>
    obtain ⟨-, depth⟩ | ⟨deepest, member, depth, -⟩ := c.depth_cases
    · rw [depth]
      exact c.size_pos
    · have below := ih deepest member
      have counted := size_lt_of_mem_children member
      omega

/-- A part beside the deepest one is counted, but nothing gets deeper by it. -/
theorem depth_lt_size {c : Condition} (beside : 1 < c.children.length) : c.depth < c.size := by
  obtain ⟨empty, -⟩ | ⟨deepest, member, depth, -⟩ := c.depth_cases
  · rw [empty] at beside
    cases beside
  · have below := deepest.depth_le_size
    have counted := size_add_length_children_le member
    omega

theorem size_of_children_eq_singleton {c part : Condition} (only : c.children = [part]) :
    c.size = part.size + 1 := by
  rw [c.size_eq, only, List.map_singleton, List.sum_singleton, Nat.add_comm]

theorem depth_of_children_eq_singleton {c part : Condition} (only : c.children = [part]) :
    c.depth = part.depth + 1 := by
  rw [c.depth_eq, only, Nat.add_comm]
  rfl

/-- Depth and size agree where no node has a second part. -/
theorem depth_eq_size_iff (c : Condition) :
    c.depth = c.size ↔ c.places (fun node => 1 < node.children.length) = ∅ := by
  induction c using induction_on_children with
  | step c ih =>
    rw [places_eq_empty_iff]
    -- Above a single part both are one more than below; a second part adds to the size alone.
    match parts : c.children with
    | [] => simp [c.depth_eq, c.size_eq, parts]
    | [part] =>
      rw [depth_of_children_eq_singleton parts, size_of_children_eq_singleton parts,
        Nat.add_right_cancel_iff, ih part (by rw [parts]; exact List.mem_singleton_self part)]
      simp
    | first :: second :: others =>
      have wide : 1 < c.children.length := by simp [parts]
      refine iff_of_false (Nat.ne_of_lt (depth_lt_size wide)) ?_
      rintro ⟨narrow, -⟩
      exact narrow (parts ▸ wide)

/-! ## Layers around a condition -/

/-- A node with a single part. -/
inductive Layer where
  /-- It negates the part. -/
  | not
  /-- It is a conjunction of that part alone. -/
  | onlyAnd
  /-- It is a disjunction of that part alone. -/
  | onlyOr

/-- The condition within a layer. -/
def Layer.wrap : Layer → Condition → Condition
  | not, c => .not c
  | onlyAnd, c => .and [c]
  | onlyOr, c => .or [c]

/-- The condition within several layers, the first of them outermost. -/
def wrap (c : Condition) (layers : List Layer) : Condition :=
  layers.foldr Layer.wrap c

theorem Layer.children_wrap (layer : Layer) (c : Condition) : (layer.wrap c).children = [c] := by
  cases layer <;> rfl

/-- A measure that is one more than that of a sole part grows by one with every layer. -/
theorem measure_wrap {f : Condition → Nat}
    (grows : ∀ {c part : Condition}, c.children = [part] → f c = f part + 1) (c : Condition)
    (layers : List Layer) : f (c.wrap layers) = f c + layers.length := by
  induction layers with
  | nil => rfl
  | cons layer layers ih =>
    have within := layer.children_wrap (c.wrap layers)
    exact (grows within).trans (congrArg (· + 1) ih)

/-- **Size and depth are exact.** The size of a condition is the number of its composites and of its
leaves, each counted at every place where it stands. The depth is the number of nodes on a longest
way down; it is at least one and at most the size, and it is the size if and only if no node has more
than one part. Every layer that is put around a condition raises both by one. -/
theorem size_and_depth_exact (c : Condition) :
    (c.size : ℕ∞) =
      (c.places fun node => node.isComposite).encard +
        (c.places fun node => ¬ node.isComposite).encard ∧
    (c.places fun node => ¬ node.isComposite).encard = c.leaves.length ∧
    IsGreatest {n | ∃ way, WayDown c way ∧ way.length = n} c.depth ∧
    1 ≤ c.depth ∧ c.depth ≤ c.size ∧
    (c.depth = c.size ↔ c.places (fun node => 1 < node.children.length) = ∅) ∧
    ∀ layers : List Layer, (c.wrap layers).size = c.size + layers.length ∧
      (c.wrap layers).depth = c.depth + layers.length := by
  refine ⟨?_, (eq_encard_places length_leaves c).symm, c.isGreatest_depth, c.depth_pos,
    c.depth_le_size, c.depth_eq_size_iff, fun layers => ⟨?_, ?_⟩⟩
  · have everywhere (d : Condition) :
        d.size = (if True then 1 else 0) + (d.children.map size).sum := by
      rw [if_pos trivial, d.size_eq]
    rw [encard_places_add, eq_encard_places everywhere c]
  · exact measure_wrap size_of_children_eq_singleton c layers
  · exact measure_wrap depth_of_children_eq_singleton c layers

/-- The second part lies beside the longest way down. -/
example :
    let plan : Condition := .present "plan"
    let c : Condition := .or [.not plan, plan]
    c.size = 4 ∧ c.depth = 3 ∧ c.node? [0, 0] = some plan ∧ c.node? [1] = some plan := by
  decide

end Condition

end Targeting
