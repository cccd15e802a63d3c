import Targeting.Proofs.Requests

/-!
# Composites are put together from their parts

What a condition does on a source is a function of the pattern cache. A conjunction does what its
first part does and then what the rest does, unless the first part says no (`Evaluation.both`); a
disjunction is the mirror image (`Evaluation.either`). Joining does not depend on how the parts are
grouped, and nothing of a condition shows in a larger one but what it does
(`Condition.evaluate_fill_congr`). Validation does not even see the composites: it goes through the
leaves (`Condition.validate_eq_validateAll_leaves`). All this holds in every state of the cache.
-/

set_option autoImplicit false

namespace Targeting

namespace Verdict

theorem yes_and (v : Verdict) : yes.and v = v := by
  cases v <;> rfl

theorem and_assoc (u v w : Verdict) : (u.and v).and w = u.and (v.and w) := by
  cases u <;> cases v <;> cases w <;> rfl

theorem and_eq_no_iff (v w : Verdict) : v.and w = no ↔ v = no ∨ w = no := by
  cases v <;> cases w <;> decide

end Verdict

theorem Condition.leavesList_append (parts more : List Condition) :
    leavesList (parts ++ more) = leavesList parts ++ leavesList more := by
  induction parts with
  | nil => rfl
  | cons part parts ih => rw [List.cons_append, leavesList, leavesList, ih, List.append_assoc]

variable [Engine]

theorem Outcome.map_eq_self {α : Type} {f : α → α} {o : Outcome α}
    (same : f o.result = o.result) : o.map f = o := by
  rw [map, same]

/-- What evaluating a condition on a source does, from the pattern cache that it finds. -/
abbrev Evaluation : Type := PatternCache → Outcome Verdict

namespace Evaluation

/-- Nothing is done, and the verdict is known. -/
def settled (v : Verdict) : Evaluation :=
  fun cache => ⟨v, cache, []⟩

/-- The same with the opposite verdict. -/
def opposite (f : Evaluation) : Evaluation :=
  fun cache => (f cache).map .not

/-- One after the other, unless the first says no. -/
def both (f g : Evaluation) : Evaluation := fun cache =>
  let first := f cache
  if first.result = .no then first
  else ((g first.cache).map first.result.and).after first.events

/-- One after the other, unless the first says yes. -/
def either (f g : Evaluation) : Evaluation :=
  opposite (both (opposite f) (opposite g))

variable {f : Evaluation}

@[simp] theorem opposite_opposite (f : Evaluation) : opposite (opposite f) = f := by
  funext cache
  simp [opposite, Outcome.map]

theorem opposite_both (f g : Evaluation) :
    opposite (both f g) = either (opposite f) (opposite g) := by
  rw [either, opposite_opposite, opposite_opposite]

theorem opposite_either (f g : Evaluation) :
    opposite (either f g) = both (opposite f) (opposite g) := by
  rw [either, opposite_opposite]

/-- Nothing is done after a first `no`. -/
theorem both_of_no {cache : PatternCache} (g : Evaluation) (no : (f cache).result = .no) :
    both f g cache = f cache := by
  rw [both, if_pos no]

theorem both_of_ne_no {cache : PatternCache} (g : Evaluation) (open_ : (f cache).result ≠ .no) :
    both f g cache = ((g (f cache).cache).map (f cache).result.and).after (f cache).events := by
  rw [both, if_neg open_]

theorem settled_both (g : Evaluation) : both (settled .yes) g = g := by
  funext cache
  rw [both_of_ne_no g (by simp [settled])]
  simp [settled, Outcome.map, Outcome.after, Verdict.yes_and]

theorem both_settled (f : Evaluation) : both f (settled .yes) = f := by
  funext cache
  by_cases no : (f cache).result = .no
  · exact both_of_no _ no
  · rw [both_of_ne_no _ no]
    simp [settled, Outcome.map, Outcome.after]

/-- How a conjunction is grouped does not matter. -/
theorem both_assoc (f g h : Evaluation) : both (both f g) h = both f (both g h) := by
  funext cache
  by_cases first : (f cache).result = .no
  · have stops : both f g cache = f cache := both_of_no g first
    rw [both_of_no _ first, both_of_no h (by rw [stops, first]), stops]
  · have goes := both_of_ne_no g first
    rw [both_of_ne_no _ first]
    by_cases second : (g (f cache).cache).result = .no
    · have result : (both f g cache).result = .no := by
        rw [goes, Outcome.after_result, Outcome.map_result, second, Verdict.and_no]
      rw [both_of_no _ second, both_of_no _ result, goes]
    · have result : (both f g cache).result ≠ .no := by
        rw [goes, Outcome.after_result, Outcome.map_result, ne_eq, Verdict.and_eq_no_iff]
        exact not_or.2 ⟨first, second⟩
      rw [both_of_ne_no _ second, both_of_ne_no _ result, goes]
      simp [Outcome.map, Outcome.after, Verdict.and_assoc]

theorem settled_either (g : Evaluation) : either (settled .no) g = g := by
  have opposites : opposite (settled .no) = settled .yes := rfl
  rw [either, opposites, settled_both, opposite_opposite]

theorem either_settled (f : Evaluation) : either f (settled .no) = f := by
  have opposites : opposite (settled .no) = settled .yes := rfl
  rw [either, opposites, both_settled, opposite_opposite]

/-- How a disjunction is grouped does not matter. -/
theorem either_assoc (f g h : Evaluation) : either (either f g) h = either f (either g h) := by
  rw [either, opposite_either, both_assoc, ← opposite_either g h, ← either]

/-- Nothing is done after a first `yes`. -/
theorem either_of_yes {cache : PatternCache} (g : Evaluation) (yes : (f cache).result = .yes) :
    either f g cache = f cache := by
  have no : (opposite f cache).result = .no := by
    rw [opposite, Outcome.map_result, yes]
    rfl
  have stops := both_of_no (opposite g) no
  calc
    either f g cache = (both (opposite f) (opposite g) cache).map .not := rfl
    _ = opposite (opposite f) cache := by rw [stops]; rfl
    _ = f cache := by rw [opposite_opposite]

section Congruence

variable {f' g g' : Evaluation} {cache : PatternCache}

theorem both_congr_left (g : Evaluation) (same : f cache = f' cache) :
    both f g cache = both f' g cache := by
  simp only [both, same]

/-- The second matters on the cache that the first leaves. -/
theorem both_congr_right (same : g (f cache).cache = g' (f cache).cache) :
    both f g cache = both f g' cache := by
  simp only [both, same]

theorem either_congr_left (g : Evaluation) (same : f cache = f' cache) :
    either f g cache = either f' g cache := by
  have opposites : opposite f cache = opposite f' cache := congrArg (Outcome.map Verdict.not) same
  exact congrArg (Outcome.map Verdict.not) (both_congr_left (opposite g) opposites)

theorem either_congr_right (same : g (f cache).cache = g' (f cache).cache) :
    either f g cache = either f g' cache := by
  have opposites : opposite g (f cache).cache = opposite g' (f cache).cache :=
    congrArg (Outcome.map Verdict.not) same
  exact congrArg (Outcome.map Verdict.not) (both_congr_right opposites)

end Congruence

end Evaluation

open Evaluation

namespace Condition

section Parts

variable (look : String → Option Value)

/-- An unknown part before the others makes unknown what would be yes. -/
theorem evaluateAll_unsure (parts : List Condition) (cache : PatternCache) :
    evaluateAll look true parts cache =
      (evaluateAll look false parts cache).map (Verdict.and .unknown) := by
  have idle (v : Verdict) :
      Verdict.and .unknown (Verdict.and .unknown v) = Verdict.and .unknown v := by
    cases v <;> rfl
  induction parts generalizing cache with
  | nil => rfl
  | cons part parts ih =>
    simp only [evaluateAll]
    cases settled : (evaluate look part cache).result with
    | no => exact (Outcome.map_eq_self (by rw [settled]; rfl)).symm
    | unknown => simp [Outcome.map, Outcome.after, ih, idle]
    | yes => simp [Outcome.map, Outcome.after, ih]

/-- The two loops are mirror images: one takes the parts as the other takes their negations. -/
theorem evaluateAny_eq (unsure : Bool) (parts : List Condition) (cache : PatternCache) :
    evaluateAny look unsure parts cache =
      (evaluateAll look unsure (parts.map not) cache).map .not := by
  induction parts generalizing unsure cache with
  | nil => cases unsure <;> rfl
  | cons part parts ih =>
    simp only [List.map_cons, evaluateAny, evaluateAll, evaluate, Outcome.map_result]
    cases settled : (evaluate look part cache).result with
    | yes => exact (congrFun (opposite_opposite (evaluate look part)) cache).symm
    | unknown => simp [Outcome.map, Outcome.after, ih, Verdict.not]
    | no => simp [Outcome.map, Outcome.after, ih, Verdict.not]

theorem evaluate_not (part : Condition) :
    (not part).evaluate look = opposite (part.evaluate look) := rfl

theorem evaluate_and_nil : (and []).evaluate look = settled .yes := rfl

/-- A conjunction does what its first part does and then what the others do. -/
theorem evaluate_and_cons (part : Condition) (parts : List Condition) :
    (and (part :: parts)).evaluate look =
      both (part.evaluate look) ((and parts).evaluate look) := by
  funext cache
  simp only [evaluate, evaluateAll]
  cases result : (part.evaluate look cache).result with
  | no => rw [both_of_no _ result]
  | unknown =>
    rw [both_of_ne_no _ (by simp [result]), evaluateAll_unsure, result]
  | yes =>
    rw [both_of_ne_no _ (by simp [result]), result, Outcome.map_eq_self (Verdict.yes_and _)]

theorem evaluate_or (parts : List Condition) :
    (or parts).evaluate look = opposite ((and (parts.map not)).evaluate look) := by
  funext cache
  exact evaluateAny_eq look false parts cache

theorem evaluate_or_nil : (or []).evaluate look = settled .no := rfl

/-- A disjunction does what its first part does and then what the others do. -/
theorem evaluate_or_cons (part : Condition) (parts : List Condition) :
    (or (part :: parts)).evaluate look =
      either (part.evaluate look) ((or parts).evaluate look) := by
  rw [evaluate_or, evaluate_or, List.map_cons, evaluate_and_cons, evaluate_not, either,
    opposite_opposite]

theorem evaluate_and_append (parts more : List Condition) :
    (and (parts ++ more)).evaluate look =
      both ((and parts).evaluate look) ((and more).evaluate look) := by
  induction parts with
  | nil => rw [List.nil_append, evaluate_and_nil, settled_both]
  | cons part parts ih =>
    rw [List.cons_append, evaluate_and_cons, evaluate_and_cons, ih, both_assoc]

theorem evaluate_or_append (parts more : List Condition) :
    (or (parts ++ more)).evaluate look =
      either ((or parts).evaluate look) ((or more).evaluate look) := by
  induction parts with
  | nil => rw [List.nil_append, evaluate_or_nil, settled_either]
  | cons part parts ih =>
    rw [List.cons_append, evaluate_or_cons, evaluate_or_cons, ih, either_assoc]

end Parts

/-! ## A part within a condition -/

/-- A condition with one part left open. -/
inductive Context where
  /-- The part is all of it. -/
  | here
  /-- It is in a part of a conjunction. -/
  | and (before : List Condition) (inner : Context) (later : List Condition)
  /-- It is in a part of a disjunction. -/
  | or (before : List Condition) (inner : Context) (later : List Condition)
  /-- It is negated. -/
  | not (inner : Context)

/-- The condition with the part that was left open. -/
def Context.fill : Context → Condition → Condition
  | here, c => c
  | and before inner later, c => .and (before ++ inner.fill c :: later)
  | or before inner later, c => .or (before ++ inner.fill c :: later)
  | not inner, c => .not (inner.fill c)

section Within

variable {look : String → Option Value} {P : PatternCache → Prop}

/-- **Parts that do the same can stand for one another.** It is enough that they do the same on
caches with a property that requests keep. -/
theorem evaluate_fill_congr (kept : ∀ cache text, P cache → P (cache.get text).cache)
    {c d : Condition} (same : ∀ cache, P cache → c.evaluate look cache = d.evaluate look cache)
    (k : Context) : ∀ cache, P cache →
      (k.fill c).evaluate look cache = (k.fill d).evaluate look cache := by
  have keeps (c : Condition) (cache : PatternCache) (holds : P cache) :
      P (c.evaluate look cache).cache :=
    (c.evaluate_accounts look cache).keeps kept holds
  induction k with
  | here => exact same
  | and before inner later ih =>
    intro cache holds
    simp only [Context.fill, evaluate_and_append, evaluate_and_cons]
    have part := ih _ (keeps (and before) cache holds)
    exact both_congr_right (both_congr_left _ part)
  | or before inner later ih =>
    intro cache holds
    simp only [Context.fill, evaluate_or_append, evaluate_or_cons]
    have part := ih _ (keeps (or before) cache holds)
    exact either_congr_right (either_congr_left _ part)
  | not inner ih =>
    intro cache holds
    exact congrArg (Outcome.map Verdict.not) (ih cache holds)

end Within

/-! ## Validation -/

theorem validateAll_append (parts more : List Condition) (cache : PatternCache) :
    validateAll (parts ++ more) cache =
      let first := validateAll parts cache
      match first.result with
      | .error _ => first
      | .ok _ => (validateAll more first.cache).after first.events := by
  induction parts generalizing cache with
  | nil => rfl
  | cons part parts ih =>
    simp only [List.cons_append, validateAll]
    cases settled : (validate part cache).result with
    | error v => simp [settled]
    | ok _ =>
      simp only [ih, Outcome.after_result]
      cases (validateAll parts (validate part cache).cache).result with
      | error v => rfl
      | ok _ => simp [Outcome.after]

theorem validateAll_single (c : Condition) (cache : PatternCache) :
    validateAll [c] cache = c.validate cache := by
  simp only [validateAll]
  cases result : (c.validate cache).result with
  | error v => rfl
  | ok _ => simp [Outcome.after, ← result]

-- A composite is validated as its parts are, one after the other, so as the leaves of its parts.
mutual

/-- **Validation goes through the leaves, from left to right.** -/
theorem validate_eq_validateAll_leaves : (c : Condition) → (cache : PatternCache) →
    c.validate cache = validateAll (c.leaves.map leaf) cache
  | and parts, cache => by
    rw [validate, leaves]
    exact validateAll_eq_validateAll_leaves parts cache
  | or parts, cache => by
    rw [validate, leaves]
    exact validateAll_eq_validateAll_leaves parts cache
  | not part, cache => by
    rw [validate, leaves]
    exact validate_eq_validateAll_leaves part cache
  | leaf l, cache => (validateAll_single (leaf l) cache).symm

theorem validateAll_eq_validateAll_leaves : (parts : List Condition) → (cache : PatternCache) →
    validateAll parts cache = validateAll ((leavesList parts).map leaf) cache
  | [], _ => rfl
  | part :: parts, cache => by
    rw [leavesList, List.map_append, validateAll_append, ← validate_eq_validateAll_leaves part]
    have rest := validateAll_eq_validateAll_leaves parts (part.validate cache).cache
    cases result : (part.validate cache).result with
    | error v => simp only [validateAll, result]
    | ok _ => simp only [validateAll, result, rest]

end

/-- Conditions with the same leaves in the same order are validated alike. -/
theorem validate_congr {c d : Condition} (same : c.leaves = d.leaves) (cache : PatternCache) :
    c.validate cache = d.validate cache := by
  rw [validate_eq_validateAll_leaves, same, ← validate_eq_validateAll_leaves]

/-- Parts that are validated alike can stand for one another. -/
theorem validate_fill_congr {c d : Condition} (same : ∀ cache, c.validate cache = d.validate cache)
    (k : Context) : ∀ cache, (k.fill c).validate cache = (k.fill d).validate cache := by
  induction k with
  | here => exact same
  | and before inner later ih =>
    intro cache
    simp only [Context.fill, validate, validateAll_append, validateAll, ih]
  | or before inner later ih =>
    intro cache
    simp only [Context.fill, validate, validateAll_append, validateAll, ih]
  | not inner ih =>
    intro cache
    simp only [Context.fill, validate, ih]

/-! ## Conditions that cannot be told apart -/

/-- Neither evaluating two conditions nor validating them tells them apart: for every source and
every state of the pattern cache the result is the same, the same happens and the same cache is
left. -/
structure Interchangeable (c d : Condition) : Prop where
  evaluate : ∀ look cache, c.evaluate look cache = d.evaluate look cache
  validate : ∀ cache, c.validate cache = d.validate cache

namespace Interchangeable

variable {c d e : Condition}

theorem refl (c : Condition) : Interchangeable c c :=
  ⟨fun _ _ => rfl, fun _ => rfl⟩

theorem symm (h : Interchangeable c d) : Interchangeable d c :=
  ⟨fun look cache => (h.evaluate look cache).symm, fun cache => (h.validate cache).symm⟩

theorem trans (h : Interchangeable c d) (h' : Interchangeable d e) : Interchangeable c e where
  evaluate look cache := (h.evaluate look cache).trans (h'.evaluate look cache)
  validate cache := (h.validate cache).trans (h'.validate cache)

/-- It is enough to look at the leaves and at what evaluation does. -/
theorem of_leaves (evaluated : ∀ look, c.evaluate look = d.evaluate look)
    (same : c.leaves = d.leaves) : Interchangeable c d :=
  ⟨fun look cache => congrFun (evaluated look) cache, validate_congr same⟩

/-- **Interchangeable parts can stand for one another.** -/
theorem fill (h : Interchangeable c d) (k : Context) : Interchangeable (k.fill c) (k.fill d) where
  evaluate look cache :=
    evaluate_fill_congr (P := fun _ => True) (fun _ _ _ => trivial)
      (fun cache _ => h.evaluate look cache) k cache trivial
  validate := validate_fill_congr h.validate k

end Interchangeable

end Condition

end Targeting
