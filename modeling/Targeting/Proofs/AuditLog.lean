import Targeting.Proofs.Accounting
import Targeting.Proofs.CompiledOnce
import Targeting.Proofs.CompleteData

/-!
# The log of a run over many users

Which lines a run writes for an audience is said from the leaves that each user reaches and from the
patterns that were asked for before, without the caches (`Leaf.lines`, `Audience.linesFor`). The
cache holds at every moment what was asked for so far (`PatternCache.Remembers`), so a pattern is
compiled, and written of, where it is asked for the first time in the run. Leaves and users go one
after the other in the same way (`Outcome.log_inTurn`), and the log is what they write in turn
(`Audience.log_complete_and_exact`).
-/

set_option autoImplicit false

namespace Targeting

@[simp] theorem log_nil : log [] = [] := rfl

@[simp] theorem log_cons (e : Event) (events : List Event) :
    log (e :: events) = e.record?.toList ++ log events := by
  unfold log
  cases h : e.record? <;> simp [h]

@[simp] theorem log_append (events later : List Event) :
    log (events ++ later) = log events ++ log later :=
  List.filterMap_append

/-! ## Which lines are written -/

/-- The lines of several items one after the other, where an item knows what was asked for before
it and asks for patterns itself. -/
def linesInTurn {β : Type} (asks : β → List String) (lines : List String → β → List Record) :
    List String → List β → List Record
  | _, [] => []
  | asked, x :: xs => lines asked x ++ linesInTurn asks lines (asked ++ asks x) xs

section InTurn

variable {β : Type} {asks : β → List String} {lines : List String → β → List Record}
  {asked : List String} {xs : List β}

theorem exists_of_mem_linesInTurn {line : Record}
    (written : line ∈ linesInTurn asks lines asked xs) :
    ∃ x ∈ xs, ∃ before, line ∈ lines before x := by
  induction xs generalizing asked with
  | nil => cases written
  | cons x xs ih =>
    rcases List.mem_append.1 written with first | later
    · exact ⟨x, List.mem_cons_self, asked, first⟩
    · obtain ⟨y, among, before, writes⟩ := ih later
      exact ⟨y, List.mem_cons_of_mem x among, before, writes⟩

theorem exists_subset_linesInTurn {x : β} (among : x ∈ xs) :
    ∃ before, lines before x ⊆ linesInTurn asks lines asked xs := by
  induction xs generalizing asked with
  | nil => cases among
  | cons y ys ih =>
    rcases List.mem_cons.1 among with rfl | later
    · exact ⟨asked, List.subset_append_left _ _⟩
    · obtain ⟨before, writes⟩ := ih later
      exact ⟨before, List.Subset.trans writes (List.subset_append_right _ _)⟩

end InTurn

section AnyEngine

variable [Engine]

/-- The line for a condition that is shared. -/
def internedLine (c : Condition) : Record :=
  ⟨.trace, "interning condition " ++ c.display, none⟩

/-- The lines for a pattern that is asked for: none if it was asked for before, else one, and
another if it is no pattern. -/
def requestLines (asked : List String) (pattern : String) : List Record :=
  if pattern ∈ asked then []
  else
    match Engine.compile pattern with
    | .ok _ => [compiledLine pattern]
    | .error refusal => [compiledLine pattern, rejectedLine pattern refusal]

namespace Leaf

/-- The line of a leaf that found nothing under its name. -/
def missingLine (l : Leaf) : Record :=
  ⟨.debug, "attribute '" ++ l.name ++ "' missing, condition " ++ l.display ++ " is unknown", none⟩

/-- The line of a leaf that found a value it cannot compare, which names the kind of the value. -/
def incomparableLine (l : Leaf) (actual : Value) : Record :=
  ⟨.debug, "attribute '" ++ l.name ++ "' has " ++ actual.kind ++ " value, condition " ++
    l.display ++ " is unknown", none⟩

/-- The line that says why a leaf is unknown, if it is. -/
def explanation (look : String → Option Value) (l : Leaf) : List Record :=
  if l.verdict look = .unknown then
    match look l.name with
    | none => [l.missingLine]
    | some .null => [l.missingLine]
    | some actual => [l.incomparableLine actual]
  else []

/-- The lines of a leaf after certain patterns were asked for: those of the pattern that it asks for
itself, then its explanation. -/
def lines (look : String → Option Value) (asked : List String) (l : Leaf) : List Record :=
  (l.asks? look).toList.flatMap (requestLines asked) ++ l.explanation look

end Leaf

namespace Audience

/-- The line for what an audience says of a user. -/
def decidedLine (a : Audience) (verdict : Verdict) : Record :=
  ⟨.debug, "audience '" ++ a.name ++ "' (" ++ a.id ++ ") evaluated to " ++ verdict.text, none⟩

/-- The lines of the leaves that a user reaches. -/
def leafLines (a : Audience) (asked : List String) (look : String → Option Value) : List Record :=
  linesInTurn (fun l => (l.asks? look).toList) (Leaf.lines look) asked
    (a.conditions.reached (Leaf.verdict look))

/-- The lines for a user: those of the leaves, then what the audience says. -/
def linesFor (a : Audience) (asked : List String) (look : String → Option Value) : List Record :=
  a.leafLines asked look ++ [a.decidedLine (a.conditions.kleene (Leaf.verdict look))]

end Audience

/-! ## The cache remembers what was asked for -/

namespace PatternCache

/-- The cache holds what was asked for and nothing else, each as compiling gives it. -/
structure Remembers (cache : PatternCache) (asked : List String) : Prop where
  sound : cache.Sound
  held (text : String) : (cache.table.find? text).isSome = true ↔ text ∈ asked

theorem remembers_empty : empty.Remembers [] where
  sound := sound_empty
  held text := by simp [empty]

variable {cache : PatternCache} {asked : List String}

/-- What happens remembers its own requests besides. -/
theorem Remembers.after {α : Type} {o : Outcome α} (h : cache.Remembers asked)
    (accounts : o.Accounts cache) : o.cache.Remembers (asked ++ requests o.events) where
  sound := accounts.sound h.sound
  held text := by
    rw [accounts.kept, isSome_find?_askAll, h.held, List.mem_append, or_comm]

/-- A request is written of if it is the first one. -/
theorem Remembers.log_get (h : cache.Remembers asked) (text : String) :
    log (cache.get text).events = requestLines asked text := by
  unfold requestLines
  cases found : cache.table.find? text with
  | some held =>
    have known : text ∈ asked := (h.held text).1 (by rw [found]; rfl)
    rw [get_of_found found, if_pos known]
    rfl
  | none =>
    have new : text ∉ asked := by
      rw [← h.held text, found]
      exact Bool.false_ne_true
    rw [get_of_absent found, if_neg new, compiling]
    cases Engine.compile text <;> rfl

end PatternCache

open Outcome

namespace Leaf

section Explanation

variable {look : String → Option Value} {l : Leaf}

theorem explanation_of_missing
    (unknown : l.verdict look = .unknown) (nothing : known look l.name = none) :
    l.explanation look = [l.missingLine] := by
  rw [explanation, if_pos unknown]
  rcases (known_eq_none_iff look l.name).1 nothing with absent | null
  · rw [absent]
  · rw [null]

theorem explanation_of_known {actual : Value} (unknown : l.verdict look = .unknown)
    (found : known look l.name = some actual) :
    l.explanation look = [l.incomparableLine actual] := by
  obtain ⟨there, notNull⟩ := Option.filter_eq_some_iff.1 found
  rw [explanation, if_pos unknown, there]
  cases actual with
  | null => cases notNull
  | _ => rfl

theorem explanation_of_decided (decided : l.verdict look ≠ .unknown) : l.explanation look = [] :=
  if_neg decided

/-- What is unknown is explained in one line. -/
theorem exists_explanation (unknown : l.verdict look = .unknown) :
    ∃ line, l.explanation look = [line] := by
  cases found : known look l.name with
  | none => exact ⟨_, explanation_of_missing unknown found⟩
  | some actual => exact ⟨_, explanation_of_known unknown found⟩

/-- Whether something is there is always decided, and no pattern is asked for. -/
theorem lines_of_present (asked : List String) (test : l.operator = .present) :
    l.lines look asked = [] := by
  have quiet : l.asks? look = none := by
    rw [asks?, Option.bind_eq_none_iff]
    intro actual _
    unfold wants?
    rw [test]
  have decided : l.verdict look ≠ .unknown := by
    rw [verdict_present test]
    exact Verdict.ofBool_ne_unknown _
  rw [lines, quiet, explanation_of_decided decided]
  rfl

/-- A leaf that is decided asks for no text that is no pattern. -/
theorem isOk_of_decided {pattern : String} (asks : l.asks? look = some pattern)
    (decided : l.verdict look ≠ .unknown) : (Engine.compile pattern).isOk = true := by
  rw [asks?_eq_bind_known] at asks
  obtain ⟨actual, found, wants⟩ := Option.bind_eq_some_iff.1 asks
  by_contra broken
  obtain ⟨e, refused⟩ := (exists_compileAfresh_error_iff pattern).2 (by simpa using broken)
  unfold wants? at wants
  split at wants
  · rename_i regex expects
    cases wants
    refine decided ((verdict_eq_unknown_iff look l).2 ⟨by rw [regex]; nofun, ?_⟩)
    intro actual found'
    rw [found] at found'
    cases found'
    rw [compareAfresh, regex, expects]
    simp [Value.asText?, refused, Except.toOption]
  · cases wants

end Explanation

section Written

variable {cache : PatternCache} {asked : List String} (h : cache.Remembers asked)

include h

theorem log_compare (l : Leaf) (actual : Value) :
    log (l.compare actual cache).events =
      (l.wants? actual).toList.flatMap (requestLines asked) := by
  unfold compare wants?
  cases l.operator with
  | substring => cases actual <;> cases l.value <;> rfl
  | regex =>
    cases actual with
    | text a =>
      cases l.value with
      | text e =>
        show log (cache.get e).events = _
        rw [h.log_get e, Option.toList_some, List.flatMap_singleton]
      | _ => rfl
    | _ => rfl
  | _ => rfl

/-- **What a leaf writes**: of its pattern if that is new, and why it is unknown if it is. -/
theorem log_evaluate (look : String → Option Value) (l : Leaf) :
    log (l.evaluate look cache).events = l.lines look asked := by
  by_cases test : l.operator = .present
  · rw [lines_of_present asked test, evaluate, if_pos test]
    rfl
  · have result := result_evaluate h.sound look l
    rw [lines, asks?_eq_bind_known]
    rw [evaluate, if_neg test] at result ⊢
    cases found : known look l.name with
    | none =>
      rw [explanation_of_missing (verdict_of_unknown test found) found]
      rfl
    | some actual =>
      rw [found] at result
      dsimp only at result ⊢
      rw [Option.bind_some, ← log_compare h l actual]
      cases compared : (l.compare actual cache).result with
      | some b =>
        rw [compared] at result
        have decided : l.verdict look ≠ .unknown := by
          rw [← result]
          exact Verdict.ofBool_ne_unknown b
        rw [explanation_of_decided decided]
        simp [Event.record?]
      | none =>
        rw [compared] at result
        rw [explanation_of_known result.symm found]
        simp [Event.record?, incomparableLine]

end Written

end Leaf

namespace Outcome

variable {α β : Type} {step : β → PatternCache → Outcome α} {asks : β → List String}
  {lines : List String → β → List Record}

/-- **Items in turn write their lines in turn**, if each writes what it writes after what was asked
for before. -/
theorem log_inTurn
    (accounts : ∀ x cache, (step x cache).Accounts cache)
    (requested : ∀ x (cache : PatternCache), cache.Sound → requests (step x cache).events = asks x)
    (written : ∀ x (cache : PatternCache) asked, cache.Remembers asked →
      log (step x cache).events = lines asked x)
    {cache : PatternCache} {asked : List String} (h : cache.Remembers asked) (xs : List β) :
    log (inTurn step xs cache).events = linesInTurn asks lines asked xs := by
  induction xs generalizing cache asked with
  | nil => rfl
  | cons x xs ih =>
    have later := h.after (accounts x cache)
    rw [requested x cache h.sound] at later
    simp only [inTurn, after_events, log_append, linesInTurn, written x cache asked h, ih later]

end Outcome

namespace Audience

variable {cache : PatternCache} {asked : List String}

theorem isMatch_accounts (a : Audience) (look : String → Option Value) (cache : PatternCache) :
    (a.isMatch look cache).Accounts cache :=
  (a.conditions.evaluate_accounts look cache).of_quiet _ [] [.decided a.id a.name _] rfl rfl

theorem requests_isMatch (sound : cache.Sound) (a : Audience) (look : String → Option Value) :
    requests (a.isMatch look cache).events = a.conditions.asks look := by
  rw [← Condition.requests_evaluate sound look a.conditions]
  simp [isMatch, evaluate, Event.pattern?]

/-- **What is written for a user**: the lines of the leaves that are reached, then the result. -/
theorem log_isMatch (h : cache.Remembers asked) (a : Audience) (look : String → Option Value) :
    log (a.isMatch look cache).events = a.linesFor asked look := by
  have told := (a.conditions.evaluate_runs look h.sound).told
  have result := a.conditions.result_eq_kleene look h.sound
  have leaves := log_inTurn (Leaf.evaluate_accounts look)
    (fun l _ _ => l.requests_evaluate look _) (fun l _ _ h => l.log_evaluate h look) h
    (a.conditions.reached (Leaf.verdict look))
  rw [linesFor, leafLines, ← leaves, ← told, ← result]
  simp [isMatch, evaluate, Event.record?, decidedLine]

/-- The users of an audience are decided one after the other. -/
theorem members_runs (a : Audience) (users : List (String → Option Value)) (cache : PatternCache) :
    (a.members users cache).Runs (fun look => a.isMatch look) users cache := by
  induction users generalizing cache with
  | nil => exact runs_nil _ []
  | cons look users ih =>
    rw [members]
    exact (runs_step (fun look => a.isMatch look) look).after ((ih _).map _)

/-- What an audience says of a user is explained if it is unknown. -/
theorem exists_explained (a : Audience) (asked : List String) {look : String → Option Value}
    (unknown : a.conditions.kleene (Leaf.verdict look) = .unknown) :
    ∃ l ∈ a.conditions.reached (Leaf.verdict look), ∃ line ∈ l.explanation look,
      line ∈ a.leafLines asked look := by
  obtain ⟨l, reached, doubtful⟩ := Condition.exists_reached_unknown a.conditions unknown
  obtain ⟨line, explained⟩ := Leaf.exists_explanation doubtful
  have member : line ∈ l.explanation look := by
    rw [explained]
    exact List.mem_singleton_self line
  have among : ∃ before, l.lines look before ⊆ a.leafLines asked look :=
    exists_subset_linesInTurn reached
  obtain ⟨before, written⟩ := among
  exact ⟨l, reached, line, member, written (List.mem_append_right _ member)⟩

/-- Where every leaf that is reached is decided, only compilations are written of. -/
theorem exists_compiledLine {a : Audience} {asked : List String} {look : String → Option Value}
    (decided : ∀ l ∈ a.conditions.reached (Leaf.verdict look), l.verdict look ≠ .unknown)
    {line : Record} (written : line ∈ a.leafLines asked look) :
    ∃ pattern, line = compiledLine pattern := by
  obtain ⟨l, reached, before, writes⟩ := exists_of_mem_linesInTurn written
  rw [Leaf.lines, Leaf.explanation_of_decided (decided l reached), List.append_nil,
    List.mem_flatMap] at writes
  obtain ⟨pattern, asks, writes⟩ := writes
  have compiles := Leaf.isOk_of_decided (Option.mem_toList.1 asks) (decided l reached)
  unfold requestLines at writes
  split at writes
  · cases writes
  · cases compiled : Engine.compile pattern with
    | ok _ =>
      rw [compiled] at writes
      exact ⟨pattern, List.mem_singleton.1 writes⟩
    | error _ =>
      rw [compiled] at compiles
      cases compiles

/-- **The log is complete and exact.** From empty caches, a run for an audience writes one line for
its condition, and then for each user in turn: for each leaf that is reached, in order, a line where
its pattern is asked for the first time in the run, with another if that is no pattern, and one line
if the leaf is unknown, which says that nothing is known under its name or names the kind of the
value; and last the verdict. So an unknown verdict is always explained by a leaf, and where every
leaf that is reached is decided nothing is written of them but compilations. -/
theorem log_complete_and_exact (a : Audience) (users : List (String → Option Value)) :
    log (a.audit users .empty).2.2 =
      internedLine a.conditions ::
        linesInTurn (fun look => a.conditions.asks look) a.linesFor [] users ∧
    ∀ (asked : List String) (look : String → Option Value),
      (a.conditions.kleene (Leaf.verdict look) = .unknown →
        ∃ l ∈ a.conditions.reached (Leaf.verdict look), ∃ line ∈ l.explanation look,
          line ∈ a.leafLines asked look) ∧
      ((∀ l ∈ a.conditions.reached (Leaf.verdict look), l.verdict look ≠ .unknown) →
        ∀ line ∈ a.leafLines asked look, ∃ pattern, line = compiledLine pattern) := by
  constructor
  · have members := log_inTurn a.isMatch_accounts
      (fun look _ sound => a.requests_isMatch sound look) (fun look _ _ h => a.log_isMatch h look)
      PatternCache.remembers_empty users
    have told := (a.members_runs users .empty).told
    rw [← members, ← told]
    rfl
  · intro asked look
    exact ⟨a.exists_explained asked, fun decided line => exists_compiledLine decided⟩

end Audience

end AnyEngine

/-- A text that is no pattern is complained of where it is first asked for and not again, and each
leaf that stays unknown says why: one user has no plan, the build of another is no text. -/
theorem Audience.broken_pattern_complained_of_once :
    let beta : Audience :=
      ⟨"b1", "Beta", .or [.test "build" .regex (.text "("), .exact "plan" (.text "pro")]⟩
    let unknownBuild :=
      "condition \x7bname='build', match='regex', value=\"(\"\x7d is unknown"
    let unknownPlan :=
      "condition \x7bname='plan', match='exact', value=\"pro\"\x7d is unknown"
    let newcomer : Attributes :=
      (Table.empty.insert "build" (.text "b7")).insert "plan" .null
    let customer : Attributes :=
      (Table.empty.insert "build" (.flag true)).insert "plan" (.text "pro")
    let visitor : Attributes := Table.empty.insert "build" (.text "b8")
    log (beta.audit [newcomer.find?, customer.find?, visitor.find?] .empty).2.2 =
      [⟨.trace, "interning condition [or, \x7bname='build', match='regex', value=\"(\"\x7d, " ++
          "\x7bname='plan', match='exact', value=\"pro\"\x7d]", none⟩,
        ⟨.trace, "compiling pattern '('", none⟩,
        ⟨.warn, "pattern '(' does not compile", some Pattern.Fault.malformed.reason⟩,
        ⟨.debug, "attribute 'build' has string value, " ++ unknownBuild, none⟩,
        ⟨.debug, "attribute 'plan' missing, " ++ unknownPlan, none⟩,
        ⟨.debug, "audience 'Beta' (b1) evaluated to unknown", none⟩,
        ⟨.debug, "attribute 'build' has bool value, " ++ unknownBuild, none⟩,
        ⟨.debug, "audience 'Beta' (b1) evaluated to true", none⟩,
        ⟨.debug, "attribute 'build' has string value, " ++ unknownBuild, none⟩,
        ⟨.debug, "attribute 'plan' missing, " ++ unknownPlan, none⟩,
        ⟨.debug, "audience 'Beta' (b1) evaluated to unknown", none⟩] ∧
    (∃ l ∈ beta.conditions.reached (Leaf.verdict newcomer.find?),
      ∃ line ∈ l.explanation newcomer.find?, line ∈ beta.leafLines [] newcomer.find?) ∧
    ∀ line ∈ leafLines ⟨"p1", "Pro", .test "plan" .regex (.text "pro")⟩ [] customer.find?,
      ∃ pattern, line = compiledLine pattern := by
  intro beta unknownBuild unknownPlan newcomer customer visitor
  obtain ⟨written, explained⟩ :=
    log_complete_and_exact beta [newcomer.find?, customer.find?, visitor.find?]
  refine ⟨?_, (explained [] newcomer.find?).1 (by decide +kernel), ?_⟩
  · rw [written]
    decide +kernel
  · refine ((log_complete_and_exact _ []).2 [] customer.find?).2 ?_
    intro l reached
    have one : l ∈ [Leaf.mk "plan" .regex (.text "pro")] := reached
    rw [List.mem_singleton.1 one]
    decide +kernel

end Targeting
