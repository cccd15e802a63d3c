import Targeting.Proofs.Reach
import Targeting.Proofs.SharedPatterns

/-!
# Patterns are compiled once and complained about once

A stretch is a part of a run in which the caches are not cleared, from the start or from where they
were cleared. In it a pattern is compiled at the first request for it, whoever asks, and a refusal is
told there; a later request tells nothing more than that it was made
(`PatternCache.about_tellAll_of_absent`), and the log has one line for the compilation and one
warning for the refusal (`Session.toldOnce`).
-/

set_option autoImplicit false

namespace Targeting

/-- What happened to a pattern, in order. -/
def about (pattern : String) (events : List Event) : List Event :=
  events.filter fun e => e.subject? = some pattern

@[simp] theorem about_append (pattern : String) (events later : List Event) :
    about pattern (events ++ later) = about pattern events ++ about pattern later :=
  List.filter_append events later

/-- What happened to one pattern is found among what happened to any. -/
theorem about_aboutPatterns (pattern : String) (events : List Event) :
    about pattern (aboutPatterns events) = about pattern events := by
  rw [about, about, aboutPatterns, List.filter_filter]
  congr 1
  funext e
  cases e.subject? <;> simp

/-! ## The log -/

/-- The line of the log for a pattern that is compiled. -/
def compiledLine (pattern : String) : Record :=
  ⟨.trace, "compiling pattern '" ++ pattern ++ "'", none⟩

/-- The line of the log for a text that is no pattern, with the words of the engine. -/
def rejectedLine (pattern : String) (refusal : Pattern.Refusal) : Record :=
  ⟨.warn, "pattern '" ++ pattern ++ "' does not compile", some refusal.reason⟩

/-- Does a line of the log warn that a text is no pattern, for whatever reason? -/
def Record.complainsOf (pattern : String) (r : Record) : Bool :=
  r.level = .warn && r.message = "pattern '" ++ pattern ++ "' does not compile"

/-- Only compiling a pattern writes the line that says so. -/
theorem record?_eq_compiledLine_iff (e : Event) (pattern : String) :
    e.record? = some (compiledLine pattern) ↔ e = .compiled pattern := by
  cases e with
  | compiled other => simp [Event.record?, compiledLine, String.append_right_inj,
      String.append_left_inj]
  | interned c =>
    constructor
    · intro same
      have text : "interning condition " ++ c.display = "compiling pattern '" ++ pattern ++ "'" := by
        simpa [Event.record?, compiledLine] using same
      have first := congrArg (fun s : String => s.toList.head?) text
      simp at first
    · intro same
      cases same
  | _ => simp [Event.record?, compiledLine]

/-- The warning that an event is logged with, if it is logged with one. -/
def Event.complaint? : Event → Option Record
  | rejected pattern refusal => some (rejectedLine pattern refusal)
  | _ => none

/-- Only refusing a text is logged with a warning of it. -/
theorem filter_complainsOf_record? (pattern : String) (e : Event) :
    e.record?.filter (Record.complainsOf pattern) =
      if e.subject? = some pattern then e.complaint? else none := by
  cases e with
  | rejected other refusal =>
    by_cases same : other = pattern
    · simp [Event.record?, Event.subject?, Event.complaint?, Record.complainsOf, rejectedLine, same]
    · simp [Event.record?, Event.subject?, Record.complainsOf, String.append_right_inj,
        String.append_left_inj, same]
  | _ => simp [Event.record?, Event.complaint?, Record.complainsOf]

/-- The warnings of a text in the log are those of what happened to it. -/
theorem filter_complainsOf_log (pattern : String) (events : List Event) :
    (log events).filter (Record.complainsOf pattern) =
      (about pattern events).filterMap Event.complaint? := by
  rw [log, List.filter_filterMap, about, List.filterMap_filter]
  refine List.filterMap_congr fun e _ => ?_
  simpa using filter_complainsOf_record? pattern e

/-- What happened to a pattern is counted among what is told of it. -/
theorem count_about {pattern : String} {e : Event} (subject : e.subject? = some pattern)
    (events : List Event) : (about pattern events).count e = events.count e :=
  List.count_filter (decide_eq_true subject)

/-- A line that only one event writes stands in the log as often as that event happened. -/
theorem count_log {line : Record} {e : Event} (only : ∀ d : Event, d.record? = some line ↔ d = e)
    (events : List Event) : (log events).count line = events.count e := by
  rw [log, List.count_filterMap, List.count]
  refine List.countP_congr fun d _ => ?_
  rw [beq_iff_eq, beq_iff_eq, only]

namespace PatternCache

variable [Engine]

variable {cache : PatternCache} {pattern : String}

theorem about_get_self (cache : PatternCache) (text : String) :
    about text (cache.get text).events = (cache.get text).events := by
  refine List.filter_eq_self.2 fun e member => ?_
  rw [subject?_of_mem_get member]
  exact decide_eq_true rfl

theorem about_get_of_ne {text : String} (other : pattern ≠ text) :
    about pattern (cache.get text).events = [] := by
  refine List.filter_eq_nil_iff.2 fun e member => ?_
  rw [subject?_of_mem_get member]
  simpa using Ne.symm other

/-- Of a pattern that is held, requests tell only that they were made. -/
theorem about_tellAll_of_found {held : Except Pattern.Refusal Regex}
    (found : cache.table.find? pattern = some held) (texts : List String) :
    about pattern (cache.tellAll texts) =
      List.replicate (texts.count pattern) (.requested pattern) := by
  induction texts generalizing cache with
  | nil => rfl
  | cons text texts ih =>
    rw [tellAll, about_append]
    by_cases same : pattern = text
    · subst same
      rw [about_get_self, get_of_found found, ih found, List.count_cons_self, List.replicate_succ]
      rfl
    · have kept : (cache.get text).cache.table.find? pattern = some held := by
        rw [find?_get, if_neg same, found]
      rw [about_get_of_ne same, ih kept, List.count_cons_of_ne (Ne.symm same), List.nil_append]

/-- **Of a pattern that is not held, the first request tells that it is compiled, and whether it is
refused; the later ones tell only that they were made.** -/
theorem about_tellAll_of_absent (absent : cache.table.find? pattern = none)
    {texts : List String} (asked : pattern ∈ texts) :
    about pattern (cache.tellAll texts) =
      compiling pattern ++ List.replicate (texts.count pattern - 1) (.requested pattern) := by
  induction texts generalizing cache with
  | nil => cases asked
  | cons text texts ih =>
    rw [tellAll, about_append]
    by_cases same : pattern = text
    · subst same
      have bound : (cache.get pattern).cache.table.find? pattern = some (cache.holding pattern) := by
        rw [find?_get, if_pos rfl]
      rw [about_get_self, about_tellAll_of_found bound, get_of_absent absent, List.count_cons_self,
        Nat.add_sub_cancel]
    · have unheld : (cache.get text).cache.table.find? pattern = none := by
        rw [find?_get, if_neg same, absent]
      have later : pattern ∈ texts := by
        rcases List.mem_cons.1 asked with first | later
        · exact absurd first same
        · exact later
      rw [about_get_of_ne same, ih unheld later, List.count_cons_of_ne (Ne.symm same),
        List.nil_append]

/-- What is not asked for is not told of. -/
theorem about_tellAll_of_not_mem {texts : List String} (silent : pattern ∉ texts) :
    about pattern (cache.tellAll texts) = [] := by
  induction texts generalizing cache with
  | nil => rfl
  | cons text texts ih =>
    rw [List.mem_cons, not_or] at silent
    obtain ⟨other, rest⟩ := silent
    rw [tellAll, about_append, about_get_of_ne other, ih rest, List.append_nil]

end PatternCache

namespace Session

section AnyEngine

variable [Engine]

/-! ## Stretches of a run -/

/-- What happened during several operations. -/
def told (s : Session) (ops : List Operation) : List Event :=
  (s.run ops).flatMap fun r => r.2.2

/-- The patterns that several operations ask for, in order. -/
def asked (s : Session) : List Operation → List String
  | [] => []
  | op :: ops => s.asks op ++ (s.step op).2.1.asked ops

/-- Operations that follow the start of a session, or a clearing of the caches, without clearing
them. -/
structure Stretch (before ops : List Operation) : Prop where
  opens : before = [] ∨ ∃ earlier, before = earlier ++ [.clear]
  quiet : .clear ∉ ops

/-- No pattern is kept where a stretch begins. -/
theorem Stretch.empty {before ops : List Operation} (stretch : Stretch before ops) :
    (start.after before).caches.patterns.table = .empty := by
  rcases stretch.opens with rfl | ⟨earlier, rfl⟩
  · rfl
  · rw [after_append]
    rfl

variable {s : Session} {ops : List Operation}

theorem aboutPatterns_step (sound : s.caches.patterns.Sound) {op : Operation}
    (stays : op ≠ .clear) :
    aboutPatterns (s.step op).2.2 = s.caches.patterns.tellAll (s.asks op) := by
  rw [← requests_step sound]
  exact (s.step_accounts stays).told

/-- As long as the caches are not cleared, what is told of patterns is what the requests tell. -/
theorem aboutPatterns_told (sound : s.caches.patterns.Sound) (quiet : .clear ∉ ops) :
    aboutPatterns (s.told ops) = s.caches.patterns.tellAll (s.asked ops) := by
  induction ops generalizing s with
  | nil => rfl
  | cons op ops ih =>
    rw [List.mem_cons, not_or] at quiet
    obtain ⟨stays, rest⟩ := quiet
    have first := aboutPatterns_step sound (Ne.symm stays)
    have later := ih (sound_step s op sound) rest
    have kept := (s.step_accounts (Ne.symm stays)).kept
    rw [requests_step sound] at kept
    change aboutPatterns ((s.step op).2.2 ++ (s.step op).2.1.told ops) = _
    rw [aboutPatterns_append, first, later, asked, PatternCache.tellAll_append]
    congr 2

variable {pattern : String} {before : List Operation}

/-- What a stretch tells of a pattern that is asked for in it: the first request compiles it, with one
line in the log and one warning if it is refused, and a later one does nothing but ask. -/
structure ToldOnce (pattern : String) (asked : List String) (told : List Event) : Prop where
  events : about pattern told =
    PatternCache.compiling pattern ++
      List.replicate (asked.count pattern - 1) (.requested pattern)
  traced : (log told).count (compiledLine pattern) = 1
  warned : (log told).filter (Record.complainsOf pattern) =
    match Engine.compile pattern with
    | .ok _ => []
    | .error refusal => [rejectedLine pattern refusal]

theorem toldOnce (stretch : Stretch before ops)
    (asked : pattern ∈ (start.after before).asked ops) :
    ToldOnce pattern ((start.after before).asked ops) ((start.after before).told ops) := by
  have absent : (start.after before).caches.patterns.table.find? pattern = none := by
    rw [stretch.empty, Table.find?_empty]
  have events := PatternCache.about_tellAll_of_absent absent asked
  rw [← aboutPatterns_told (sound_after before) stretch.quiet, about_aboutPatterns] at events
  refine ⟨events, ?_, ?_⟩
  · rw [count_log (record?_eq_compiledLine_iff · pattern), ← count_about rfl, events,
      PatternCache.compiling]
    cases Engine.compile pattern <;> simp [List.count_replicate]
  · rw [filter_complainsOf_log, events, PatternCache.compiling]
    cases Engine.compile pattern <;> simp [List.filterMap_cons, Event.complaint?]

/-- Of a pattern that is not asked for, a stretch tells nothing. -/
theorem about_told_of_not_mem (stretch : Stretch before ops)
    (silent : pattern ∉ (start.after before).asked ops) :
    about pattern ((start.after before).told ops) = [] := by
  rw [← about_aboutPatterns, aboutPatterns_told (sound_after before) stretch.quiet]
  exact PatternCache.about_tellAll_of_not_mem silent

/-- An operation does nothing to a pattern that it does not ask for. -/
theorem about_step_of_not_mem (sound : s.caches.patterns.Sound) {op : Operation}
    (silent : pattern ∉ s.asks op) : about pattern (s.step op).2.2 = [] := by
  by_cases clears : op = .clear
  · rw [clears]
    rfl
  · rw [← about_aboutPatterns, aboutPatterns_step sound clears]
    exact PatternCache.about_tellAll_of_not_mem silent

/-- **Each pattern is compiled once and complained about once.** In every stretch of a run a pattern
that is asked for is compiled once, at the first request, with one line in the log and, if it is
refused, one warning, which gives the words of the engine. Two requests that are answered with compiled
patterns are answered with one exactly if the texts are equal and the caches were not cleared in
between; a text that is refused once is refused at every request, by name and with the same refusal.
And an operation does nothing to patterns that it does not ask for. -/
theorem compiled_once :
    (∀ before ops : List Operation, Stretch before ops → ∀ pattern : String,
      let asked := (start.after before).asked ops
      let events := (start.after before).told ops
      (pattern ∈ asked → ToldOnce pattern asked events) ∧
      (pattern ∉ asked → about pattern events = [])) ∧
    (∀ (ops : List Operation) (i j : Nat) (p q : String) (r r' : Regex), i < j →
      ops[i]? = some (.compile p) → ops[j]? = some (.compile q) →
      (start.answers ops)[i]? = some (.regex r) → (start.answers ops)[j]? = some (.regex r') →
      (r.serial = r'.serial ↔ p = q ∧ ∀ m, i < m → m < j → ops[m]? ≠ some .clear)) ∧
    (∀ (ops : List Operation) (i j : Nat) (pattern : String) (op op' : Operation)
      (e : InvalidPattern), ops[i]? = some op → ops[j]? = some op' → op.Requests pattern →
      op'.Requests pattern → (start.answers ops)[i]? = some (.invalid e) →
      e.pattern = pattern ∧ (start.answers ops)[j]? = some (.invalid e)) ∧
    (∀ (before : List Operation) (op : Operation) (pattern : String),
      pattern ∉ (start.after before).asks op →
      about pattern ((start.after before).step op).2.2 = []) := by
  refine ⟨?_, ?_, ?_, ?_⟩
  · intro before ops stretch pattern asked events
    exact ⟨toldOnce stretch, about_told_of_not_mem stretch⟩
  · intro ops i j p q r r' earlier first second answer answer'
    exact shared_iff earlier first second answer answer'
  · intro ops i j pattern op op' e first second request request' answer
    have refused := (answers_invalid_iff first request e).1 answer
    exact ⟨pattern_of_refused refused, (answers_invalid_iff second request' e).2 refused⟩
  · intro before op pattern silent
    exact about_step_of_not_mem (sound_after before) silent

end AnyEngine

/-- A text that is refused is complained about once although a rule is checked that looks for it and it
is asked for twice more, and a pattern that is compiled again after the caches were cleared is another
one. -/
theorem compiled_anew_after_clear :
    let before : List Operation := [.compile "a", .clear]
    let ops : List Operation := [.compile "a", .validate (.test "plan" .regex (.text "(")),
      .compile "(", .search "(" "x", .compile "a"]
    let answers := start.answers (before ++ ops)
    (Stretch before ops ∧ "(" ∈ (start.after before).asked ops ∧
      (log ((start.after before).told ops)).filter (Record.complainsOf "(") =
        [rejectedLine "(" ⟨.malformed, Pattern.Fault.malformed.reason⟩]) ∧
    ("b" ∉ (start.after before).asked ops ∧ about "b" ((start.after before).told ops) = []) ∧
    (∃ r r' r'' : Regex, answers[0]? = some (.regex r) ∧ answers[2]? = some (.regex r') ∧
      answers[6]? = some (.regex r'') ∧ r.serial ≠ r'.serial ∧ r'.serial = r''.serial) ∧
    (∃ e : InvalidPattern, e.pattern = "(" ∧ answers[4]? = some (.invalid e) ∧
      answers[5]? = some (.invalid e)) ∧
    about "(" ((start.after before).step .rest).2.2 = [] := by
  intro before ops answers
  obtain ⟨stretches, shared, refusals, untouched⟩ := compiled_once
  have stretch : Stretch before ops := by
    refine ⟨.inr ⟨[.compile "a"], rfl⟩, ?_⟩
    simp [ops]
  have named : Text.isBlank "plan" = false := by
    decide
  have checked : Condition.checks (.test "plan" .regex (.text "(")) = ["("] := by
    simp [Condition.checks, Condition.test, Condition.leaves, Leaf.upToFailing, Leaf.checks?,
      Leaf.pattern?, Value.asText?, named]
  have asked : (start.after before).asked ops = ["a", "(", "(", "(", "a"] := by
    simp [ops, Session.asked, asks, checked]
  have member : "(" ∈ (start.after before).asked ops := by
    simp [asked]
  have absent : "b" ∉ (start.after before).asked ops := by
    simp [asked]
  have warned := ((stretches before ops stretch "(").1 member).warned
  have fails : Engine.compile "(" = .error ⟨.malformed, Pattern.Fault.malformed.reason⟩ := rfl
  rw [fails] at warned
  refine ⟨⟨stretch, member, warned⟩, ⟨absent, (stretches before ops stretch "b").2 absent⟩, ?_, ?_,
    untouched before .rest "(" (by simp [asks])⟩
  · have compiles : (Engine.compile "a").isOk = true := by
      decide
    obtain ⟨r, first⟩ : ∃ r, answers[0]? = some (.regex r) :=
      (exists_answers_regex_iff rfl).2 compiles
    obtain ⟨r', second⟩ : ∃ r, answers[2]? = some (.regex r) :=
      (exists_answers_regex_iff rfl).2 compiles
    obtain ⟨r'', third⟩ : ∃ r, answers[6]? = some (.regex r) :=
      (exists_answers_regex_iff rfl).2 compiles
    have anew := shared _ 0 2 "a" "a" r r' (by decide) rfl rfl first second
    have again := shared _ 2 6 "a" "a" r' r'' (by decide) rfl rfl second third
    refine ⟨r, r', r'', first, second, third, ?_, ?_⟩
    · rw [ne_eq, anew]
      rintro ⟨-, quiet⟩
      exact quiet 1 (by decide) (by decide) rfl
    · refine again.2 ⟨rfl, fun m behind ahead => ?_⟩
      obtain rfl | rfl | rfl : m = 3 ∨ m = 4 ∨ m = 5 := by omega
      · simp [before, ops]
      · simp [before, ops]
      · simp [before, ops]
  · obtain ⟨e, refused⟩ := (exists_compileAfresh_error_iff "(").2 (by rw [fails]; rfl)
    have first : answers[4]? = some (.invalid e) :=
      (answers_invalid_iff rfl (.inl rfl) e).2 refused
    obtain ⟨name, second⟩ :=
      refusals _ 4 5 "(" _ _ e rfl rfl (.inl rfl) (.inr ⟨"x", rfl⟩) first
    exact ⟨e, name, first, second⟩

end Session

end Targeting
