import Targeting.Proofs.Sharing

/-!
# Compiled patterns are shared exactly until they are cleared

A kept pattern has a serial number that no other kept pattern has and none had before
(`PatternCache.Numbered`), and it is kept until the caches are cleared. So two requests get the same
compiled pattern exactly if they are for the same text and the caches were not cleared in between
(`Session.shared_iff`); a text that is refused is refused whenever it is asked for, with the same
refusal (`Session.answers_invalid_iff`). Places of a run are counted from zero.
-/

set_option autoImplicit false

namespace Targeting

variable [Engine]

namespace PatternCache

/-- Every kept pattern has a serial number of its own, below the next one. -/
structure Numbered (cache : PatternCache) : Prop where
  below : ∀ text r, cache.table.find? text = some (.ok r) → r.serial < cache.next
  injective : ∀ text other r r', cache.table.find? text = some (.ok r) →
    cache.table.find? other = some (.ok r') → r.serial = r'.serial → text = other

variable {cache : PatternCache} {text : String} {r : Regex}

theorem numbered_of_empty (empty : cache.table = .empty) : cache.Numbered where
  below text r found := by
    rw [empty] at found
    cases found
  injective text other r r' found := by
    rw [empty] at found
    cases found

/-- A pattern that is kept after a request was kept before, or it is compiled now and takes the next
serial number. -/
theorem older_or_new {asked : String}
    (held : (cache.get asked).cache.table.find? text = some (.ok r)) :
    cache.table.find? text = some (.ok r) ∨
      (text = asked ∧ r.serial = cache.next ∧ (cache.get asked).cache.next = cache.next + 1) := by
  rw [find?_get] at held
  split at held
  · rename_i same
    subst same
    unfold holding at held
    cases known : cache.table.find? text with
    | some kept =>
      rw [known] at held
      exact .inl held
    | none =>
      rw [known, Option.getD_none, fresh] at held
      cases compiled : Engine.compile text with
      | error refusal =>
        rw [compiled] at held
        cases held
      | ok pattern =>
        rw [compiled] at held
        cases held
        refine .inr ⟨rfl, rfl, ?_⟩
        simp only [get, known, compiled]
  · exact .inl held

theorem Numbered.get (numbered : cache.Numbered) (asked : String) :
    (cache.get asked).cache.Numbered := by
  have next := cache.next_le_get asked
  constructor
  · intro text r held
    rcases older_or_new held with old | ⟨-, serial, more⟩
    · have := numbered.below text r old
      omega
    · omega
  · intro text other r r' held held' same
    rcases older_or_new held with old | ⟨this, serial, -⟩
    · rcases older_or_new held' with old' | ⟨-, serial', -⟩
      · exact numbered.injective text other r r' old old' same
      · have := numbered.below text r old
        omega
    · rcases older_or_new held' with old' | ⟨that, -, -⟩
      · have := numbered.below other r' old'
        omega
      · rw [this, that]

theorem Numbered.askAll (numbered : cache.Numbered) (texts : List String) :
    (cache.askAll texts).Numbered :=
  askAll_induction (fun _ text numbered => numbered.get text) numbered texts

theorem next_le_askAll (cache : PatternCache) (texts : List String) :
    cache.next ≤ (cache.askAll texts).next :=
  askAll_induction (P := fun k => cache.next ≤ k.next)
    (fun k text reached => Nat.le_trans reached (k.next_le_get text)) (Nat.le_refl _) texts

/-- A pattern that is kept after several requests was kept before, or its serial number was not in
use. -/
theorem older_or_fresh {texts : List String}
    (held : (cache.askAll texts).table.find? text = some (.ok r)) :
    cache.table.find? text = some (.ok r) ∨ cache.next ≤ r.serial := by
  induction texts generalizing cache with
  | nil => exact .inl held
  | cons asked texts ih =>
    rcases ih held with older | fresh
    · rcases older_or_new older with old | ⟨-, serial, -⟩
      · exact .inl old
      · exact .inr (Nat.le_of_eq serial.symm)
    · exact .inr (Nat.le_trans (cache.next_le_get asked) fresh)

/-- What is kept stays whatever is asked for. -/
theorem find?_askAll_of_found {held : Except Pattern.Refusal Regex}
    (found : cache.table.find? text = some held) (texts : List String) :
    (cache.askAll texts).table.find? text = some held := by
  refine askAll_induction (P := fun k => k.table.find? text = some held) ?_ found texts
  intro k asked kept
  rw [find?_get, holding]
  split
  · rename_i same
    rw [← same, kept, Option.getD_some]
  · exact kept

end PatternCache

namespace Session

variable {s : Session} {ops : List Operation}

theorem numbered_step (s : Session) (op : Operation) (numbered : s.caches.patterns.Numbered) :
    (s.step op).2.1.caches.patterns.Numbered := by
  rw [step_patterns]
  split
  · exact PatternCache.numbered_of_empty rfl
  · exact numbered.askAll _

/-- The kept patterns of a session are told apart by their serial numbers. -/
theorem numbered_after (ops : List Operation) : (start.after ops).caches.patterns.Numbered :=
  after_induction numbered_step (PatternCache.numbered_of_empty rfl) ops

theorem next_le_step (s : Session) (op : Operation) :
    s.caches.patterns.next ≤ (s.step op).2.1.caches.patterns.next := by
  rw [step_patterns]
  split
  · exact Nat.le_refl _
  · exact PatternCache.next_le_askAll _ _

variable {text : String} {r : Regex}

/-- A pattern that is kept after several operations was kept before and the caches were not cleared,
or its serial number was not in use. -/
theorem older_or_fresh (held : (s.after ops).caches.patterns.table.find? text = some (.ok r)) :
    (s.caches.patterns.table.find? text = some (.ok r) ∧ .clear ∉ ops) ∨
      s.caches.patterns.next ≤ r.serial := by
  induction ops generalizing s with
  | nil => exact .inl ⟨held, List.not_mem_nil⟩
  | cons op ops ih =>
    rcases ih held with ⟨older, quiet⟩ | fresh
    · rw [step_patterns] at older
      split at older
      · cases older
      · rename_i stays
        rcases PatternCache.older_or_fresh older with old | fresh
        · refine .inl ⟨old, ?_⟩
          rw [List.mem_cons, not_or]
          exact ⟨Ne.symm stays, quiet⟩
        · exact .inr fresh
    · exact .inr (Nat.le_trans (s.next_le_step op) fresh)

/-- What is kept stays until the caches are cleared. -/
theorem find?_after_of_found {held : Except Pattern.Refusal Regex}
    (found : s.caches.patterns.table.find? text = some held) (quiet : .clear ∉ ops) :
    (s.after ops).caches.patterns.table.find? text = some held := by
  induction ops generalizing s with
  | nil => exact found
  | cons op ops ih =>
    rw [List.mem_cons, not_or] at quiet
    obtain ⟨stays, rest⟩ := quiet
    have kept := (s.step_accounts (Ne.symm stays)).kept
    have next := PatternCache.find?_askAll_of_found found (requests (s.step op).2.2)
    rw [← kept] at next
    exact ih next rest

/-- Two patterns kept at two moments are one exactly if their texts are equal and the caches were not
cleared in between. -/
theorem serial_eq_iff {other : String} {r' : Regex} (numbered : s.caches.patterns.Numbered)
    (held : s.caches.patterns.table.find? text = some (.ok r))
    (held' : (s.after ops).caches.patterns.table.find? other = some (.ok r')) :
    r.serial = r'.serial ↔ text = other ∧ .clear ∉ ops := by
  constructor
  · intro same
    rcases older_or_fresh held' with ⟨old, quiet⟩ | fresh
    · exact ⟨numbered.injective text other r r' held old same, quiet⟩
    · have := numbered.below text r held
      omega
  · rintro ⟨rfl, quiet⟩
    rw [find?_after_of_found held quiet] at held'
    cases held'
    rfl

/-- Is a pattern asked for, and the answer given to whoever asks? -/
def Operation.Requests (pattern : String) (op : Operation) : Prop :=
  op = .compile pattern ∨ ∃ text, op = .search pattern text

namespace Answer

theorem ofRequest_eq_invalid_iff (result : Except InvalidPattern Regex) (e : InvalidPattern) :
    ofRequest result = .invalid e ↔ result.map Regex.compiled = .error e := by
  cases result <;> simp [ofRequest, Except.map]

theorem ofSearch_eq_invalid_iff (text : String) (result : Except InvalidPattern Regex)
    (e : InvalidPattern) :
    ofSearch text result = .invalid e ↔ result.map Regex.compiled = .error e := by
  cases result <;> simp [ofSearch, Except.map]

theorem exists_ofRequest_eq_regex_iff (result : Except InvalidPattern Regex) :
    (∃ r, ofRequest result = .regex r) ↔ ∃ c, result.map Regex.compiled = .ok c := by
  cases result <;> simp [ofRequest, Except.map]

/-- A request is answered with a compiled pattern if that is kept. -/
theorem ofRequest_answer_eq_regex_iff (held : Except Pattern.Refusal Regex) (r : Regex) :
    ofRequest (PatternCache.answer text held) = .regex r ↔ held = .ok r := by
  cases held <;> simp [ofRequest, PatternCache.answer]

end Answer

variable {pattern : String} {i j : Nat}

/-- After a request that was answered with a compiled pattern, the cache keeps that one. -/
theorem find?_after_compile (found : ops[i]? = some (.compile pattern))
    (answer : (start.answers ops)[i]? = some (.regex r)) :
    (start.after (ops.take (i + 1))).caches.patterns.table.find? pattern = some (.ok r) := by
  rw [answers_getElem?, found, Option.map_some, step_compile] at answer
  simp only [PatternCache.result_get, Option.some.injEq, Answer.ofRequest_answer_eq_regex_iff]
    at answer
  rw [after_take_succ start found, step_compile]
  simp only [withPatterns, PatternCache.find?_get, if_true, answer]

/-- A request is refused exactly if compiling the text afresh is, and with the same refusal. -/
theorem answers_invalid_iff {op : Operation} (found : ops[i]? = some op)
    (request : op.Requests pattern) (e : InvalidPattern) :
    (start.answers ops)[i]? = some (.invalid e) ↔ compileAfresh pattern = .error e := by
  have sound := sound_after (ops.take i)
  rw [answers_getElem?, found, Option.map_some, Option.some.injEq, ← sound.compiled_get pattern]
  rcases request with rfl | ⟨text, rfl⟩
  · rw [step_compile]
    exact Answer.ofRequest_eq_invalid_iff _ e
  · rw [step_search]
    exact Answer.ofSearch_eq_invalid_iff text _ e

/-- A request is answered with a compiled pattern exactly if the text compiles. -/
theorem exists_answers_regex_iff (found : ops[i]? = some (.compile pattern)) :
    (∃ r : Regex, (start.answers ops)[i]? = some (.regex r)) ↔
      (Engine.compile pattern).isOk = true := by
  have sound := sound_after (ops.take i)
  rw [answers_getElem?, found, Option.map_some, step_compile, ← exists_compileAfresh_ok_iff,
    ← sound.compiled_get pattern, ← Answer.exists_ofRequest_eq_regex_iff]
  simp only [Option.some.injEq]

/-- Two requests that were answered with compiled patterns were answered with one exactly if the
texts are equal and the caches were not cleared in between. -/
theorem shared_iff {p q : String} {r r' : Regex} (earlier : i < j)
    (first : ops[i]? = some (.compile p)) (second : ops[j]? = some (.compile q))
    (answer : (start.answers ops)[i]? = some (.regex r))
    (answer' : (start.answers ops)[j]? = some (.regex r')) :
    r.serial = r'.serial ↔ p = q ∧ ∀ m, i < m → m < j → ops[m]? ≠ some .clear := by
  have held := find?_after_compile first answer
  have held' := find?_after_compile second answer'
  rw [take_eq_between (Nat.lt_succ_of_lt earlier) first, after_append, after_cons,
    ← after_take_succ start first] at held'
  rw [serial_eq_iff (numbered_after _) held held', mem_between]
  refine and_congr_right fun _ => ?_
  constructor
  · intro quiet m behind before found
    exact quiet ⟨m, behind, by omega, found⟩
  · rintro quiet ⟨m, behind, before, found⟩
    by_cases last : m = j
    · subst last
      rw [second] at found
      cases found
    · exact quiet m behind (by omega) found

end Session

end Targeting
