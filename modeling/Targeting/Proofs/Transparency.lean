import Targeting.Proofs.Interning
import Targeting.Proofs.Uncached

/-!
# The caches cannot be told from none

`Uncached` is a session without caches: it compiles every pattern where it is needed and shares no
condition. All it knows of a handle is which condition was given for it. The two kinds of session
give the same replies, operation by operation (`Session.replies_run`); a reply is an answer without
the marks by which shared things are told apart.
-/

set_option autoImplicit false

namespace Targeting

open Session

variable [Engine]

/-- An answer without the marks of shared things. -/
inductive Reply where
  | condition (c : Condition)
  /-- Whether a condition was shared is a matter of the cache alone. -/
  | forgotten
  /-- The compiled pattern whole, so that it decides every later search alike. -/
  | compiled (c : Compiled)
  | found (b : Bool)
  | invalid (e : InvalidPattern)
  | previous (v? : Option Value)
  | verdict (v : Verdict)
  | sharedVerdict (v : Verdict) (text : String)
  | noSuchHandle
  | validated (r : Except Violation Unit)
  | done

/-- What an answer tells beside the marks. -/
def Session.Answer.reply : Answer → Reply
  | .shared h => .condition h.condition
  | .forgotten _ => .forgotten
  | .regex r => .compiled r.compiled
  | .found b => .found b
  | .invalid e => .invalid e
  | .previous v? => .previous v?
  | .verdict v => .verdict v
  | .sharedVerdict v text => .sharedVerdict v text
  | .noSuchHandle => .noSuchHandle
  | .validated r => .validated r
  | .done => .done

/-- The serial number by which later operations name what was shared. -/
def Session.Answer.serial? : Answer → Option Nat
  | .shared h => some h.serial
  | _ => none

/-- A session without caches. -/
structure Uncached where
  attributes : Attributes
  /-- The conditions that were given to be shared, under the serial numbers they were answered
  with. -/
  given : Table Nat Condition

namespace Uncached

/-- A session without caches at its start. -/
def start : Uncached := ⟨.empty, .empty⟩

/-- The reply to a request for a pattern: it is compiled now. -/
def ofRequest : Except InvalidPattern Compiled → Reply
  | .ok c => .compiled c
  | .error e => .invalid e

/-- The reply to a request for a pattern that is compiled now and looked for in a text. -/
def ofSearch (text : String) : Except InvalidPattern Compiled → Reply
  | .ok c => .found (Engine.occursIn c.pattern text)
  | .error e => .invalid e

/-- What an operation replies without caches. -/
def reply (u : Uncached) : Operation → Reply
  | .intern c => .condition c
  | .forget _ => .forgotten
  | .compile pattern => ofRequest (compileAfresh pattern)
  | .search pattern text => ofSearch text (compileAfresh pattern)
  | .set name _ => .previous (u.attributes.find? name)
  | .unset name => .previous (u.attributes.find? name)
  | .evaluate c => .verdict (c.verdict (Leaf.verdict u.attributes.find?))
  | .evaluateShared serial =>
    match u.given.find? serial with
    | some c => .sharedVerdict (c.verdict (Leaf.verdict u.attributes.find?)) c.display
    | none => .noSuchHandle
  | .validate c => .validated c.check
  | .clear => .done
  | .rest => .done

/-- The session without caches after an operation, and the serial number that a shared condition was
answered with. -/
def next (u : Uncached) (op : Operation) (serial? : Option Nat) : Uncached where
  attributes := u.attributes.update op
  given :=
    match op, serial? with
    | .intern c, some serial => u.given.insert serial c
    | _, _ => u.given

/-- The replies to operations one after the other. -/
def replies (u : Uncached) : List (Operation × Option Nat) → List Reply
  | [] => []
  | (op, serial?) :: ops => u.reply op :: (u.next op serial?).replies ops

end Uncached

namespace Session

/-- A session with caches and one without know the same: kept patterns are as compiled afresh, and
every handle in use holds the condition that was given for it. -/
structure Mirrors (s : Session) (u : Uncached) : Prop where
  sound : s.caches.patterns.Sound
  faithful : s.caches.conditions.Faithful
  attributes : s.attributes = u.attributes
  handles : ∀ serial, (s.handle? serial).map Handle.condition = u.given.find? serial
  issued : ∀ c h, s.caches.conditions.table.find? c = some h → u.given.find? h.serial = some c
  below : ∀ serial c, u.given.find? serial = some c → serial < s.caches.conditions.next

theorem mirrors_start : start.Mirrors .start where
  sound := PatternCache.sound_empty
  faithful := InternTable.faithful_empty
  attributes := rfl
  handles _ := rfl
  issued _ _ found := nomatch found
  below _ _ found := nomatch found

/-- A handle that was given out before stays what it was; a new one is found by its number. -/
theorem find?_keep (s : Session) (h : Handle) (serial : Nat) :
    (s.keep h).find? (fun k => k.serial == serial) =
      (s.handle? serial).or (if h.serial = serial then some h else none) := by
  unfold keep handle?
  split
  · rename_i known
    by_cases same : h.serial = serial
    · subst same
      rw [if_pos rfl]
      cases found : s.handles.find? fun k => k.serial == h.serial with
      | some k => rfl
      | none =>
        rw [List.find?_eq_none] at found
        obtain ⟨k, member, equal⟩ := List.any_eq_true.1 known
        exact absurd equal (found k member)
    · rw [if_neg same, Option.or_none]
  · rw [List.find?_append]
    congr 1
    by_cases same : h.serial = serial <;> simp [same]

theorem handle?_intern (s : Session) (c : Condition) (serial : Nat) :
    (s.step (.intern c)).2.1.handle? serial =
      (s.handle? serial).or
        (if (s.caches.conditions.intern c).1.serial = serial
          then some (s.caches.conditions.intern c).1 else none) := by
  rw [handle?, step_handles]
  exact s.find?_keep _ serial

namespace Mirrors

variable {s : Session} {u : Uncached}

/-- No condition was given under the next serial number. -/
theorem fresh (m : s.Mirrors u) : u.given.find? s.caches.conditions.next = none := by
  cases found : u.given.find? s.caches.conditions.next with
  | none => rfl
  | some c => exact absurd (m.below _ _ found) (Nat.lt_irrefl _)

/-- **One step replies as it would without caches.** -/
theorem reply_step (m : s.Mirrors u) (op : Operation) : (s.step op).1.reply = u.reply op := by
  cases op with
  | intern c => exact congrArg Reply.condition (m.faithful.intern_condition c)
  | compile pattern =>
    rw [step_compile]
    simp only [Uncached.reply, ← m.sound.compiled_get pattern]
    cases (s.caches.patterns.get pattern).result <;> rfl
  | search pattern text =>
    rw [step_search]
    simp only [Uncached.reply, ← m.sound.compiled_get pattern]
    cases (s.caches.patterns.get pattern).result <;> rfl
  | set name value => exact congrArg (fun a => Reply.previous (a.find? name)) m.attributes
  | unset name => exact congrArg (fun a => Reply.previous (a.find? name)) m.attributes
  | evaluate c =>
    simp only [step, Answer.reply, Uncached.reply, Condition.result_evaluate _ m.sound, m.attributes]
  | evaluateShared serial =>
    have given := m.handles serial
    simp only [step, Uncached.reply, ← given]
    cases s.handle? serial with
    | none => rfl
    | some h =>
      simp only [Option.map_some, Answer.reply, Condition.result_evaluate _ m.sound, m.attributes]
  | validate c => exact congrArg Reply.validated (Condition.result_validate m.sound c)
  | _ => rfl

/-- What is given under which serial number, after a condition was shared: if it was shared before,
nothing new, else one more. -/
theorem find?_given (m : s.Mirrors u) (c : Condition) (serial : Nat) :
    (u.given.insert (s.caches.conditions.intern c).1.serial c).find? serial =
      (u.given.find? serial).or
        (if (s.caches.conditions.intern c).1.serial = serial then some c else none) := by
  rw [Table.find?_insert]
  by_cases same : serial = (s.caches.conditions.intern c).1.serial
  · rw [if_pos same, if_pos same.symm, same]
    cases held : s.caches.conditions.table.find? c with
    | none =>
      rw [InternTable.intern_of_absent held, m.fresh]
      rfl
    | some h =>
      rw [InternTable.intern_of_found held, m.issued c h held]
      rfl
  · rw [if_neg same, if_neg (Ne.symm same), Option.or_none]

theorem step_intern (m : s.Mirrors u) (c : Condition) :
    (s.step (.intern c)).2.1.Mirrors
      (u.next (.intern c) (some (s.caches.conditions.intern c).1.serial)) where
  sound := m.sound
  faithful := by
    rw [step_conditions]
    exact m.faithful.update _
  attributes := m.attributes
  handles serial := by
    simp only [Uncached.next, m.find?_given c, handle?_intern, ← m.handles serial]
    cases s.handle? serial with
    | some k => rfl
    | none =>
      rw [Option.none_or, Option.map_none, Option.none_or]
      split
      · exact congrArg some (m.faithful.intern_condition c)
      · rfl
  issued d h bound := by
    rw [step_conditions] at bound
    simp only [Uncached.next, m.find?_given c]
    rcases InternTable.older_or_new bound with ⟨old, -⟩ | ⟨shared, new, -⟩
    · rw [m.issued d h old]
      rfl
    · cases shared
      rw [InternTable.find?_update_intern] at bound
      cases bound
      rw [if_pos rfl, new, m.fresh]
      rfl
  below serial d found := by
    rw [step_conditions]
    simp only [Uncached.next, m.find?_given c] at found
    cases old : u.given.find? serial with
    | some k =>
      exact Nat.lt_of_lt_of_le (m.below serial k old) (InternTable.next_le_update _ _)
    | none =>
      rw [old, Option.none_or] at found
      split at found
      · rename_i same
        rw [← same]
        exact (m.faithful.update (.intern c)).below c _ (InternTable.find?_update_intern _ c)
      · cases found

/-- **One step keeps the two sessions alike.** -/
theorem step (m : s.Mirrors u) (op : Operation) :
    (s.step op).2.1.Mirrors (u.next op (s.step op).1.serial?) := by
  by_cases shares : ∃ c, op = .intern c
  · obtain ⟨c, rfl⟩ := shares
    exact m.step_intern c
  · have same : (u.next op (s.step op).1.serial?).given = u.given := by
      cases op with
      | intern c => exact absurd ⟨c, rfl⟩ shares
      | _ => rfl
    have handles : (s.step op).2.1.handles = s.handles := by
      rw [step_handles]
      cases op with
      | intern c => exact absurd ⟨c, rfl⟩ shares
      | _ => rfl
    constructor
    · exact sound_step s op m.sound
    · rw [step_conditions]
      exact m.faithful.update op
    · rw [step_attributes, m.attributes]
      rfl
    · intro serial
      rw [same, handle?, handles]
      exact m.handles serial
    · intro c h bound
      rw [step_conditions] at bound
      rw [same]
      rcases InternTable.older_or_new bound with ⟨old, -⟩ | ⟨shared, -⟩
      · exact m.issued c h old
      · exact absurd ⟨c, shared⟩ shares
    · intro serial c found
      rw [same] at found
      rw [step_conditions]
      exact Nat.lt_of_lt_of_le (m.below serial c found) (InternTable.next_le_update _ _)

/-- Sessions that are alike reply alike to every sequence of operations. -/
theorem replies (m : s.Mirrors u) (ops : List Operation) :
    (s.answers ops).map Answer.reply =
      u.replies (ops.zip ((s.answers ops).map Answer.serial?)) := by
  induction ops generalizing s u with
  | nil => rfl
  | cons op ops ih =>
    have rest := ih (m.step op)
    have first := m.reply_step op
    simp only [answers, run, List.map_cons, List.zip_cons_cons, Uncached.replies] at rest ⊢
    rw [first, rest]

end Mirrors

/-- **The caches are transparent.** Whatever the operations, a session that starts with empty
caches replies to each as a session without caches does, which knows of the first only the serial
numbers by which shared conditions are named. -/
theorem replies_run (ops : List Operation) :
    (start.answers ops).map Answer.reply =
      Uncached.start.replies (ops.zip ((start.answers ops).map Answer.serial?)) :=
  mirrors_start.replies ops

end Session

end Targeting
