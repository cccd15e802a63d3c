import Targeting.Proofs.Requests

/-!
# Requests answer as a fresh compilation does

A pattern cache is sound when what it holds for a text is what compiling the text gives, refusals
included. The empty cache is sound, and requests keep a cache sound, so nobody who asks can tell a
kept answer from a fresh one, the serial number of a compiled pattern apart
(`PatternCache.Sound.compiled_get`).
-/

set_option autoImplicit false

namespace Targeting

variable [Engine]

/-- A compiled pattern without its serial number. -/
structure Compiled where
  source : String
  pattern : Engine.Program

/-- All that can be told of a shared pattern but which one it is. -/
def Regex.compiled (r : Regex) : Compiled :=
  ⟨r.source, r.pattern⟩

/-- The answer to a request where nothing is kept: the text is compiled. -/
def compileAfresh (text : String) : Except InvalidPattern Compiled :=
  match Engine.compile text with
  | .ok pattern => .ok ⟨text, pattern⟩
  | .error refusal => .error ⟨text, refusal⟩

theorem exists_compileAfresh_ok_iff (text : String) :
    (∃ c, compileAfresh text = .ok c) ↔ (Engine.compile text).isOk = true := by
  unfold compileAfresh
  cases Engine.compile text <;> simp [Except.isOk, Except.toBool]

theorem exists_compileAfresh_error_iff (text : String) :
    (∃ e, compileAfresh text = .error e) ↔ (Engine.compile text).isOk = false := by
  unfold compileAfresh
  cases Engine.compile text <;> simp [Except.isOk, Except.toBool]

/-- A refusal names the text that was refused. -/
theorem pattern_of_refused {text : String} {e : InvalidPattern}
    (refused : compileAfresh text = .error e) : e.pattern = text := by
  unfold compileAfresh at refused
  cases compiled : Engine.compile text with
  | ok _ => simp [compiled] at refused
  | error refusal =>
    rw [compiled] at refused
    cases refused
    rfl

namespace PatternCache

/-- What the cache holds for a text is what compiling the text gives. -/
def Sound (cache : PatternCache) : Prop :=
  ∀ text held, cache.table.find? text = some held →
    (answer text held).map Regex.compiled = compileAfresh text

theorem sound_empty : empty.Sound :=
  fun _ _ found => nomatch found

theorem sound_clear (cache : PatternCache) : cache.clear.Sound :=
  fun _ _ found => nomatch found

/-- What is kept for a text is what compiling it gives. -/
theorem answer_fresh (cache : PatternCache) (text : String) :
    (answer text (cache.fresh text)).map Regex.compiled = compileAfresh text := by
  unfold fresh compileAfresh
  cases Engine.compile text <;> rfl

/-- What a sound cache answers from is what compiling the text gives. -/
theorem Sound.answer_holding {cache : PatternCache} (sound : cache.Sound) (text : String) :
    (answer text (cache.holding text)).map Regex.compiled = compileAfresh text := by
  unfold holding
  cases found : cache.table.find? text with
  | some held => exact sound text held found
  | none => exact cache.answer_fresh text

/-- A request to a sound cache gives what compiling the text gives. -/
theorem Sound.compiled_get {cache : PatternCache} (sound : cache.Sound) (text : String) :
    (cache.get text).result.map Regex.compiled = compileAfresh text := by
  rw [result_get]
  exact sound.answer_holding text

theorem Sound.get {cache : PatternCache} (sound : cache.Sound) (text : String) :
    (cache.get text).cache.Sound := by
  intro other held holds
  rw [find?_get] at holds
  split at holds
  · rename_i same
    cases holds
    rw [same]
    exact sound.answer_holding text
  · exact sound other held holds

theorem Sound.askAll {cache : PatternCache} (sound : cache.Sound) (texts : List String) :
    (cache.askAll texts).Sound :=
  askAll_induction (fun _ text sound => sound.get text) sound texts

end PatternCache

/-- An outcome that accounts for its cache leaves a sound one, if it found a sound one. -/
theorem Outcome.Accounts.sound {α : Type} {cache : PatternCache} {o : Outcome α}
    (h : o.Accounts cache) (sound : cache.Sound) : o.cache.Sound :=
  h.keeps (fun _ text sound => sound.get text) sound

end Targeting
