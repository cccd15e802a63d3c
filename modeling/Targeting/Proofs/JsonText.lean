import Targeting.Proofs.NumberText

/-!
# The tokens of written JSON

The text of a value is cut into exactly the tokens of the value (`Json.tokens_text`): brackets,
braces, commas and colons where they were written, and every name, string and number whole. Escapes
in a string stand for the characters that were escaped (`Json.Token.string?_escaped`), and a number
ends where it ends because a comma, a bracket or a brace follows. Of a number the reader makes what it
makes of the number's own text (`Json.Number.reread`), so the tokens are those of the value with its
numbers replaced by that (`Json.reread`).
-/

set_option autoImplicit false

namespace Targeting.Json

open Token

namespace Token

/-- A part of a string that was written for a character. -/
inductive Piece.Reads : Piece → Char → Prop
  /-- The character itself, or its letter behind a backslash. -/
  | char (c : Char) : Reads (.char c) c
  /-- The number of a control. -/
  | control {c : Char} (small : c.toNat < 32) : Reads (.unit c.toNat) c

/-- A number below the surrogates stands for a character of its own. -/
theorem characters_unit {n : Nat} (small : n < 32) (ps : List Piece) :
    characters (.unit n :: ps) = (characters ps).map (Char.ofNat n :: ·) := by
  have notHigh : isHigh n = false := by simp [isHigh]; omega
  have notLow : isLow n = false := by simp [isLow]; omega
  cases ps with
  | nil => simp [characters, notHigh, notLow]
  | cons p ps => cases p <;> simp [characters, notHigh, notLow]

theorem characters_of_reads {ps : List Piece} {cs : List Char}
    (reads : List.Forall₂ Piece.Reads ps cs) : characters ps = some cs := by
  induction reads with
  | nil => rfl
  | cons first _ later =>
    cases first with
    | char c => simp [characters, later]
    | control small => simp [characters_unit small, later]

/-- An escaped character is one piece. -/
theorem pieces_escape (c : Char) :
    ∃ p : Piece, p.Reads c ∧ ∀ {tail : List Char} {ps : List Piece} {rest : List Char},
      pieces tail = some (ps, rest) → pieces (escape c ++ tail) = some (p :: ps, rest) := by
  unfold escape
  split
  -- The seven characters that have a letter of their own.
  iterate 7 exact ⟨_, .char _, fun read => by simp [pieces, shortEscape?, read]⟩
  rename_i noQuote noBackslash _ _ _ _ _
  split
  · rename_i small
    refine ⟨_, .control small, fun read => ?_⟩
    have zero : Text.hexValue? '0' = some 0 := rfl
    have high := Text.hexValue?_hexDigit (c.toNat / 16) (by omega)
    have low := Text.hexValue?_hexDigit (c.toNat % 16) (by omega)
    have whole : c.toNat / 16 * 16 + c.toNat % 16 = c.toNat := by omega
    simp [pieces, zero, high, low, read, whole]
  · rename_i large
    refine ⟨_, .char c, fun {tail _ _} read => ?_⟩
    have plain : (c == '\\' || decide (c.toNat < 32)) = false := by
      rw [Bool.or_eq_false_iff, decide_eq_false large, beq_eq_false_iff_ne]
      exact ⟨noBackslash, rfl⟩
    rw [List.singleton_append, pieces.eq_5 _ _ noQuote
      (fun _ _ _ _ _ escaped _ => noBackslash escaped) (fun _ _ escaped _ => noBackslash escaped),
      plain, read]
    rfl

/-- Escaped characters are a piece each, up to the quote. -/
theorem pieces_escaped (cs rest : List Char) :
    ∃ ps : List Piece, List.Forall₂ Piece.Reads ps cs ∧
      pieces (cs.flatMap escape ++ '"' :: rest) = some (ps, rest) := by
  induction cs with
  | nil => exact ⟨[], .nil, rfl⟩
  | cons c cs ih =>
    obtain ⟨ps, later, read⟩ := ih
    obtain ⟨p, first, step⟩ := pieces_escape c
    refine ⟨p :: ps, .cons first later, ?_⟩
    rw [List.flatMap_cons, List.append_assoc]
    exact step read

/-- **A written string reads back as itself.** -/
theorem string?_escaped (s : String) (rest : List Char) :
    string? (s.toList.flatMap escape ++ '"' :: rest) = some (.string (some s), rest) := by
  obtain ⟨ps, reads, read⟩ := pieces_escaped s.toList rest
  simp [string?, read, characters_of_reads reads]

end Token

/-- A text consists of tokens, with no space between them. -/
inductive Lexed : List Char → List Token → Prop
  | nil : Lexed [] []
  | cons {c : Char} {cs rest : List Char} {t : Token} {ts : List Token}
    (visible : isSpace c = false) (first : first? c cs = some (t, rest))
    (shorter : rest.length ≤ cs.length) (later : Lexed rest ts) : Lexed (c :: cs) (t :: ts)

/-- As every token takes a character at least, there is room for all of them. -/
theorem scan_of_lexed {cs : List Char} {ts : List Token} (lexed : Lexed cs ts) {n : Nat}
    (enough : cs.length ≤ n) : scan n cs = ts := by
  induction lexed generalizing n with
  | nil => cases n <;> rfl
  | @cons c cs rest t ts visible first shorter later ih =>
    cases n with
    | zero => simp at enough
    | succ n =>
      rw [List.length_cons] at enough
      rw [scan, List.dropWhile_cons_of_neg (by simp [visible])]
      simp only [first, ih (by omega : rest.length ≤ n)]

theorem tokens_of_lexed {s : String} {ts : List Token} (lexed : Lexed s.toList ts) :
    tokens s = ts :=
  scan_of_lexed lexed (Nat.le_refl _)

/-- What the reader makes of the text of a number. -/
def Number.reread (n : Number) : Number :=
  match tokens n.text with
  | [.number (some m)] => m
  | _ => n

theorem Number.ReadAs.lexed {n m : Number} (read : n.ReadAs m) {rest : List Char} {ts : List Token}
    (ends : EndsNumber rest) (later : Lexed rest ts) :
    Lexed (n.text.toList ++ rest) (.number (some m) :: ts) := by
  obtain ⟨c, cs, text, visible, read⟩ := read rest ends
  rw [text, List.cons_append]
  exact .cons visible read (by simp) later

theorem Number.ReadAs.reread_eq {n m : Number} (read : n.ReadAs m) : n.reread = m := by
  have lexed := read.lexed endsNumber_nil .nil
  rw [List.append_nil] at lexed
  rw [reread, tokens_of_lexed lexed]

theorem Number.readAs_reread (n : Number) : n.ReadAs n.reread := by
  obtain ⟨m, read⟩ := n.exists_readAs
  rw [read.reread_eq]
  exact read

/-- An integer is reread as itself. -/
theorem Number.reread_int {n : Int} (fits : FitsWord n) : (int n fits).reread = .int n fits :=
  (readAs_int fits).reread_eq

/-- A finite number is reread as a finite number, which can be another one. -/
theorem Number.exists_reread_real {x : Binary64} (finite : x.isFinite = true) :
    ∃ y, ∃ h : y.isFinite = true, (real x finite).reread = .real y h := by
  obtain ⟨y, h, read⟩ := exists_readAs_real finite
  exact ⟨y, h, read.reread_eq⟩

mutual

/-- A value with what the reader makes of its numbers. -/
def reread : Json → Json
  | number n => number n.reread
  | array items => array (rereadItems items)
  | object members => object (rereadMembers members)
  | v => v

/-- Items with what the reader makes of their numbers. -/
def rereadItems : List Json → List Json
  | [] => []
  | v :: vs => v.reread :: rereadItems vs

/-- Members with what the reader makes of their numbers. -/
def rereadMembers : List (String × Json) → List (String × Json)
  | [] => []
  | (name, v) :: ms => (name, v.reread) :: rereadMembers ms

end

mutual

/-- The tokens of a value, with those of what follows it. -/
def spell : Json → List Token → List Token
  | null, ts => .null :: ts
  | bool b, ts => .bool b :: ts
  | number n, ts => .number (some n) :: ts
  | string s, ts => .string (some s) :: ts
  | array items, ts => .openBracket :: spellItems items (.closeBracket :: ts)
  | object members, ts => .openBrace :: spellMembers members (.closeBrace :: ts)

/-- The tokens of the items of an array, with commas between them. -/
def spellItems : List Json → List Token → List Token
  | [], ts => ts
  | [v], ts => spell v ts
  | v :: w :: vs, ts => spell v (.comma :: spellItems (w :: vs) ts)

/-- The tokens of the members of an object, with commas between them. -/
def spellMembers : List (String × Json) → List Token → List Token
  | [], ts => ts
  | [(name, v)], ts => .string (some name) :: .colon :: spell v ts
  | (name, v) :: m :: ms, ts =>
    .string (some name) :: .colon :: spell v (.comma :: spellMembers (m :: ms) ts)

end

variable {rest : List Char} {ts : List Token}

theorem lexed_string (s : String) (later : Lexed rest ts) :
    Lexed (writeString s rest) (.string (some s) :: ts) :=
  .cons rfl (string?_escaped s rest) (by simp; omega) later

theorem lexed_comma (later : Lexed rest ts) : Lexed (',' :: rest) (.comma :: ts) :=
  .cons rfl rfl (Nat.le_refl _) later

theorem lexed_colon (later : Lexed rest ts) : Lexed (':' :: rest) (.colon :: ts) :=
  .cons rfl rfl (Nat.le_refl _) later

-- What follows a value matters only if the value is a number; inside brackets and braces it is a
-- comma or what closes them.
mutual

theorem lexed_write : (v : Json) → {rest : List Char} → {ts : List Token} →
    EndsNumber rest → Lexed rest ts → Lexed (write v rest) (spell v.reread ts)
  | null, _, _, _, later => .cons rfl rfl (by simp; omega) later
  | bool true, _, _, _, later => .cons rfl rfl (by simp; omega) later
  | bool false, _, _, _, later => .cons rfl rfl (by simp; omega) later
  | number n, _, _, ends, later => n.readAs_reread.lexed ends later
  | string s, _, _, _, later => lexed_string s later
  | array items, _, _, _, later => by
    have close := Lexed.cons (c := ']') rfl rfl (Nat.le_refl _) later
    have inside := lexed_writeItems items (endsNumber_cons _ (by decide)) close
    exact .cons rfl rfl (Nat.le_refl _) inside
  | object members, _, _, _, later => by
    have close := Lexed.cons (c := '\x7d') rfl rfl (Nat.le_refl _) later
    have inside := lexed_writeMembers members (endsNumber_cons _ (by decide)) close
    exact .cons rfl rfl (Nat.le_refl _) inside

theorem lexed_writeItems : (items : List Json) → {rest : List Char} → {ts : List Token} →
    EndsNumber rest → Lexed rest ts →
      Lexed (writeItems items rest) (spellItems (rereadItems items) ts)
  | [], _, _, _, later => later
  | [v], _, _, ends, later => lexed_write v ends later
  | v :: w :: vs, _, _, ends, later => by
    have others := lexed_writeItems (w :: vs) ends later
    exact lexed_write v (endsNumber_cons _ (by decide)) (lexed_comma others)

theorem lexed_writeMembers : (members : List (String × Json)) → {rest : List Char} →
    {ts : List Token} → EndsNumber rest → Lexed rest ts →
      Lexed (writeMembers members rest) (spellMembers (rereadMembers members) ts)
  | [], _, _, _, later => later
  | [(name, v)], _, _, ends, later => lexed_string name (lexed_colon (lexed_write v ends later))
  | (name, v) :: m :: ms, _, _, ends, later => by
    have others := lexed_writeMembers (m :: ms) ends later
    have first := lexed_write v (endsNumber_cons _ (by decide)) (lexed_comma others)
    exact lexed_string name (lexed_colon first)

end

/-- **The tokens of a written value are those of the value**, its numbers as they are reread. -/
theorem tokens_text (v : Json) : tokens v.text = spell v.reread [] := by
  apply tokens_of_lexed
  rw [text, String.toList_ofList]
  exact lexed_write v endsNumber_nil .nil

end Targeting.Json
