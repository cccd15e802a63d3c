import Mathlib.Data.List.Basic
import Targeting.Text.Hex
import Targeting.Text.Quoted

/-!
# Quoted text is read in one way

In quoted text it can be told where the escape of a character ends and which character it is
(`Text.unescape?_escape`), whatever the character. So the characters are read back one after the
other, up to the first quote that is not escaped (`Text.escapeAll_inj`), and what follows a quoted
text cannot be taken for a part of it (`Text.quote_inj`).
-/

set_option autoImplicit false

namespace Targeting.Text

/-- The number that hexadecimal digits stand for. -/
def hexNumber (digits : List Char) : Nat :=
  digits.foldl (fun n c => 16 * n + (hexValue? c).getD 0) 0

theorem hexValue?_digitChar {n : Nat} (small : n < 16) : hexValue? n.digitChar = some n := by
  have each : ∀ k : Fin 16, hexValue? k.val.digitChar = some k.val := by decide
  exact each ⟨n, small⟩

/-- The hexadecimal digits of a number stand for the number. -/
theorem hexNumber_toDigits (n : Nat) : hexNumber (Nat.toDigits 16 n) = n := by
  induction n using Nat.strongRecOn with
  | ind n ih =>
    by_cases single : n < 16
    · rw [Nat.toDigits_of_lt_base single]
      simp [hexNumber, hexValue?_digitChar single]
    · rw [Nat.toDigits_of_base_le (by decide) (by omega), hexNumber, List.foldl_append]
      show 16 * hexNumber (Nat.toDigits 16 (n / 16)) + (hexValue? (n % 16).digitChar).getD 0 = n
      rw [ih (n / 16) (by omega), hexValue?_digitChar (by omega), Option.getD_some]
      omega

/-- No digit is a closing brace. -/
theorem ne_closeBrace_of_mem_toDigits {n : Nat} {c : Char} (mem : c ∈ Nat.toDigits 16 n) :
    c ≠ '\x7d' := by
  induction n using Nat.strongRecOn with
  | ind n ih =>
    by_cases single : n < 16
    · rw [Nat.toDigits_of_lt_base single, List.mem_singleton] at mem
      rw [mem]
      exact Nat.digitChar_ne _ rfl
    · rw [Nat.toDigits_of_base_le (by decide) (by omega), List.mem_append] at mem
      cases mem with
      | inl front => exact ih (n / 16) (by omega) front
      | inr last =>
        rw [List.mem_singleton.1 last]
        exact Nat.digitChar_ne _ rfl

/-- The characters that have a letter of their own behind a backslash. -/
def letters : List (Char × Char) :=
  [('"', '"'), ('\\', '\\'), ('n', '\n'), ('r', '\r'), ('t', '\t'), ('0', '\x00')]

/-- Reads back what stands behind a backslash, with what follows it. -/
def unescapeRest? : List Char → Option (Char × List Char)
  | 'u' :: '\x7b' :: rest =>
    some (Char.ofNat (hexNumber (rest.takeWhile (· != '\x7d'))),
      (rest.dropWhile (· != '\x7d')).tail)
  | c :: rest => (letters.lookup c).map fun d => (d, rest)
  | [] => none

/-- Reads back one character of quoted text, with what follows it; none if the text ends. -/
def unescape? : List Char → Option (Char × List Char)
  | '\\' :: rest => unescapeRest? rest
  | '"' :: _ => none
  | c :: rest => some (c, rest)
  | [] => none

/-- A character that is given by its number is read back. -/
theorem unescape?_numbered (c : Char) (rest : List Char) :
    unescape? (numbered c ++ rest) = some (c, rest) := by
  have inside : ∀ d ∈ Nat.toDigits 16 c.toNat, (d != '\x7d') = true := by
    intro d mem
    exact bne_iff_ne.2 (ne_closeBrace_of_mem_toDigits mem)
  have digits : (Nat.toDigits 16 c.toNat ++ '\x7d' :: rest).takeWhile (· != '\x7d') =
      Nat.toDigits 16 c.toNat := by
    rw [List.takeWhile_append_of_pos inside]
    simp
  have after : (Nat.toDigits 16 c.toNat ++ '\x7d' :: rest).dropWhile (· != '\x7d') =
      '\x7d' :: rest := by
    rw [List.dropWhile_append_of_pos inside]
    simp
  have shape : numbered c ++ rest =
      '\\' :: 'u' :: '\x7b' :: (Nat.toDigits 16 c.toNat ++ '\x7d' :: rest) := by
    simp [numbered]
  rw [shape, unescape?, unescapeRest?, digits, after, hexNumber_toDigits, Char.ofNat_toNat]
  rfl

/-- **The escape of a character is read back as the character**, and ends where it ends. -/
theorem unescape?_escape (c : Char) (rest : List Char) :
    unescape? (escape c ++ rest) = some (c, rest) := by
  unfold escape
  split
  -- The six characters that have a letter of their own.
  iterate 6 rfl
  rename_i noQuote noBackslash _ _ _ _
  split
  · exact unescape?_numbered c rest
  · exact unescape?.eq_3 c rest noBackslash noQuote

variable {rest rest' : List Char}

/-- Characters are read back one after the other, up to the quote that ends them. -/
theorem escapeAll_inj {cs ds : List Char}
    (same : escapeAll cs ++ '"' :: rest = escapeAll ds ++ '"' :: rest') : cs = ds ∧ rest = rest' := by
  induction cs generalizing ds with
  | nil =>
    cases ds with
    | nil => exact ⟨rfl, (List.cons.inj same).2⟩
    | cons d ds =>
      have read := congrArg unescape? same
      rw [escapeAll, escapeAll, List.flatMap_cons, List.append_assoc, unescape?_escape] at read
      cases read
  | cons c cs ih =>
    have read := congrArg unescape? same
    rw [escapeAll, List.flatMap_cons, List.append_assoc, unescape?_escape] at read
    cases ds with
    | nil => cases read
    | cons d ds =>
      rw [escapeAll, List.flatMap_cons, List.append_assoc, unescape?_escape, Option.some.injEq,
        Prod.mk.injEq] at read
      obtain ⟨first, later⟩ := read
      obtain ⟨others, behind⟩ := ih later
      exact ⟨by rw [first, others], behind⟩

/-- **Quoted text is read in one way**, whatever follows it. -/
theorem quote_inj {s t : String} (same : (quote s).toList ++ rest = (quote t).toList ++ rest') :
    s = t ∧ rest = rest' := by
  have inside : escapeAll s.toList ++ '"' :: rest = escapeAll t.toList ++ '"' :: rest' := by
    simpa [quote] using same
  obtain ⟨characters, behind⟩ := escapeAll_inj inside
  exact ⟨String.toList_injective characters, behind⟩

end Targeting.Text
