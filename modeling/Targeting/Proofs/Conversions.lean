import Targeting.Proofs.NearestNumber
import Targeting.Proofs.StoredValue

/-!
# The ways of making an attribute value

A value is made from a JSON value by conversion or by reading, from an integer directly, and its
stored form is JSON again. Conversion and reading take the same JSON values for the same attribute
values (`Value.convert_eq_ok_iff`), and conversion never refuses a number as out of range
(`Value.convert_ne_outOfRange`); an integer becomes the number nearest to it in every way, also above
`2⁵³`; and what was stored is converted back (`Value.convert_toJson`).
-/

set_option autoImplicit false

namespace Targeting

/-- An integer of 64 bits is a JSON number. -/
theorem Json.fitsWord_toInt (n : Int64) : Json.FitsWord n.toInt := by
  have least := n.le_toInt
  have most := n.toInt_lt
  have words : Json.twoPow 63 = 2 ^ 63 ∧ Json.twoPow 64 = 2 ^ 64 := by decide
  rw [Json.FitsWord, words.1, words.2]
  omega

theorem Json.natAbs_le_of_fitsWord {n : Int} (fits : Json.FitsWord n) : n.natAbs ≤ 2 ^ 64 := by
  have words : Json.twoPow 63 = 2 ^ 63 ∧ Json.twoPow 64 = 2 ^ 64 := by decide
  rw [Json.FitsWord, words.1, words.2] at fits
  omega

/-- Every JSON number has a value in 64 bits. -/
theorem Json.Number.toBinary64?_eq (n : Json.Number) : n.toBinary64? = some n.toBinary64 := by
  cases n <;> rfl

namespace Value

theorem ofJson_array (items : List Json) : ofJson (.array items) = .error .notScalar := by
  rw [ofJson, Json.sorted, Stored.valueOf_eq]

theorem ofJson_object (members : List (String × Json)) :
    ofJson (.object members) = .error .notScalar := by
  rw [ofJson, Json.sorted, Stored.valueOf_eq]

/-- No number that JSON can hold is out of range. -/
theorem convert_ne_outOfRange (v : Json) (n : Json.Number) : convert v ≠ .error (.outOfRange n) := by
  cases v with
  | number m =>
    rw [convert, Json.Number.toBinary64?_eq]
    exact nofun
  | _ => exact nofun

/-- **Conversion and reading make the same values.** -/
theorem convert_eq_ok_iff (v : Json) (a : Value) : convert v = .ok a ↔ ofJson v = .ok a := by
  have made {w : Value} (converted : convert v = .ok w) (read : ofJson v = .ok w) :
      convert v = .ok a ↔ ofJson v = .ok a := by
    rw [converted, read, Except.ok.injEq, Except.ok.injEq]
  cases v with
  | null => exact made rfl rfl
  | bool b => exact made rfl rfl
  | number n =>
    cases n with
    | int n fits => exact made rfl rfl
    | real x finite => exact made rfl rfl
  | string s => exact made rfl rfl
  | array items =>
    rw [ofJson_array]
    exact iff_of_false nofun nofun
  | object members =>
    rw [ofJson_object]
    exact iff_of_false nofun nofun

theorem stored_of_not_finite {a : Value} (infinite : ¬ a.Finite) : a.stored = null := by
  cases a with
  | number x => exact if_neg infinite
  | _ => exact absurd trivial infinite

/-- Converting the stored form of a value gives what was left of it. -/
theorem convert_toJson (a : Value) : convert a.toJson = .ok a.stored := by
  rw [convert_eq_ok_iff, ofJson, sorted_toJson, Stored.valueOf_toJson]

/-- **The ways of making a value agree.** What converting a JSON value gives is what reading it
gives, and neither takes an array or an object. Every integer of 64 bits, converted or read, is the
value made from the integer itself, which is the one number nearest to it, of two that are equally
near the one with the even fraction. Converting the stored form of a value gives the value, but for
the numbers that are not finite, which have become null. -/
theorem conversions_agree :
    (∀ (v : Json) (a : Value), convert v = .ok a ↔ ofJson v = .ok a) ∧
    (∀ items : List Json,
      convert (.array items) = .error .array ∧ ofJson (.array items) = .error .notScalar) ∧
    (∀ members : List (String × Json),
      convert (.object members) = .error .object ∧ ofJson (.object members) = .error .notScalar) ∧
    (∀ n : Int64, Json.FitsWord n.toInt) ∧
    (∀ (n : Int) (fits : Json.FitsWord n),
      convert (.number (.int n fits)) = .ok (ofInt n) ∧
      ofJson (.number (.int n fits)) = .ok (ofInt n) ∧
      ∀ x : Binary64, x.IsNearest n ↔ number x = ofInt n) ∧
    ∀ a : Value,
      (a.Finite → convert a.toJson = .ok a) ∧
      (¬ a.Finite → convert a.toJson = .ok .null) := by
  refine ⟨convert_eq_ok_iff, ?_, ?_, Json.fitsWord_toInt, ?_, ?_⟩
  · intro items
    exact ⟨rfl, ofJson_array items⟩
  · intro members
    exact ⟨rfl, ofJson_object members⟩
  · intro n fits
    refine ⟨rfl, rfl, ?_⟩
    intro x
    rw [Binary64.isNearest_iff_eq_ofInt (Json.natAbs_le_of_fitsWord fits), ofInt, number.injEq]
  · intro a
    rw [convert_toJson]
    constructor
    · intro finite
      rw [(stored_eq_self_iff a).2 finite]
    · intro infinite
      rw [stored_of_not_finite infinite]

/-- The first integer between two numbers becomes the even one of them, which alone is the nearest,
and both numbers are stored as they are, unlike an infinity. -/
theorem first_tie_becomes_even :
    let n : Int64 := 9007199254740993
    let even : Binary64 := ⟨0x4340000000000000⟩
    let odd : Binary64 := ⟨0x4340000000000001⟩
    (∃ fits : Json.FitsWord n.toInt,
      convert (.number (.int n.toInt fits)) = .ok (.number even) ∧
      ofJson (.number (.int n.toInt fits)) = .ok (.number even)) ∧
    even.IsNearest n.toInt ∧ ¬ odd.IsNearest n.toInt ∧
    convert (number odd).toJson = .ok (.number odd) ∧
    convert (number (.infinity true)).toJson = .ok .null := by
  intro n even odd
  obtain ⟨-, -, -, fitting, integers, storing⟩ := conversions_agree
  obtain ⟨converted, read, nearest⟩ := integers n.toInt (fitting n)
  have rounded : number even = ofInt n.toInt := by decide +kernel
  have other : number odd ≠ ofInt n.toInt := by decide +kernel
  refine ⟨⟨fitting n, ?_, ?_⟩, (nearest even).2 rounded, ?_, ?_, ?_⟩
  · rw [rounded]
    exact converted
  · rw [rounded]
    exact read
  · intro alike
    exact other ((nearest odd).1 alike)
  · have finite : odd.isFinite = true := by decide
    exact (storing (number odd)).1 finite
  · have infinite : ¬ (Binary64.infinity true).isFinite = true := by decide
    exact (storing (number (.infinity true))).2 infinite

end Value

end Targeting
