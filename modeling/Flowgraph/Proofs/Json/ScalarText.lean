import Flowgraph.Json.Printer
import Flowgraph.Proofs.Json.NumberText
import Flowgraph.Text.Numeral

/-!
# The text of a scalar determines the scalar

Inside quotes every character is written so that it can be told from what follows, a quote first of
all. The text of a number has a digit in it and neither quotes nor letters but `e`.

Main result: `quoted_injective` and `compact_injective`.
-/
namespace Flowgraph.Json

open Text (hexDigit?)

/-- Whether a value has no parts. -/
def isScalar : Json → Bool
  | array _ | object _ => false
  | _ => true

/-- The character that an escaped text begins with, and what follows it. -/
def unescape : List Char → Option (Char × List Char)
  | '\\' :: 'n' :: rest => some ('\n', rest)
  | '\\' :: 'r' :: rest => some ('\r', rest)
  | '\\' :: 't' :: rest => some ('\t', rest)
  | '\\' :: 'b' :: rest => some (Char.ofNat 8, rest)
  | '\\' :: 'f' :: rest => some (Char.ofNat 12, rest)
  | '\\' :: 'u' :: '0' :: '0' :: high :: low :: rest =>
    some (Char.ofNat ((hexDigit? high).getD 0 * 16 + (hexDigit? low).getD 0), rest)
  | '\\' :: c :: rest => some (c, rest)
  | c :: rest => some (c, rest)
  | [] => none

theorem ofNat_hexDigits {n : Nat} (small : n < 32) :
    Char.ofNat ((hexDigit? (hexDigit (n / 16))).getD 0 * 16 + (hexDigit? (hexDigit n)).getD 0) =
      Char.ofNat n := by
  have all : ∀ n < 32, (hexDigit? (hexDigit (n / 16))).getD 0 * 16 +
      (hexDigit? (hexDigit n)).getD 0 = n := by decide
  rw [all n small]

theorem unescape_escaped (c : Char) (rest : List Char) :
    unescape (escaped c ++ rest) = some (c, rest) := by
  -- the cases are those of `escaped`, in its order
  unfold escaped
  split
  · next quote => subst quote; rfl
  split
  · next backslash => subst backslash; rfl
  split
  · next line => subst line; rfl
  split
  · next line => subst line; rfl
  split
  · next tab => subst tab; rfl
  split
  · next back =>
    have code : Char.ofNat 8 = c := by rw [← back, Char.ofNat_toNat]
    subst code; rfl
  split
  · next feed =>
    have code : Char.ofNat 12 = c := by rw [← feed, Char.ofNat_toNat]
    subst code; rfl
  split
  · next control =>
    simp only [List.cons_append, List.nil_append, unescape]
    rw [ofNat_hexDigits control, Char.ofNat_toNat]
  · next plain _ _ _ _ _ _ => simp [unescape, plain]

theorem flatMap_escaped_injective {chars others : List Char}
    (same : chars.flatMap escaped = others.flatMap escaped) : chars = others := by
  have filled (c : Char) (rest : List Char) : escaped c ++ rest ≠ [] := by
    intro empty
    have read := unescape_escaped c rest
    rw [empty] at read
    contradiction
  induction chars generalizing others with
  | nil =>
    cases others with
    | nil => rfl
    | cons c rest => exact absurd same.symm (filled c _)
  | cons c rest ih =>
    cases others with
    | nil => exact absurd same (filled c _)
    | cons d later =>
      rw [List.flatMap_cons, List.flatMap_cons] at same
      -- both sides are read back: the same character, and the same rest
      have read := unescape_escaped c (rest.flatMap escaped)
      rw [same, unescape_escaped] at read
      obtain ⟨rfl, rests⟩ := Prod.mk.inj (Option.some.inj read)
      rw [ih rests.symm]

theorem quoted_injective {text other : String} (same : quoted text = quoted other) :
    text = other := by
  have chars := congrArg String.toList same
  simp only [quoted, String.toList_ofList, List.cons_append, List.cons.injEq, true_and,
    List.append_cancel_right_eq] at chars
  exact String.toList_inj.mp (flatMap_escaped_injective chars)

/-- Scalars that are no numbers have a text that begins unlike a number. -/
theorem exists_unnumeric {value : Json} (scalar : value.isScalar = true)
    (unnumeric : ∀ number, value ≠ .number number) :
    ∃ c ∈ value.compact.toList, ¬ Number.Numeric c := by
  cases value with
  | null => exact ⟨'n', by simp [compact], by decide⟩
  | bool value =>
    cases value
    · exact ⟨'f', by simp [compact], by decide⟩
    · exact ⟨'t', by simp [compact], by decide⟩
  | number number => exact absurd rfl (unnumeric number)
  | string text => exact ⟨'"', by simp [compact, quoted], by decide⟩
  | array items => contradiction
  | object fields => contradiction

theorem compact_ne_number {value : Json} {number : Number} (scalar : value.isScalar = true)
    (unnumeric : ∀ number, value ≠ .number number) : value.compact ≠ number.text := by
  intro same
  obtain ⟨c, member, other⟩ := exists_unnumeric scalar unnumeric
  rw [same] at member
  exact other (Number.numeric_of_mem_text member)

/-- A text in quotes is none of the fixed texts. -/
theorem quoted_ne {text other : String} (different : other.toList.head? ≠ some '"') :
    quoted text ≠ other := by
  rintro rfl
  simp [quoted] at different

/-- The text of a scalar determines the scalar. -/
theorem compact_injective {value other : Json} (scalar : value.isScalar = true)
    (scalar' : other.isScalar = true) (same : value.compact = other.compact) : value = other := by
  cases value with
  | number number =>
    cases other with
    | number number' => rw [Number.text_injective same]
    | _ => exact absurd same.symm (compact_ne_number scalar' (by simp))
  | string text =>
    cases other with
    | string text' => rw [quoted_injective same]
    | number number' => exact absurd same (compact_ne_number scalar (by simp))
    | null => exact absurd same (quoted_ne (by decide))
    | bool value' => cases value' <;> exact absurd same (quoted_ne (by decide))
    | _ => contradiction
  | null =>
    cases other with
    | null => rfl
    | number number' => exact absurd same (compact_ne_number scalar (by simp))
    | string text => exact absurd same.symm (quoted_ne (by decide))
    | bool value' => cases value' <;> simp [compact] at same
    | _ => contradiction
  | bool value =>
    cases other with
    | bool value' => cases value <;> cases value' <;> simp [compact] at same ⊢
    | number number' => exact absurd same (compact_ne_number scalar (by simp))
    | string text => cases value <;> exact absurd same.symm (quoted_ne (by decide))
    | null => cases value <;> simp [compact] at same
    | _ => contradiction
  | array items => contradiction
  | object fields => contradiction

end Flowgraph.Json
