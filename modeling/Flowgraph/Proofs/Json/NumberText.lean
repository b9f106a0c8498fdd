import Flowgraph.Proofs.Decimal.Layout

/-!
# The text of a number determines the number

The text of a float stands for a decimal, and a decimal lies in the interval of one magnitude only.
Whole numbers are written without point and exponent, and only they are.

Main result: `text_injective`.
-/
namespace Flowgraph.Json.Number

open Decimal (Interval)

/-- The text of a float without its sign. -/
def unsignedText (x : Binary64) : List Char :=
  if x.isZero then ['0', '.', '0']
  else layout (Decimal.ofBinary64 x).trimmed (Decimal.ofBinary64 x).exponent

theorem floatText_eq (x : Binary64) :
    floatText x = (if x.negative then ['-'] else []) ++ unsignedText x := by
  unfold floatText unsignedText
  cases x.isZero <;> rfl

theorem head_unsignedText (x : Binary64) : (unsignedText x).head? ≠ some '-' := by
  unfold unsignedText
  split
  · decide
  · exact head_layout (Decimal.areDigits_trimmed _)

theorem writtenValue_of_isZero {x : Binary64} (zero : x.isZero = true) :
    writtenValue (unsignedText x) = 0 := by
  have text : unsignedText x = zeros 1 ++ '.' :: zeros 1 := by
    rw [unsignedText, if_pos zero]
    rfl
  rw [text, writtenValue_point (areDigits_zeros 1) (areDigits_zeros 1)]
  simp [zeros, Nat.ofDigitChars_cons]

theorem contains_writtenValue {x : Binary64} (nonzero : x.isZero = false) :
    (Interval.ofBinary64 x).Contains (writtenValue (unsignedText x)) := by
  rw [unsignedText, if_neg (by simp [nonzero]), Decimal.writtenValue_text]
  exact Decimal.contains_ofBinary64 nonzero

/-- Texts that are the same but for a sign are of one magnitude. -/
theorem units_eq_of_unsignedText {x y : Binary64} (same : unsignedText x = unsignedText y) :
    x.units = y.units := by
  -- no interval contains zero but for the text of zero itself
  have apart {x y : Binary64} (zero : x.isZero = true) (nonzero : y.isZero = false) :
      unsignedText x ≠ unsignedText y := by
    intro same
    have inside := contains_writtenValue nonzero
    rw [← same, writtenValue_of_isZero zero] at inside
    exact Interval.not_contains_zero (Binary64.units_pos nonzero) inside
  cases zero : x.isZero <;> cases zero' : y.isZero
  · have inside := contains_writtenValue zero
    rw [same] at inside
    exact Interval.units_eq_of_contains inside (contains_writtenValue zero')
  · exact absurd same.symm (apart zero' zero)
  · exact absurd same (apart zero zero')
  · rw [Binary64.units_eq_zero zero, Binary64.units_eq_zero zero']

theorem floatText_injective {x y : Binary64} (same : floatText x = floatText y) : x = y := by
  rw [floatText_eq, floatText_eq] at same
  have first := head_unsignedText x
  have second := head_unsignedText y
  -- a sign is written in front, and no text begins with one otherwise
  have signs : x.negative = y.negative := by
    cases negative : x.negative <;> cases negative' : y.negative
    · rfl
    · simp [negative, negative'] at same
      simp [same] at first
    · simp [negative, negative'] at same
      simp [← same] at second
    · rfl
  rw [signs] at same
  exact Binary64.eq_of_units_eq signs (units_eq_of_unsignedText (List.append_cancel_left same))

theorem floatText_mark (x : Binary64) : ∃ c ∈ floatText x, c = '.' ∨ c = 'e' := by
  rw [floatText_eq]
  cases zero : x.isZero with
  | true =>
    have point : '.' ∈ unsignedText x := by simp [unsignedText, zero]
    exact ⟨'.', List.mem_append_right _ point, Or.inl rfl⟩
  | false =>
    have body : unsignedText x =
        layout (Decimal.ofBinary64 x).trimmed (Decimal.ofBinary64 x).exponent := by
      simp [unsignedText, zero]
    rw [body]
    rcases layout_mark (Decimal.ofBinary64 x).trimmed (Decimal.ofBinary64 x).exponent with
      point | exponent
    · exact ⟨'.', List.mem_append_right _ point, Or.inl rfl⟩
    · exact ⟨'e', List.mem_append_right _ exponent, Or.inr rfl⟩

theorem toDigits_injective {m n : Nat} (same : Nat.toDigits 10 m = Nat.toDigits 10 n) : m = n := by
  have read := congrArg (Nat.ofDigitChars 10 · 0) same
  simpa using read

/-- Digits alone are not the text of a float, nor are they behind a sign. -/
theorem digits_ne_floatText {n : Nat} {x : Binary64} {sign : List Char}
    (plain : ∀ c ∈ sign, c = '-') : sign ++ Nat.toDigits 10 n ≠ floatText x := by
  intro same
  obtain ⟨c, member, marks⟩ := floatText_mark x
  rw [← same] at member
  rcases List.mem_append.mp member with signed | digit
  · rcases marks with rfl | rfl <;> simpa using plain _ signed
  · have digit := areDigits_toDigits n c digit
    rcases marks with rfl | rfl <;> simp at digit

theorem toList_text_natural (value : UInt64) :
    (natural value).text.toList = [] ++ Nat.toDigits 10 value.toNat := by
  simp [text]

theorem toList_text_negative (below : Fin negatives) :
    (negative below).text.toList = ['-'] ++ Nat.toDigits 10 (below.val + 1) := by
  simp [text, String.toList_append]

theorem toList_text_float (x : Binary64) : (float x).text.toList = floatText x := by
  simp [text]

/-- The text of a number determines the number. -/
theorem text_injective {a b : Number} (same : a.text = b.text) : a = b := by
  have chars := congrArg String.toList same
  -- a negative number begins with a sign, and digits do not
  have unsigned (m n : Nat) : Nat.toDigits 10 m ≠ '-' :: Nat.toDigits 10 n := by
    intro equal
    have digit := areDigits_toDigits m '-' (by simp [equal])
    simp at digit
  cases a <;> cases b <;>
    simp only [toList_text_natural, toList_text_negative, toList_text_float] at chars
  case natural.natural m n =>
    rw [UInt64.toNat_inj.mp (toDigits_injective chars)]
  case natural.negative m n => exact absurd chars (unsigned _ _)
  case natural.float m y => exact absurd chars (digits_ne_floatText (by simp))
  case negative.natural m n => exact absurd chars.symm (unsigned _ _)
  case negative.negative m n =>
    have values := toDigits_injective (List.append_cancel_left chars)
    rw [Fin.ext (Nat.succ.inj values)]
  case negative.float m y => exact absurd chars (digits_ne_floatText (by simp))
  case float.natural x n => exact absurd chars.symm (digits_ne_floatText (by simp))
  case float.negative x n => exact absurd chars.symm (digits_ne_floatText (by simp))
  case float.float x y => rw [floatText_injective chars]

/-- The characters that numbers are written with. -/
def Numeric (c : Char) : Prop := c.isDigit = true ∨ c ∈ ['.', 'e', '-', '+']

instance : DecidablePred Numeric := fun _ => inferInstanceAs (Decidable (_ ∨ _))

theorem AreDigits.numeric {digits : List Char} (all : AreDigits digits) : ∀ c ∈ digits, Numeric c :=
  fun c member => Or.inl (all c member)

theorem numeric_of_mem_exponentText {exponent : Int} :
    ∀ c ∈ exponentText exponent, Numeric c := by
  intro c member
  rcases List.mem_cons.mp member with rfl | member
  · decide
  · rcases List.mem_cons.mp member with rfl | digit
    · split <;> decide
    · exact (areDigits_toDigits _).numeric c digit

theorem numeric_of_mem_layout {digits : List Char} {exponent : Int} (all : AreDigits digits) :
    ∀ c ∈ layout digits exponent, Numeric c := by
  have digitsNumeric := all.numeric
  unfold layout
  split
  · simp only
    split
    · rw [List.forall_mem_append, List.forall_mem_append]
      exact ⟨⟨digitsNumeric, (areDigits_zeros _).numeric⟩, by simp [Numeric]⟩
    · rw [List.forall_mem_append, List.forall_mem_cons]
      exact ⟨fun c member => digitsNumeric c (List.mem_of_mem_take member), by decide,
        fun c member => digitsNumeric c (List.mem_of_mem_drop member)⟩
  · split
    · rw [List.cons_append, List.cons_append, List.forall_mem_cons, List.forall_mem_cons,
        List.forall_mem_append]
      exact ⟨by decide, by decide, (areDigits_zeros _).numeric, digitsNumeric⟩
    · split
      · exact numeric_of_mem_exponentText
      · rw [List.forall_mem_cons]
        exact ⟨digitsNumeric _ List.mem_cons_self, numeric_of_mem_exponentText⟩
      · rw [List.cons_append, List.cons_append, List.forall_mem_cons, List.forall_mem_cons,
          List.forall_mem_append]
        exact ⟨digitsNumeric _ List.mem_cons_self, by decide,
          fun c member => digitsNumeric c (List.mem_cons_of_mem _ member),
          numeric_of_mem_exponentText⟩

theorem numeric_of_mem_text {number : Number} {c : Char} (member : c ∈ number.text.toList) :
    Numeric c := by
  cases number with
  | natural value =>
    rw [toList_text_natural] at member
    exact (areDigits_toDigits _).numeric c member
  | negative below =>
    rw [toList_text_negative] at member
    rcases List.mem_append.mp member with sign | digit
    · rw [List.mem_singleton.mp sign]
      decide
    · exact (areDigits_toDigits _).numeric c digit
  | float x =>
    rw [toList_text_float, floatText_eq] at member
    rcases List.mem_append.mp member with sign | body
    · have minus : c = '-' := by
        cases x.negative <;> simp_all
      subst minus
      decide
    · unfold unsignedText at body
      split at body
      · have all : ∀ c ∈ ['0', '.', '0'], Numeric c := by simp [Numeric]
        exact all c body
      · exact numeric_of_mem_layout (Decimal.areDigits_trimmed _) c body

end Flowgraph.Json.Number
