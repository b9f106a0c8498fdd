import Mathlib.Data.List.TakeWhile
import Flowgraph.Json.Number
import Flowgraph.Proofs.Decimal.Search

/-!
# Reading a laid out decimal

A written float is read back as a rational number: its digits without the point, divided by ten for
each digit behind the point and shifted by the exponent. However a decimal is laid out, this gives
the decimal again.

Main result: `writtenValue_layout`, and `writtenValue_text` for a decimal without the zeros at its
end.
-/
namespace Flowgraph.Json.Number

/-- All characters of a list are decimal digits. -/
def AreDigits (chars : List Char) : Prop := ∀ c ∈ chars, c.isDigit = true

/-- The exponent that a written number ends with. -/
def writtenExponent : List Char → Int
  | 'e' :: '-' :: digits => -(Nat.ofDigitChars 10 digits 0 : Int)
  | 'e' :: '+' :: digits => Nat.ofDigitChars 10 digits 0
  | _ => 0

/-- The rational number that a written number without a sign stands for. -/
def writtenValue (chars : List Char) : ℚ :=
  let mantissa := chars.takeWhile (· ≠ 'e')
  let fraction := (mantissa.dropWhile (· ≠ '.')).drop 1
  Nat.ofDigitChars 10 (mantissa.filter (· ≠ '.')) 0 *
    10 ^ (writtenExponent (chars.dropWhile (· ≠ 'e')) - fraction.length)

section

variable {digits more : List Char} {exponent : Int}

theorem AreDigits.ne (all : AreDigits digits) {c : Char} (other : c.isDigit = false) :
    ∀ d ∈ digits, d ≠ c := by
  rintro d member rfl
  rw [all d member] at other
  contradiction

theorem areDigits_toDigits (n : Nat) : AreDigits (Nat.toDigits 10 n) :=
  fun _ member => Nat.isDigit_of_mem_toDigits (by decide) (by decide) member

theorem areDigits_zeros (count : Nat) : AreDigits (zeros count) := by
  intro c member
  rw [List.eq_of_mem_replicate member]
  rfl

theorem AreDigits.append (all : AreDigits digits) (all' : AreDigits more) :
    AreDigits (digits ++ more) := by
  intro c member
  rcases List.mem_append.mp member with left | right
  · exact all c left
  · exact all' c right

theorem writtenExponent_exponentText : writtenExponent (exponentText exponent) = exponent := by
  unfold exponentText
  split
  · simp only [writtenExponent, Nat.ofDigitChars_ten_toDigits]
    omega
  · simp only [writtenExponent, Nat.ofDigitChars_ten_toDigits]
    omega

theorem writtenValue_append_exponentText (plain : ∀ c ∈ digits, c ≠ 'e') :
    writtenValue (digits ++ exponentText exponent) = writtenValue digits * 10 ^ exponent := by
  have plain' : ∀ c ∈ digits, decide (c ≠ 'e') = true := fun c member => by
    simpa using plain c member
  -- the first `e` is the one of the exponent
  have taken : (digits ++ exponentText exponent).takeWhile (· ≠ 'e') = digits := by
    rw [List.takeWhile_append_of_pos plain']
    simp [exponentText]
  have dropped : (digits ++ exponentText exponent).dropWhile (· ≠ 'e') = exponentText exponent := by
    rw [List.dropWhile_append_of_pos plain']
    simp [exponentText]
  have whole : digits.takeWhile (· ≠ 'e') = digits := List.takeWhile_eq_self_iff.mpr plain'
  have nothing : digits.dropWhile (· ≠ 'e') = [] := List.dropWhile_eq_nil_iff.mpr plain'
  simp only [writtenValue, taken, dropped, whole, nothing, writtenExponent_exponentText]
  rw [show writtenExponent [] = 0 from rfl, mul_assoc, ← zpow_add₀ (by norm_num)]
  congr 2
  ring

/-- Digits with a point among them. -/
theorem writtenValue_point (all : AreDigits digits) (all' : AreDigits more) :
    writtenValue (digits ++ '.' :: more) =
      Nat.ofDigitChars 10 (digits ++ more) 0 * 10 ^ (-(more.length : Int)) := by
  have noPoint : ∀ c ∈ digits, decide (c ≠ '.') = true := fun c member => by
    simpa using all.ne rfl c member
  have noPoint' : ∀ c ∈ more, decide (c ≠ '.') = true := fun c member => by
    simpa using all'.ne rfl c member
  have plain : ∀ c ∈ digits ++ '.' :: more, decide (c ≠ 'e') = true := by
    intro c member
    rcases List.mem_append.mp member with left | right
    · simpa using all.ne rfl c left
    · rcases List.mem_cons.mp right with rfl | later
      · decide
      · simpa using all'.ne rfl c later
  have whole : (digits ++ '.' :: more).takeWhile (· ≠ 'e') = digits ++ '.' :: more :=
    List.takeWhile_eq_self_iff.mpr plain
  have nothing : (digits ++ '.' :: more).dropWhile (· ≠ 'e') = [] :=
    List.dropWhile_eq_nil_iff.mpr plain
  have fraction : (digits ++ '.' :: more).dropWhile (· ≠ '.') = '.' :: more := by
    rw [List.dropWhile_append_of_pos noPoint]
    simp
  have kept : (digits ++ '.' :: more).filter (· ≠ '.') = digits ++ more := by
    rw [List.filter_append, List.filter_eq_self.mpr noPoint, List.filter_cons_of_neg (by decide),
      List.filter_eq_self.mpr noPoint']
  simp only [writtenValue, whole, nothing, fraction, kept]
  rw [show writtenExponent [] = 0 from rfl, List.drop_one, List.tail_cons, zero_sub]

theorem writtenValue_digits (all : AreDigits digits) :
    writtenValue digits = Nat.ofDigitChars 10 digits 0 := by
  have noPoint : ∀ c ∈ digits, decide (c ≠ '.') = true := fun c member => by
    simpa using all.ne rfl c member
  have plain : ∀ c ∈ digits, decide (c ≠ 'e') = true := fun c member => by
    simpa using all.ne rfl c member
  simp only [writtenValue, List.takeWhile_eq_self_iff.mpr plain,
    List.dropWhile_eq_nil_iff.mpr plain, List.dropWhile_eq_nil_iff.mpr noPoint,
    List.filter_eq_self.mpr noPoint]
  rw [show writtenExponent [] = 0 from rfl]
  simp

/-- Digits with zeros behind them, up to the point. -/
theorem writtenValue_padded (all : AreDigits digits) (count : Nat) :
    writtenValue (digits ++ zeros count ++ ['.', '0']) =
      Nat.ofDigitChars 10 digits 0 * 10 ^ (count : Int) := by
  rw [show ['.', '0'] = '.' :: zeros 1 from rfl,
    writtenValue_point (all.append (areDigits_zeros count)) (areDigits_zeros 1)]
  simp only [zeros, Nat.ofDigitChars_append, Nat.ofDigitChars_replicate_zero, List.length_replicate]
  rw [zpow_natCast, zpow_neg, zpow_natCast]
  push_cast
  field_simp

/-- Digits with zeros before them, behind the point. -/
theorem writtenValue_shifted (all : AreDigits digits) (count : Nat) :
    writtenValue ('0' :: '.' :: (zeros count ++ digits)) =
      Nat.ofDigitChars 10 digits 0 * 10 ^ (-(count + digits.length : Nat) : Int) := by
  have zero : AreDigits ['0'] := by simp [AreDigits]
  have shape : '0' :: '.' :: (zeros count ++ digits) =
      ['0'] ++ '.' :: (zeros count ++ digits) := rfl
  rw [shape, writtenValue_point zero ((areDigits_zeros count).append all)]
  simp [zeros, Nat.ofDigitChars_append, Nat.ofDigitChars_cons]

/-- A digit, a point and more digits, with an exponent. -/
theorem writtenValue_scientific {first : Char} (firstDigit : AreDigits [first])
    (all : AreDigits digits) :
    writtenValue (first :: '.' :: digits ++ exponentText exponent) =
      Nat.ofDigitChars 10 (first :: digits) 0 * 10 ^ (exponent - digits.length) := by
  have plain : ∀ c ∈ first :: '.' :: digits, c ≠ 'e' := by
    intro c member
    rcases List.mem_cons.mp member with rfl | member
    · exact firstDigit.ne rfl c List.mem_cons_self
    · rcases List.mem_cons.mp member with rfl | member
      · decide
      · exact all.ne rfl c member
  have shape : first :: '.' :: digits = [first] ++ '.' :: digits := rfl
  rw [writtenValue_append_exponentText plain, shape, writtenValue_point firstDigit all,
    List.singleton_append, mul_assoc, ← zpow_add₀ (by norm_num)]
  congr 2
  ring

/-- However a decimal is laid out, its text stands for it. -/
theorem writtenValue_layout (all : AreDigits digits) :
    writtenValue (layout digits exponent) =
      Nat.ofDigitChars 10 digits 0 * 10 ^ (exponent + 1 - digits.length) := by
  unfold layout
  split
  · next positional =>
    simp only
    split
    · next short =>
      rw [writtenValue_padded all]
      congr 2
      omega
    · next long =>
      have first : AreDigits (digits.take (exponent.toNat + 1)) :=
        fun c member => all c (List.mem_of_mem_take member)
      have last : AreDigits (digits.drop (exponent.toNat + 1)) :=
        fun c member => all c (List.mem_of_mem_drop member)
      -- the point stands among the digits, so leaving it out gives them all
      rw [writtenValue_point first last, List.take_append_drop, List.length_drop]
      congr 2
      omega
  · split
    · next near =>
      rw [List.cons_append, List.cons_append, writtenValue_shifted all]
      congr 2
      omega
    · split
      · have plain : writtenValue ([] ++ exponentText exponent) = writtenValue [] * 10 ^ exponent :=
          writtenValue_append_exponentText (by simp)
        rw [writtenValue_digits all] at plain
        simpa using plain
      · next first =>
        have plain : writtenValue ([first] ++ exponentText exponent) =
            writtenValue [first] * 10 ^ exponent :=
          writtenValue_append_exponentText (all.ne rfl)
        rw [writtenValue_digits all] at plain
        simpa using plain
      · next first rest _ =>
        have firstDigit : AreDigits [first] := by
          simpa [AreDigits] using all first List.mem_cons_self
        have later : AreDigits rest := fun c member => all c (List.mem_cons_of_mem _ member)
        rw [writtenValue_scientific firstDigit later]
        congr 2
        simp

/-- A decimal is laid out with a point or an exponent, and does not begin with a sign. -/
theorem layout_mark (digits : List Char) (exponent : Int) :
    '.' ∈ layout digits exponent ∨ 'e' ∈ layout digits exponent := by
  unfold layout
  split
  · simp only
    split <;> simp
  · split
    · simp
    · split <;> simp [exponentText]

theorem head_layout (all : AreDigits digits) : (layout digits exponent).head? ≠ some '-' := by
  have first : digits.head? ≠ some '-' := by
    intro head
    exact all.ne rfl '-' (List.mem_of_mem_head? head) rfl
  unfold layout
  split
  · next positional =>
    simp only
    cases digits with
    | nil => simp [zeros, List.replicate_succ]
    | cons c rest => split <;> simpa using first
  · split
    · simp
    · split <;> simp_all [exponentText]

end

end Flowgraph.Json.Number

namespace Flowgraph.Decimal

open Json.Number (AreDigits writtenValue)

/-- The zeros at the end of a decimal are left out without changing what it stands for. -/
theorem trimmed_spec (d : Decimal) :
    ∃ count, Nat.toDigits 10 d.digits = d.trimmed ++ List.replicate count '0' := by
  set reversed := (Nat.toDigits 10 d.digits).reverse with reversal
  refine ⟨(reversed.takeWhile (· = '0')).length, ?_⟩
  have zeros : reversed.takeWhile (· = '0') =
      List.replicate (reversed.takeWhile (· = '0')).length '0' :=
    List.eq_replicate_of_mem fun c member => by simpa using List.mem_takeWhile_imp member
  calc Nat.toDigits 10 d.digits = reversed.reverse := by rw [reversal, List.reverse_reverse]
    _ = (reversed.takeWhile (· = '0') ++ reversed.dropWhile (· = '0')).reverse := by
      rw [List.takeWhile_append_dropWhile]
    _ = d.trimmed ++ (reversed.takeWhile (· = '0')).reverse := List.reverse_append
    _ = d.trimmed ++ List.replicate (reversed.takeWhile (· = '0')).length '0' := by
      rw [zeros, List.reverse_replicate, List.length_replicate]

theorem areDigits_trimmed (d : Decimal) : AreDigits d.trimmed := by
  obtain ⟨count, split⟩ := d.trimmed_spec
  intro c member
  apply Json.Number.areDigits_toDigits d.digits
  rw [split]
  exact List.mem_append_left _ member

/-- The text of a decimal stands for the decimal. -/
theorem writtenValue_text (d : Decimal) :
    writtenValue (Json.Number.layout d.trimmed d.exponent) = d.toRat := by
  obtain ⟨count, split⟩ := d.trimmed_spec
  have digits : d.digits = 10 ^ count * Nat.ofDigitChars 10 d.trimmed 0 := by
    have read := Nat.ofDigitChars_ten_toDigits (n := d.digits)
    rw [split, Nat.ofDigitChars_append, Nat.ofDigitChars_replicate_zero] at read
    exact read.symm
  have length : digitCount d.digits = d.trimmed.length + count := by
    rw [digitCount, split, List.length_append, List.length_replicate]
  rw [Json.Number.writtenValue_layout d.areDigits_trimmed, toRat, length, digits]
  -- the zeros that were left out are made up for by the exponent
  have places : d.exponent + 1 - d.trimmed.length =
      (count : Int) + (d.exponent + 1 - (d.trimmed.length + count : Nat)) := by
    push_cast
    ring
  rw [places, zpow_add₀ (by norm_num), zpow_natCast]
  push_cast
  ring

end Flowgraph.Decimal
