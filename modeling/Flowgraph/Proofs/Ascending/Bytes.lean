import Flowgraph.Proofs.Ascending

/-!
# The order of names is that of their bytes

A code of several bytes begins with a byte that says how many there are, and the more there are the
greater it is; codes of one length have the digits of the code points in base 64, the highest first.
So the bytes of a lesser character come before those of a greater one, whatever follows.

Main result: `compareNames_eq_compareBytes`.
-/
namespace Flowgraph

/-- The bytes of a text in UTF-8. -/
def bytesOf (text : String) : List UInt8 := text.toUTF8.data.toList

/-- The order of texts by their bytes, where the first difference decides. -/
def compareBytes (a b : String) : Ordering := compare (bytesOf a) (bytesOf b)

theorem bytesOf_eq (text : String) : bytesOf text = text.toList.flatMap String.utf8EncodeChar := by
  rw [bytesOf, String.toUTF8, ← String.ofList_toList (s := text), String.toByteArray_ofList,
    String.toList_ofList, List.utf8Encode, List.data_toByteArray]

theorem compare_bytes {m n : Nat} (small : m < 256) (small' : n < 256) :
    compare (UInt8.ofNat m) (UInt8.ofNat n) = compare m n := by
  rw [UInt8.compare_eq_toNat_compare_toNat, UInt8.toNat_ofNat_of_lt' small,
    UInt8.toNat_ofNat_of_lt' small']

theorem codePoint_lt (c : Char) : c.val.toNat < 1114112 := by
  rcases c.valid with low | ⟨-, high⟩
  · exact low.trans (by decide)
  · exact high

theorem compare_append_left (bytes rest rest' : List UInt8) :
    compare (bytes ++ rest) (bytes ++ rest') = compare rest rest' := by
  induction bytes with
  | nil => rfl
  | cons byte bytes ih =>
    rw [List.cons_append, List.cons_append, List.compare_cons_cons, Std.compare_self,
      Ordering.eq_then, ih]

/-- The code of a lesser character comes first, whatever follows the codes. -/
theorem compare_utf8EncodeChar {c d : Char} (less : c < d) (rest rest' : List UInt8) :
    compare (String.utf8EncodeChar c ++ rest) (String.utf8EncodeChar d ++ rest') = .lt := by
  have order : c.val.toNat < d.val.toNat := less
  have bound := codePoint_lt c
  have bound' := codePoint_lt d
  simp only [String.utf8EncodeChar]
  generalize c.val.toNat = m, d.val.toNat = n at order bound bound'
  -- numbers are ordered by their quotients, and those of one quotient by their last digits
  have digit (k l : Nat) (order : k < l) :
      k / 64 < l / 64 ∨ k / 64 = l / 64 ∧ k % 64 < l % 64 := by omega
  have low := digit m n order
  have middle := digit (m / 64) (n / 64)
  have high := digit (m / 64 / 64) (n / 64 / 64)
  have quotient (k : Nat) : k / 4096 = k / 64 / 64 ∧ k / 262144 = k / 64 / 64 / 64 := by omega
  rw [(quotient m).1, (quotient m).2, (quotient n).1, (quotient n).2]
  repeat' split
  all_goals
    simp (disch := omega) only [List.cons_append, List.nil_append, List.compare_cons_cons,
      Ordering.then_eq_lt, compare_bytes, Nat.compare_eq_lt, Nat.compare_eq_eq]
    omega

theorem compare_flatMap {chars others : List Char} (less : chars < others) :
    compare (chars.flatMap String.utf8EncodeChar) (others.flatMap String.utf8EncodeChar) = .lt := by
  induction less with
  | @nil c rest =>
    obtain ⟨first, later, code⟩ := List.exists_cons_of_ne_nil
      (String.utf8EncodeChar_ne_nil (c := c))
    rw [List.flatMap_cons, code]
    rfl
  | rel less =>
    rw [List.flatMap_cons, List.flatMap_cons]
    exact compare_utf8EncodeChar less _ _
  | cons _ ih =>
    rw [List.flatMap_cons, List.flatMap_cons, compare_append_left]
    exact ih

theorem compareBytes_eq_lt {a b : String} (less : compareNames a b = .lt) :
    compareBytes a b = .lt := by
  have chars : a.toList < b.toList := by
    unfold compareNames at less
    split at less
    · exact String.lt_iff.mp ‹_›
    · split at less <;> contradiction
  rw [compareBytes, bytesOf_eq, bytesOf_eq]
  exact compare_flatMap chars

theorem compareNames_eq_compareBytes : compareNames = compareBytes := by
  funext a b
  cases compared : compareNames a b with
  | lt => exact (compareBytes_eq_lt compared).symm
  | eq => rw [eq_of_compareNames_eq compared, compareBytes, Std.compare_self]
  | gt =>
    have swapped := compareBytes_eq_lt (Std.OrientedCmp.gt_iff_lt.mp compared)
    rw [compareBytes, Std.OrientedOrd.eq_swap, ← compareBytes, swapped]
    rfl

end Flowgraph
