import Mathlib.Algebra.Ring.Nat
import Mathlib.Data.List.Forall2
import Flowgraph.Fingerprint

/-!
# Reading bytes back

A text behind its tag and its length ends where the length says, so it can be told from what follows
it. A sequence of codes can be read back one by one if each of them begins with a byte that nothing
behind the sequence begins with.

Main result: `field_append_inj` and `flatMap_append_inj`.
-/
namespace Flowgraph.Content

open List (Forall₂)

theorem toList_loop (bytes : ByteArray) (start : Nat) (before : List UInt8) :
    ByteArray.toList.loop bytes start before = before.reverse ++ bytes.data.toList.drop start := by
  fun_induction ByteArray.toList.loop bytes start before with
  | case1 start before inside ih =>
    have within : start < bytes.data.toList.length := by simpa using inside
    have first : bytes.get! start = bytes.data.toList[start] := getElem!_pos bytes.data start inside
    rw [ih, List.drop_eq_getElem_cons within, first, List.reverse_cons, List.append_assoc,
      List.singleton_append]
  | case2 start before outside =>
    have past : bytes.data.toList.length ≤ start := by simpa using outside
    rw [List.drop_eq_nil_of_le past, List.append_nil]

theorem ofText_eq (text : String) : ofText text = text.toByteArray.data.toList := by
  simp [ofText, ByteArray.toList, toList_loop]

theorem length_ofText (text : String) : (ofText text).length = text.utf8ByteSize := by
  rw [ofText_eq]
  simp

theorem ofText_injective {text other : String} (same : ofText text = ofText other) :
    text = other := by
  rw [ofText_eq, ofText_eq] at same
  exact String.toByteArray_inj.mp (ByteArray.ext (Array.toList_inj.mp same))

theorem length_ofLength (n : Nat) : (ofLength n).length = 8 := by simp [ofLength]

theorem ofLength_injective {m n : Nat} (small : m < 2 ^ 64) (small' : n < 2 ^ 64)
    (same : ofLength m = ofLength n) : m = n := by
  have bytes (i : Nat) (inside : i < 8) : m / 2 ^ (8 * i) % 256 = n / 2 ^ (8 * i) % 256 := by
    have byte := congrArg (fun l => (l[i]?).map UInt8.toNat) same
    simpa [ofLength, inside, Nat.shiftRight_eq_div_pow] using byte
  -- eight bytes make up a number below `2 ^ 64`
  have byte0 := bytes 0 (by decide)
  have byte1 := bytes 1 (by decide)
  have byte2 := bytes 2 (by decide)
  have byte3 := bytes 3 (by decide)
  have byte4 := bytes 4 (by decide)
  have byte5 := bytes 5 (by decide)
  have byte6 := bytes 6 (by decide)
  have byte7 := bytes 7 (by decide)
  omega

theorem ofSlot_injective {slot other : UInt32} (same : ofSlot slot = ofSlot other) :
    slot = other := by
  simp only [ofSlot, Blake3.wordBytes, List.cons.injEq, and_true, ← UInt8.toNat_inj] at same
  obtain ⟨byte0, byte1, byte2, byte3⟩ := same
  have small := slot.toNat_lt
  have small' := other.toNat_lt
  simp [Nat.shiftRight_eq_div_pow] at byte0 byte1 byte2 byte3
  apply UInt32.toNat_inj.mp
  omega

/-- A text can be read back from behind its tag. -/
theorem field_append_inj {tag text other : String} {rest rest' : List UInt8}
    (fits : text.utf8ByteSize < 2 ^ 64) (fits' : other.utf8ByteSize < 2 ^ 64)
    (same : field tag text ++ rest = field tag other ++ rest') : text = other ∧ rest = rest' := by
  simp only [field, List.append_assoc] at same
  obtain ⟨lengths, same⟩ := List.append_inj (List.append_cancel_left same) (by
    rw [length_ofLength, length_ofLength])
  -- equal lengths say how far each text goes
  have equal : (ofText text).length = (ofText other).length := by
    apply ofLength_injective _ _ lengths
    · rwa [length_ofText]
    · rwa [length_ofText]
  obtain ⟨texts, rests⟩ := List.append_inj same equal
  exact ⟨ofText_injective texts, rests⟩

/-- Bytes begin with one that fulfils a condition. -/
def Begins (opening : UInt8 → Prop) (bytes : List UInt8) : Prop :=
  ∃ first rest, bytes = first :: rest ∧ opening first

section

variable {α : Type} {code : α → List UInt8} {Same : α → α → Prop} {xs ys : List α}
variable {opening inner : UInt8 → Prop} {rest rest' : List UInt8}

theorem Begins.append {bytes : List UInt8} (begins : Begins opening bytes) (rest : List UInt8) :
    Begins opening (bytes ++ rest) := by
  obtain ⟨first, later, rfl, opens⟩ := begins
  exact ⟨first, later ++ rest, rfl, opens⟩

theorem Begins.imp {bytes : List UInt8} (begins : Begins opening bytes)
    (weaker : ∀ byte, opening byte → inner byte) : Begins inner bytes := by
  obtain ⟨first, later, rfl, opens⟩ := begins
  exact ⟨first, later, rfl, weaker first opens⟩

theorem not_begins_nil : ¬ Begins opening [] := by
  rintro ⟨first, later, split, -⟩
  contradiction

theorem not_begins_false {bytes : List UInt8} : ¬ Begins (fun _ => False) bytes := by
  rintro ⟨first, later, split, opens⟩
  exact opens

theorem Begins.not {bytes : List UInt8} (begins : Begins opening bytes)
    (apart : ∀ byte, opening byte → ¬ inner byte) : ¬ Begins inner bytes := by
  obtain ⟨first, later, rfl, opens⟩ := begins
  rintro ⟨first', later', same, opens'⟩
  cases same
  exact apart first opens opens'

theorem flatMap_congr (same : Forall₂ (fun x y => code x = code y) xs ys) :
    xs.flatMap code = ys.flatMap code := by
  induction same with
  | nil => rfl
  | cons first _ ih => rw [List.flatMap_cons, List.flatMap_cons, first, ih]

/-- What follows a code in a sequence does not continue the code. -/
theorem not_begins_flatMap (opens : ∀ x ∈ xs, Begins opening (code x))
    (apart : ∀ byte, opening byte → ¬ inner byte) (ends : ¬ Begins inner rest) :
    ¬ Begins inner (xs.flatMap code ++ rest) := by
  cases xs with
  | nil => exact ends
  | cons x xs =>
    rw [List.flatMap_cons, List.append_assoc]
    exact ((opens x List.mem_cons_self).append _).not apart

/-- A sequence can be read back from before bytes that do not begin like its codes, if every code
can be read back from before bytes that do not continue it. -/
theorem flatMap_append_inj (opens : ∀ x ∈ xs, Begins opening (code x))
    (opens' : ∀ y ∈ ys, Begins opening (code y)) (apart : ∀ byte, opening byte → ¬ inner byte)
    (each : ∀ x ∈ xs, ∀ y ∈ ys, ∀ rest rest', ¬ Begins inner rest → ¬ Begins inner rest' →
      code x ++ rest = code y ++ rest' → Same x y ∧ rest = rest')
    (ends : ¬ Begins opening rest ∧ ¬ Begins inner rest)
    (ends' : ¬ Begins opening rest' ∧ ¬ Begins inner rest')
    (same : xs.flatMap code ++ rest = ys.flatMap code ++ rest') :
    Forall₂ Same xs ys ∧ rest = rest' := by
  induction xs generalizing ys with
  | nil =>
    cases ys with
    | nil => exact ⟨.nil, same⟩
    | cons y ys =>
      -- a code on one side only would have to begin what follows the other
      have begins := (opens' y List.mem_cons_self).append (ys.flatMap code ++ rest')
      rw [← List.append_assoc, ← List.flatMap_cons, ← same] at begins
      exact absurd begins ends.1
  | cons x xs ih =>
    cases ys with
    | nil =>
      have begins := (opens x List.mem_cons_self).append (xs.flatMap code ++ rest)
      rw [← List.append_assoc, ← List.flatMap_cons, same] at begins
      exact absurd begins ends'.1
    | cons y ys =>
      have opens : ∀ x ∈ xs, Begins opening (code x) := fun x member =>
        opens x (List.mem_cons_of_mem _ member)
      have opens' : ∀ y ∈ ys, Begins opening (code y) := fun y member =>
        opens' y (List.mem_cons_of_mem _ member)
      rw [List.flatMap_cons, List.flatMap_cons, List.append_assoc, List.append_assoc] at same
      -- what follows the first code is the next code or the end: neither continues it
      obtain ⟨first, same⟩ := each x List.mem_cons_self y List.mem_cons_self _ _
        (not_begins_flatMap opens apart ends.2) (not_begins_flatMap opens' apart ends'.2) same
      obtain ⟨later, rests⟩ := ih opens opens' (fun x member y member' =>
        each x (List.mem_cons_of_mem _ member) y (List.mem_cons_of_mem _ member')) same
      exact ⟨.cons first later, rests⟩

theorem begins_ofText {tag : String} {byte : UInt8}
    (first : tag.toByteArray.data.toList.head? = some byte) : Begins (· = byte) (ofText tag) := by
  obtain ⟨later, split⟩ := List.head?_eq_some_iff.mp first
  exact ⟨byte, later, by rw [ofText_eq, split], rfl⟩

theorem begins_field {tag text : String} {byte : UInt8}
    (first : tag.toByteArray.data.toList.head? = some byte) :
    Begins (· = byte) (field tag text) := by
  rw [field, List.append_assoc]
  exact (begins_ofText first).append _

/-- A sequence can be read back from before a closing text if no code begins like that. -/
theorem flatMap_closed_inj {closing : String} {byte : UInt8}
    (first : closing.toByteArray.data.toList.head? = some byte)
    (opens : ∀ x, Begins (· ≠ byte) (code x))
    (each : ∀ x ∈ xs, ∀ y ∈ ys, ∀ rest rest', code x ++ rest = code y ++ rest' →
      Same x y ∧ rest = rest')
    (same : xs.flatMap code ++ (ofText closing ++ rest) =
      ys.flatMap code ++ (ofText closing ++ rest')) :
    Forall₂ Same xs ys ∧ rest = rest' := by
  have closes (bytes : List UInt8) : Begins (· = byte) (ofText closing ++ bytes) :=
    (begins_ofText first).append bytes
  have ends (bytes : List UInt8) : ¬ Begins (· ≠ byte) (ofText closing ++ bytes) ∧
      ¬ Begins (fun _ => False) (ofText closing ++ bytes) :=
    ⟨(closes bytes).not (by simp), not_begins_false⟩
  obtain ⟨all, rests⟩ := flatMap_append_inj (fun x _ => opens x) (fun y _ => opens y) (by simp)
    (fun x member y member' rest rest' _ _ => each x member y member' rest rest') (ends rest)
    (ends rest') same
  exact ⟨all, List.append_cancel_left rests⟩

end

end Flowgraph.Content
