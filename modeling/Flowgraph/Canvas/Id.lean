import Flowgraph.Json
import Flowgraph.Text.Numeral

/-!
# Ids on the canvas

A node's id is a text. A canvas document may give it as a whole number too, and is written with a
number wherever the text is the decimal form of a whole number that fits 64 bits with its sign.

Main result: `ofJson?_toJson` says that writing and reading an id gives it back.
-/
namespace Flowgraph.Canvas.Id

/-- The id that a value stands for. -/
def ofJson? : Json → Option String
  | .string text => some text
  | .number (.natural value) => some (Json.Number.natural value).text
  | .number (.negative below) => some (Json.Number.negative below).text
  | _ => none

/-- The whole number that a text looks like, whether or not it is its decimal form. -/
def candidate (text : String) : Json.Number :=
  match text.toList with
  | '-' :: digits =>
    let magnitude := Text.digitsValue digits
    if inRange : 0 < magnitude ∧ magnitude ≤ Json.Number.negatives then
      .negative ⟨magnitude - 1, by omega⟩
    else .natural 0
  | digits =>
    let magnitude := Text.digitsValue digits
    .natural (if magnitude < Json.Number.negatives then magnitude.toUInt64 else 0)

/-- What an id is written as. -/
def toJson (id : String) : Json :=
  let number := candidate id
  if number.text = id then .number number else .string id

theorem ofJson?_toJson (id : String) : ofJson? (toJson id) = some id := by
  unfold toJson
  dsimp only
  split
  · next same =>
    have whole : ∃ value, candidate id = .natural value ∨
        ∃ below, candidate id = .negative below := by
      unfold candidate
      split
      · dsimp only
        split
        · exact ⟨0, .inr ⟨_, rfl⟩⟩
        · exact ⟨0, .inl rfl⟩
      · exact ⟨_, .inl rfl⟩
    obtain ⟨value, natural | ⟨below, negative⟩⟩ := whole
    · rw [natural] at same ⊢
      simp [ofJson?, same]
    · rw [negative] at same ⊢
      simp [ofJson?, same]
  · rfl

end Flowgraph.Canvas.Id
