import Flowgraph.Unicode.Blank

/-!
# Paths of model files

A model file is named by a path inside the directory of its category. A path that could lead out
of it is refused, whichever of the two separators it uses.

Main result: `ModelPath.isSafe`.
-/
namespace Flowgraph.ModelPath

/-- Whether a character separates the parts of a path. -/
def isSeparator (c : Char) : Bool := c = '/' || c = '\\'

/-- The parts of a path between separators, empty ones included. -/
def segments : List Char → List (List Char)
  | [] => [[]]
  | c :: rest =>
    if isSeparator c then [] :: segments rest
    else
      match segments rest with
      | [] => [[c]]
      | segment :: more => (c :: segment) :: more

/-- Whether a character is an ASCII letter. -/
def isLetter (c : Char) : Bool := ('a' ≤ c && c ≤ 'z') || ('A' ≤ c && c ≤ 'Z')

/-- Whether a path starts at a root: with a separator, or with a letter and a colon. -/
def isRooted : List Char → Bool
  | c :: ':' :: _ => isSeparator c || isLetter c
  | c :: _ => isSeparator c
  | [] => false

/-- Whether a path is more than blanks, starts at no root and has no part that leads upward. -/
def isSafe (path : String) : Bool :=
  let chars := path.toList
  !chars.all Unicode.isBlank && !isRooted chars && !(segments chars).contains ['.', '.']

end Flowgraph.ModelPath
