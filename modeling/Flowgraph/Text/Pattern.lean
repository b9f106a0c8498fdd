import Flowgraph.Unicode.Word

/-!
# Patterns of text

A pattern that is tried at a place of a text gives the places where what it matches can end, the
preferred one first: a run of characters takes as many as it can, and the first of two choices goes
before the second. A text is searched from its start, and behind a match the search goes on where
the match ends.

Main result: `Pattern.found` lists what the groups of a pattern hold in each of its matches.
-/
namespace Flowgraph

/-- A place that an attempt to match has reached. -/
structure Place where
  /-- The character before the place. -/
  last : Option Char
  after : List Char
  /-- How many characters the attempt has taken. -/
  taken : Nat
  /-- What the groups hold, the latest first. -/
  groups : List (Nat × List Char)

namespace Place

/-- The place where an attempt begins. -/
def start (last : Option Char) (after : List Char) : Place := ⟨last, after, 0, []⟩

/-- The place behind the next character. -/
def step (place : Place) (c : Char) (rest : List Char) : Place :=
  { place with last := some c, after := rest, taken := place.taken + 1 }

/-- The places that a run of characters can end at, the furthest first, in front of others; what
follows the place is given. -/
def runs (test : Char → Bool) : List Char → Place → List Place → List Place
  | [], place, others => place :: others
  | c :: rest, place, others =>
    if test c then runs test rest (place.step c rest) (place :: others) else place :: others

def atLineStart (place : Place) : Bool := place.last.all (· == '\n')

/-- Whether there is a word character on just one side of a place. -/
def atWordEdge (place : Place) : Bool :=
  place.last.any Unicode.isWord != place.after.head?.any Unicode.isWord

end Place

inductive Pattern
  | nothing
  /-- One character of a kind. -/
  | one (test : Char → Bool)
  /-- Any number of characters of a kind. -/
  | many (test : Char → Bool)
  | lineStart
  | wordEdge
  | andThen (first second : Pattern)
  | either (first second : Pattern)
  | group (number : Nat) (inner : Pattern)

namespace Pattern

/-- Patterns that match one behind the other. -/
def inOrder : List Pattern → Pattern
  | [] => nothing
  | pattern :: rest => andThen pattern (inOrder rest)

def word (text : String) : Pattern := inOrder (text.toList.map fun c => one (· == c))

/-- At least one character of a kind. -/
def atLeastOne (test : Char → Bool) : Pattern := andThen (one test) (many test)

/-- The places where what a pattern matches from a place on can end, the preferred one first. -/
def ends : Pattern → Place → List Place
  | nothing, place => [place]
  | one test, place =>
    match place.after with
    | c :: rest => if test c then [place.step c rest] else []
    | [] => []
  | many test, place => place.runs test place.after []
  | lineStart, place => if place.atLineStart then [place] else []
  | wordEdge, place => if place.atWordEdge then [place] else []
  | andThen first second, place => (first.ends place).flatMap second.ends
  | either first second, place => first.ends place ++ second.ends place
  | group number inner, place => (inner.ends place).map fun stop =>
      { stop with groups := (number, place.after.take (stop.taken - place.taken)) :: stop.groups }

/-- Where the match ends that begins at a place, if there is one. -/
def match? (pattern : Pattern) (last : Option Char) (after : List Char) : Option Place :=
  (pattern.ends (.start last after)).head?

/-- What the groups hold in the matches that begin behind so many characters; a match that takes
nothing is left behind by one character. -/
def search (pattern : Pattern) : Nat → Option Char → List Char → List (List (Nat × List Char))
  | 0, last, [] => ((pattern.match? last []).map Place.groups).toList
  | 0, last, c :: rest =>
    match pattern.match? last (c :: rest) with
    | some stop => stop.groups :: search pattern (stop.taken - 1) (some c) rest
    | none => search pattern 0 (some c) rest
  | _ + 1, _, [] => []
  | skip + 1, _, c :: rest => search pattern skip (some c) rest

/-- What the groups hold in each match of a text. -/
def found (pattern : Pattern) (text : List Char) : List (List (Nat × List Char)) :=
  pattern.search 0 none text

end Pattern

end Flowgraph
