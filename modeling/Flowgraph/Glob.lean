/-!
# File name patterns

In a pattern a question mark stands for any character, a star for any run of characters, and
characters between brackets for one of them, or for any other if they begin with an exclamation
mark. Two stars in the place of a name stand for any number of folders.

Main result: `Glob.parse` splits a pattern into what it asks of one name after the other, and
`fits` says whether a name fits what is asked.
-/
namespace Flowgraph.Glob

inductive Cause
  | tooManyStars
  | starsBesideName
  | openClass
deriving DecidableEq, Repr

/-- Why and where a pattern is refused, by characters from zero. -/
structure Fault where
  position : Nat
  cause : Cause
deriving DecidableEq, Repr

def Cause.message : Cause → String
  | tooManyStars => "wildcards are either regular \x60*\x60 or recursive \x60**\x60"
  | starsBesideName => "recursive wildcards must form a single path component"
  | openClass => "invalid range pattern"

def Fault.message (fault : Fault) : String :=
  "Pattern syntax error near position " ++ toString fault.position ++ ": " ++ fault.cause.message

/-- The characters from one to another. -/
structure Span where
  first : Char
  last : Char
deriving DecidableEq, Repr

/-- Whether a character is among the spans. -/
def Span.haveChar (spans : List Span) (c : Char) : Bool :=
  spans.any fun span => span.first ≤ c && c ≤ span.last

inductive Token
  | char (c : Char)
  | anyChar
  | anyRun
  | within (spans : List Span)
  | outside (spans : List Span)
  | folders
deriving DecidableEq, Repr

/-- The spans that the characters between brackets give. -/
def spans : List Char → List Span
  | [] => []
  | first :: '-' :: last :: rest => ⟨first, last⟩ :: spans rest
  | c :: rest => ⟨c, c⟩ :: spans rest

/-- The class of characters behind an opening bracket, and how many characters it takes; the first
character of a class may be a closing bracket. -/
def classAt? (rest : List Char) : Option (Token × Nat) :=
  let (negated, chars) := match rest with
    | '!' :: chars => (true, chars)
    | chars => (false, chars)
  ((chars.drop 1).idxOf? ']').map fun length =>
    let found := spans (chars.take (length + 1))
    if negated then (.outside found, length + 3) else (.within found, length + 2)

/-- The parts of a pattern behind so many characters, of which the last is given. -/
def tokens : Nat → Nat → Option Char → List Char → Except Fault (List Token)
  | 0, _, _, _ => .ok []
  | _ + 1, _, _, [] => .ok []
  | fuel + 1, position, last, c :: rest =>
    match c with
    | '?' => (tokens fuel (position + 1) (some c) rest).map (.anyChar :: ·)
    | '*' =>
      match rest with
      | '*' :: '*' :: _ => .error ⟨position + 2, .tooManyStars⟩
      | '*' :: rest =>
        if last ≠ none ∧ last ≠ some '/' then .error ⟨position - 1, .starsBesideName⟩
        else
          match rest with
          | [] => .ok [.folders]
          | '/' :: rest => (tokens fuel (position + 3) (some '/') rest).map (.folders :: ·)
          | _ => .error ⟨position + 2, .starsBesideName⟩
      | rest => (tokens fuel (position + 1) (some c) rest).map (.anyRun :: ·)
    | '[' =>
      match classAt? rest with
      | some (token, length) =>
        (tokens fuel (position + 1 + length) (some ']') (rest.drop length)).map (token :: ·)
      | none => .error ⟨position, .openClass⟩
    | c => (tokens fuel (position + 1) (some c) rest).map (.char c :: ·)

def ofText (pattern : String) : Except Fault (List Token) :=
  tokens pattern.length 0 none pattern.toList

/-- Whether a name fits the parts of a pattern. -/
def matchesAll : List Token → List Char → Bool
  | [], name => name.isEmpty
  | .anyRun :: more, [] => matchesAll more []
  | .anyRun :: more, c :: name => matchesAll more (c :: name) || matchesAll (.anyRun :: more) name
  | .char wanted :: more, c :: name => wanted == c && matchesAll more name
  | .anyChar :: more, _ :: name => matchesAll more name
  | .within spans :: more, c :: name => Span.haveChar spans c && matchesAll more name
  | .outside spans :: more, c :: name => !Span.haveChar spans c && matchesAll more name
  | .folders :: _, _ => false
  | _ :: _, [] => false
termination_by tokens name => tokens.length + name.length

/-- What a pattern asks in the place of one name. -/
inductive Component
  /-- The name is given. -/
  | exactly (name : String)
  | like (tokens : List Token)
  /-- Any number of folders may stand there. -/
  | folders
deriving DecidableEq, Repr

/-- The name that a pattern without wildcards is. -/
def plainName? (tokens : List Token) : Option String :=
  (tokens.mapM fun
    | Token.char c => some c
    | _ => none).map String.ofList

/-- What the parts of a pattern ask. -/
def Component.ofTokens (tokens : List Token) : Component :=
  match plainName? tokens with
  | some name => .exactly name
  | none => if tokens = [.folders] then .folders else .like tokens

/-- Whether a name is what is asked; a sequence of folders is no name. -/
def Component.fits (component : Component) (name : String) : Bool :=
  match component with
  | .exactly wanted => wanted == name
  | .like tokens => matchesAll tokens name.toList
  | .folders => false

/-- Whether what is asked begins with a point. -/
def Component.asksForPoint : Component → Bool
  | .like (.char '.' :: _) => true
  | _ => false

/-- A file name pattern. -/
structure Pattern where
  /-- Whether it starts at the root. -/
  fromRoot : Bool
  components : List Component
  /-- Whether only folders are asked for. -/
  foldersOnly : Bool
deriving DecidableEq, Repr

/-- The texts between the slashes of a pattern behind its root; a slash at the end ends the last. -/
def pieces (pattern : String) : List String :=
  let pieces := (if pattern.startsWith "/" then pattern.drop 1 |>.toString else pattern).splitOn "/"
  if pieces = [""] then [""]
  else if pieces.getLast? = some "" then pieces.dropLast else pieces

/-- The pattern that a text is; the whole of it and every part of it must be sound. -/
def parse (text : String) : Except Fault Pattern := do
  discard (ofText text)
  let components ← (pieces text).mapM fun piece => Component.ofTokens <$> ofText piece
  pure ⟨text.startsWith "/", components, text.endsWith "/"⟩

end Flowgraph.Glob
