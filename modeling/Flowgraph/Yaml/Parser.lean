import Flowgraph.Keyed
import Flowgraph.Yaml
import Flowgraph.Yaml.Token.Lexer

/-!
# Reading YAML

A document is put together from the tokens of its text. An anchor takes as its number how many
names of anchors came before it, so that an alias means the latest anchor of its name; where a name
is used again two anchors may get one number, which then means the one that begins later.

Main result: `Yaml.parse?` reads a text that holds one document at most.
-/
namespace Flowgraph.Yaml

/-- The tokens that are left, the numbers of the anchors by name, and the nodes that have an anchor,
the one begun last first. -/
structure Progress where
  tokens : List Token
  numbers : List (String × Nat)
  anchored : List (Nat × Yaml)

abbrev Reader := StateT Progress Option

namespace Reader

/-- The next token, which is left where it is. -/
def next? : Reader (Option Token) := do pure (← get).tokens.head?

/-- Passes over the next token. -/
def advance : Reader Unit := modify fun progress =>
  { progress with tokens := progress.tokens.tail }

/-- Passes over a token if it is the next one, and says whether it was. -/
def take (token : Token) : Reader Bool := do
  if (← next?) = some token then advance *> pure true else pure false

/-- Passes over a token that has to be the next one. -/
def expect (token : Token) : Reader Unit := do if ← take token then pure () else failure

/-- What a reader gives, or a blank where one of some tokens follows. -/
def unlessNext (stops : List Token) (read : Reader Yaml) : Reader Yaml := do
  if (← next?).any (stops.contains ·) then pure blank else read

def aliased (name : String) : Reader Yaml := do
  match Entries.find? name (← get).numbers with
  | some number => pure (aliasOf number)
  | none => failure

/-- Gives the node that is read next an anchor. -/
def anchored (name : String) (read : Reader Yaml) : Reader Yaml := do
  let before ← get
  let number := before.numbers.length
  set { before with numbers := Entries.put name number before.numbers, anchored := [] }
  let node ← read
  modify fun progress =>
    { progress with anchored := progress.anchored ++ (number, node) :: before.anchored }
  pure node

/-- An anchor, if one comes next. -/
def anchor? : Reader (Option String) := do
  match ← next? with
  | some (.anchor name) => advance *> pure (some name)
  | _ => pure none

/-- What handles of tags stand for where no directive says it. -/
def usualVocabulary : List (String × Octets) :=
  [("!", .ofChars ['!']), ("!!", .ofChars "tag:yaml.org,2002:".toList)]

/-- The tag that its octets spell. -/
def tagOf (octets : Octets) : Tag :=
  match String.fromUTF8? ⟨octets.toArray⟩ with
  | some name => .named name
  | none => .unreadable

/-- A tag, if one comes next; its handle has to have a meaning. -/
def tag? (vocabulary : List (String × Octets)) : Reader (Option Tag) := do
  match ← next? with
  | some (.tag handle suffix) =>
    if handle = "" then advance *> pure (some (tagOf suffix))
    else
      match (vocabulary ++ usualVocabulary).lookup handle with
      | some expansion => advance *> pure (some (tagOf (expansion ++ suffix)))
      | none => failure
  | _ => pure none

mutual

/-- A node; a block collection only where that is allowed, and its items in the column of the
mapping around it only where that is. -/
def node (vocabulary : List (String × Octets)) : Nat → Bool → Bool → Reader Yaml
  | 0, _, _ => failure
  | fuel + 1, block, sameColumn => do
    match ← next? with
    | some (.aliasOf name) => advance *> aliased name
    | _ =>
      let first ← anchor?
      let tag ← tag? vocabulary
      let anchor := first.or (← if first.isNone then anchor? else pure none)
      let read := content vocabulary fuel tag (tag.isSome || anchor.isSome) block sameColumn
      match anchor with
      | some name => anchored name read
      | none => read

/-- A node behind its properties; if there are some, nothing else need be written. The tag of a
single mark is none for a scalar that is written. -/
def content (vocabulary : List (String × Octets)) :
    Nat → Option Tag → Bool → Bool → Bool → Reader Yaml
  | 0, _, _, _, _ => failure
  | fuel + 1, tag, proper, block, sameColumn => do
    match ← next? with
    | some (.scalar plain text) =>
      advance *> pure (scalar (if tag = some (.named "!") then none else tag) plain text)
    | some .flowSequence => advance *> flowItems vocabulary fuel []
    | some .flowMapping => advance *> flowEntries vocabulary fuel []
    | other =>
      if sameColumn && other = some .item then blockItems vocabulary fuel true []
      else if block && other = some .blockSequence then
        advance *> blockItems vocabulary fuel false []
      else if block && other = some .blockMapping then advance *> blockEntries vocabulary fuel []
      else if proper then pure (scalar tag true "")
      else failure

/-- The items of a sequence behind dashes, up to its end, or up to the first token that is no dash
where they stand in the column of the mapping around them. -/
def blockItems (vocabulary : List (String × Octets)) : Nat → Bool → List Yaml → Reader Yaml
  | 0, _, _ => failure
  | fuel + 1, sameColumn, done => do
    if ← take .item then
      let stops := if sameColumn then [.item, .key, .value, .blockEnd] else [.item, .blockEnd]
      let item ← unlessNext stops (node vocabulary fuel true false)
      blockItems vocabulary fuel sameColumn (item :: done)
    else
      if !sameColumn then expect .blockEnd
      pure (sequence done.reverse)

/-- The entries of a mapping in block layout. -/
def blockEntries (vocabulary : List (String × Octets)) :
    Nat → List (Yaml × Yaml) → Reader Yaml
  | 0, _ => failure
  | fuel + 1, done => do
    if ← take .key then
      let part := unlessNext [.key, .value, .blockEnd] (node vocabulary fuel true true)
      let key ← part
      let value ← if ← take .value then part else pure blank
      blockEntries vocabulary fuel ((key, value) :: done)
    else
      expect .blockEnd
      pure (mapping done.reverse)

/-- The items of a sequence between brackets; a key makes an item a mapping of one entry, and one
that is not written takes the token in its place. -/
def flowItems (vocabulary : List (String × Octets)) : Nat → List Yaml → Reader Yaml
  | 0, _ => failure
  | fuel + 1, done => do
    if ← take .flowSequenceEnd then pure (sequence done.reverse)
    else
      if !done.isEmpty then expect .comma
      if ← take .flowSequenceEnd then pure (sequence done.reverse)
      else if ← take .key then
        let stops := [.value, .comma, .flowSequenceEnd]
        let key ← if (← next?).any (stops.contains ·) then advance *> pure blank
          else node vocabulary fuel false false
        let value ← if ← take .value then
            unlessNext [.comma, .flowSequenceEnd] (node vocabulary fuel false false)
          else pure blank
        flowItems vocabulary fuel (mapping [(key, value)] :: done)
      else
        let item ← node vocabulary fuel false false
        flowItems vocabulary fuel (item :: done)

/-- The entries of a mapping between braces; what has no key token has no value. -/
def flowEntries (vocabulary : List (String × Octets)) :
    Nat → List (Yaml × Yaml) → Reader Yaml
  | 0, _ => failure
  | fuel + 1, done => do
    if ← take .flowMappingEnd then pure (mapping done.reverse)
    else
      if !done.isEmpty then expect .comma
      if ← take .flowMappingEnd then pure (mapping done.reverse)
      else if ← take .key then
        let key ← unlessNext [.value, .comma, .flowMappingEnd] (node vocabulary fuel false false)
        let value ← if ← take .value then
            unlessNext [.comma, .flowMappingEnd] (node vocabulary fuel false false)
          else pure blank
        flowEntries vocabulary fuel ((key, value) :: done)
      else
        let key ← node vocabulary fuel false false
        flowEntries vocabulary fuel ((key, blank) :: done)

end

/-- The node of a document; one that begins with a mark need not be written. -/
def document (vocabulary : List (String × Octets)) (marked : Bool) : Reader Yaml := do
  if marked && (← next?).all Token.isOutside then pure blank
  else node vocabulary (3 * (← get).tokens.length + 3) true false

end Reader

/-- The meanings that directives give to handles of tags, and the tokens behind the directives;
there is one version at most, and a handle has one meaning. -/
def directives? (versioned : Bool) (vocabulary : List (String × Octets)) :
    List Token → Option (List (String × Octets) × List Token)
  | .version major minor :: rest =>
    if versioned || major ≠ 1 || (minor ≠ 1 && minor ≠ 2) then none
    else directives? true vocabulary rest
  | .vocabulary handle expansion :: rest =>
    if (vocabulary.lookup handle).isSome then none
    else directives? versioned (vocabulary ++ [(handle, expansion)]) rest
  | rest => some (vocabulary, rest)

/-- The document that tokens make up; no tokens make up a blank. -/
def Document.ofTokens? (tokens : List Token) : Option Document := do
  if tokens.isEmpty then pure ⟨blank, []⟩
  else
    let (vocabulary, behind) ← directives? false [] tokens
    let marked := behind.head? = some .documentStart
    if !marked && behind.length < tokens.length then none
    else
      let (node, progress) ← (Reader.document vocabulary marked).run
        ⟨if marked then behind.tail else behind, [], []⟩
      if progress.tokens.all (· = .documentEnd) then pure ⟨node, progress.anchored⟩ else none

/-- The document that a text holds; a text without one holds a blank. -/
def parse? (text : String) : Option Document := do
  if !text.toList.all isAllowed then none
  else Document.ofTokens? (← Token.ofText? text.toList)

end Flowgraph.Yaml
