import Flowgraph.Shape

/-!
# YAML documents

A YAML document is a tree of scalars, sequences and mappings, in which an alias may stand for a
node that has an anchor, even for one that the alias is a part of. Scalars carry no type of their
own: every scalar is a text where a text is wanted, and a plain one may stand for nothing where that
is allowed.

Main result: the instance of `Legible` for `Yaml.Document`.
-/
namespace Flowgraph

/-- What a tag says: its name, unless its octets spell no text. -/
inductive Yaml.Tag
  | named (name : String)
  | unreadable
deriving DecidableEq, Repr

/-- A node of a YAML document. -/
inductive Yaml
  /-- A scalar, with its tag and whether it stands without quotes. -/
  | scalar (tag : Option Yaml.Tag) (plain : Bool) (text : String)
  | sequence (items : List Yaml)
  | mapping (entries : List (Yaml × Yaml))
  /-- What an anchor of a number stands for. -/
  | aliasOf (number : Nat)

namespace Yaml

/-- The scalar that stands where nothing is written. -/
def blank : Yaml := scalar none true ""

instance : Inhabited Yaml := ⟨blank⟩

namespace Tag

/-- The tag that says that there is nothing. -/
def nothing : Tag := named "tag:yaml.org,2002:null"

/-- The name behind the mark of a tag that belongs to the document's own vocabulary. -/
def ownName? : Tag → Option String
  | named name =>
    match name.toList with
    | '!' :: rest => some (String.ofList rest)
    | _ => none
  | unreadable => none

end Tag

/-- Whether a plain text says that there is nothing. -/
def saysNothing (text : String) : Bool := ["~", "null", "Null", "NULL"].contains text

/-- A node, and the nodes that its aliases stand for, the one begun last first. -/
structure Document where
  node : Yaml
  anchored : List (Nat × Yaml)

namespace Document

/-- The node, or the one that it stands for. -/
def resolved (document : Document) : Yaml :=
  match document.node with
  | aliasOf number => (document.anchored.lookup number).getD blank
  | node => node

def part (document : Document) (node : Yaml) : Document := { document with node }

def text? (document : Document) : Option String :=
  match document.resolved with
  | scalar _ _ text => some text
  | _ => none

/-- Whether a node is a scalar that is not written at all. -/
def isUnwritten (document : Document) : Bool :=
  match document.resolved with
  | scalar _ plain text => plain && text = ""
  | _ => false

/-- Whether a node says that there is nothing; where it has a tag, the tag has to say so as well. -/
def isNothing (document : Document) : Bool :=
  match document.resolved with
  | scalar none plain text => plain && (text = "" || saysNothing text)
  | scalar (some tag) plain text => plain && tag = Tag.nothing && saysNothing text
  | _ => false

/-- The one of several names that a node is: the name of its tag, with nothing tagged, or else its
text. -/
def choice? (known : List String) (document : Document) : Option String :=
  match document.resolved with
  | scalar tag plain text =>
    match tag.bind Tag.ownName? with
    | some name =>
      if known.contains name && plain && (text = "" || saysNothing text) then some name else none
    | none => if known.contains text then some text else none
  | _ => none

/-- The items of a sequence; what is not written at all has none. -/
def items? (document : Document) : Option (List Document) :=
  match document.resolved with
  | sequence items => some (items.map document.part)
  | _ => if document.isUnwritten then some [] else none

/-- An entry of a mapping whose key is a text; other keys are no names. -/
def entry (document : Document) (entry : Yaml × Yaml) : Except Unit (String × Document) :=
  match (document.part entry.1).text? with
  | some name => .ok (name, document.part entry.2)
  | none => .error ()

/-- The entries of a mapping; what is not written at all has none. -/
def entries? (document : Document) : Option (List (Except Unit (String × Document))) :=
  match document.resolved with
  | mapping entries => some (entries.map document.entry)
  | _ => if document.isUnwritten then some [] else none

instance : Legible Document Unit where
  text document := document.text?.elim (.error ()) .ok
  list document := document.items?.elim (.error ()) fun items => .ok (items.map .ok)
  map document := document.entries?.elim (.error ()) .ok
  record shape document := document.entries?.elim (.error ()) fun entries =>
    .ok (shape.steps (fun _ => ()) (fun _ => .ok ()) [] entries)
  isNothing := isNothing
  choice known document := (document.choice? known).elim (.error ()) .ok

end Document

end Yaml

end Flowgraph
