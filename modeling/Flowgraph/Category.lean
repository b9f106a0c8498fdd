/-!
# Categories of nodes

A node's category is read off the name of its class: the first category whose words occur in the
name is taken, upper and lower case being the same. The words are made of ASCII letters, so only
those are put into lower case.
-/
namespace Flowgraph

/-- What nodes of a class are for. -/
inductive Category
  | loader
  | sampler
  | encoder
  | output
  | other
deriving DecidableEq, Repr

namespace Category

def name : Category → String
  | loader => "loader"
  | sampler => "sampler"
  | encoder => "encoder"
  | output => "output"
  | other => "other"

/-- The categories in the order in which they are listed. -/
def all : List Category := [loader, sampler, encoder, output, other]

/-- Whether a text begins with another. -/
def beginsWith (text part : List Char) : Bool := part.isPrefixOf text

/-- Whether a text occurs in another. -/
def occursIn (part : List Char) : List Char → Bool
  | [] => part.isEmpty
  | c :: rest => part.isPrefixOf (c :: rest) || occursIn part rest

/-- Whether a text ends with another. -/
def endsWith (text ending : String) : Bool := ending.toList.isSuffixOf text.toList

def ofClass (classType : String) : Category :=
  let lower := classType.toList.map Char.toLower
  let hasAny (words : List String) : Bool := words.any fun word => occursIn word.toList lower
  if hasAny ["loader"] || beginsWith lower "load".toList then loader
  else if hasAny ["sampler", "sampling"] then sampler
  else if hasAny ["encode", "decode"] then encoder
  else if hasAny ["save", "preview", "output"] then output
  else other

/-- Whether a class is named like one that loads a model. -/
def looksLikeLoader (classType : String) : Bool := endsWith classType "Loader"

end Category

end Flowgraph
