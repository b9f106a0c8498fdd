import Flowgraph.Workflow

/-!
# What a program asks of its host

Files are read and written, folders are listed and messages are printed through the host on which
the program runs. Everything else is a function of what the host answers.

Main result: `Host.text` gives the text of a file and tells a file that is not there from one that
cannot be read.
-/
namespace Flowgraph

inductive Host.Kind
  | file
  | folder
deriving DecidableEq, Repr

/-- Why a file cannot be read or written. -/
inductive Host.Trouble
  | missing
  | isFolder
  /-- The path leads through a file. -/
  | noFolder
  /-- The bytes of the file are no text. -/
  | noText
  | other (text : String)
deriving DecidableEq, Repr

def Host.Trouble.message : Trouble → String
  | missing => "No such file or directory (os error 2)"
  | isFolder => "Is a directory (os error 21)"
  | noFolder => "Not a directory (os error 20)"
  | noText => "stream did not contain valid UTF-8"
  | other text => text

/-- A host that a program runs on. -/
class Host (m : Type → Type) where
  /-- What is at a path, if there is anything. -/
  kind? : String → m (Option Host.Kind)
  read : String → m (Except Host.Trouble String)
  /-- Puts a text into a file. -/
  write : String → String → m (Except Host.Trouble Unit)
  names : String → m (List String)
  /-- The path of an overlay that the surroundings name. -/
  overlaySetting : m (Option String)
  /-- The path at which the user keeps an overlay. -/
  overlayPath : m String
  /-- Prints a part of the result. -/
  print : String → m Unit
  /-- Prints a remark beside the result. -/
  remark : String → m Unit

instance {m : Type → Type} {ε : Type} [Monad m] [Host m] : Host (ExceptT ε m) where
  kind? path := ExceptT.lift (Host.kind? path)
  read path := ExceptT.lift (Host.read path)
  write path text := ExceptT.lift (Host.write path text)
  names path := ExceptT.lift (Host.names path)
  overlaySetting := ExceptT.lift Host.overlaySetting
  overlayPath := ExceptT.lift Host.overlayPath
  print text := ExceptT.lift (Host.print text)
  remark text := ExceptT.lift (Host.remark text)

namespace Host

variable {m : Type → Type} [Monad m] [Host m]

/-- Whether there is anything at a path. -/
def isThere (path : String) : m Bool := do
  return (← kind? path).isSome

/-- Whether there is a folder at a path. -/
def isFolder (path : String) : m Bool := do
  return (← kind? path) == some .folder

def text (path : String) : ExceptT Refusal m String := do
  unless ← isThere path do throw (.fileNotFound path)
  match ← read path with
  | .ok text => pure text
  | .error trouble => throw (.fileUnreadable path trouble.message)

end Host

variable {m : Type → Type} [Monad m] [Host m]

def Document.ofFile (path : String) : ExceptT Refusal m Json := do
  Document.ofText (← Host.text path)

def Workflow.ofFile (catalogue : Catalogue) (path : String) : ExceptT Refusal m Workflow := do
  Workflow.ofText catalogue (← Host.text path)

end Flowgraph
