import Flowgraph.Host

/-!
# A host in memory

A workspace holds files and folders by their paths from the root, and keeps what is printed. A
path is followed part by part, and every part but the last must be a folder.

Main result: the instance of `Host` for programs that change a workspace.
-/
namespace Flowgraph

/-- What a workspace holds at a place. -/
inductive Workspace.Content
  | folder
  | file (bytes : ByteArray)

/-- Files and folders in memory, with what was printed. -/
structure Workspace where
  /-- The folder in which paths start that do not start at the root. -/
  current : List String
  contents : List (List String × Workspace.Content)
  overlaySetting : Option String
  overlayPath : String
  printed : String
  remarks : String

namespace Workspace

/-- What is at a place; a folder is there also if only something in it is. -/
def at? (workspace : Workspace) (place : List String) : Option Content :=
  match workspace.contents.lookup place with
  | some content => some content
  | none =>
    if place.isEmpty || workspace.contents.any fun entry => place.isPrefixOf entry.1 then
      some .folder
    else none

/-- Follows the parts of a path from a place. -/
def follow (workspace : Workspace) (place : List String) :
    List String → Except Host.Trouble (List String)
  | [] => .ok place
  | part :: path =>
    match workspace.at? place with
    | none => .error .missing
    | some (.file _) => .error .noFolder
    | some .folder =>
      let next :=
        if part = "." then place else if part = ".." then place.dropLast else place ++ [part]
      workspace.follow next path

def parts (path : String) : List String := (path.splitOn "/").filter (· ≠ "")

/-- The place where a path starts. -/
def origin (workspace : Workspace) (path : String) : List String :=
  if path.startsWith "/" then [] else workspace.current

/-- The place that a path leads to, where there need not be anything; a path that ends in a slash
leads through a folder. -/
def locate (workspace : Workspace) (path : String) : Except Host.Trouble (List String) :=
  if path = "" then .error .missing
  else
    workspace.follow (workspace.origin path)
      (parts path ++ (if path.endsWith "/" then ["."] else []))

def find (workspace : Workspace) (path : String) : Except Host.Trouble Content := do
  match workspace.at? (← workspace.locate path) with
  | some content => pure content
  | none => throw .missing

def read (workspace : Workspace) (path : String) : Except Host.Trouble String := do
  match ← workspace.find path with
  | .folder => throw .isFolder
  | .file bytes =>
    match String.fromUTF8? bytes with
    | some text => pure text
    | none => throw .noText

/-- The workspace with a content put at a place. -/
def put (workspace : Workspace) (place : List String) (content : Content) : Workspace :=
  { workspace with
    contents := (place, content) :: workspace.contents.filter fun entry => entry.1 ≠ place }

/-- The workspace with a text put into a file; the folder of the file must be there. A path that
ends in a slash is no file's, whether there is anything or not. -/
def write (workspace : Workspace) (path text : String) : Except Host.Trouble Workspace := do
  if path.endsWith "/" then
    let _ ← workspace.follow (workspace.origin path) (parts path)
    throw .isFolder
  else
    let place ← workspace.locate path
    match workspace.at? place, workspace.at? place.dropLast with
    | some .folder, _ => throw .isFolder
    | _, some .folder => pure (workspace.put place (.file text.toUTF8))
    | _, some (.file _) => throw .noFolder
    | _, none => throw .missing

def names (workspace : Workspace) (path : String) : List String :=
  match workspace.locate path with
  | .ok place => nameSet (workspace.contents.filterMap fun entry =>
    if place.isPrefixOf entry.1 then entry.1[place.length]? else none)
  | .error _ => []

/-- What kind of content is at a path. -/
def kind? (workspace : Workspace) (path : String) : Option Host.Kind :=
  match workspace.find path with
  | .ok .folder => some .folder
  | .ok (.file _) => some .file
  | .error _ => none

instance : Host (StateM Workspace) where
  kind? path := do return (← get).kind? path
  read path := do return (← get).read path
  write path text := do
    match (← get).write path text with
    | .ok workspace => set workspace; return .ok ()
    | .error trouble => return .error trouble
  names path := do return (← get).names path
  overlaySetting := do return (← get).overlaySetting
  overlayPath := do return (← get).overlayPath
  print text := modify fun workspace => { workspace with printed := workspace.printed ++ text }
  remark text := modify fun workspace => { workspace with remarks := workspace.remarks ++ text }

end Workspace

end Flowgraph
