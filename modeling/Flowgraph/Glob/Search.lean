import Flowgraph.Glob
import Flowgraph.Host

/-!
# Searching files by pattern

A search goes down from folder to folder, in each through the names in ascending order; a folder
comes before what is in it.

Main result: `Glob.search` lists the paths that fit a pattern.
-/
namespace Flowgraph.Glob

variable {m : Type → Type} [Monad m] [Host m]

/-- Whether a path leads nowhere but to the folder where paths start. -/
def isCurrent (path : String) : Bool :=
  !path.startsWith "/" && (path.splitOn "/").contains "."
    && (path.splitOn "/").all fun part => part = "." || part = ""

/-- The path of a name in a folder. -/
def join (folder name : String) : String :=
  if folder.endsWith "/" then folder ++ name else folder ++ "/" ++ name

/-- The path of a name in a folder; the folder where paths start is left out. -/
def enter (folder name : String) : String := if isCurrent folder then name else join folder name

/-- How many folders lie in each other at most. -/
def depthLimit : Nat := 2048

/-- Everything in a folder and below that is given by `own`, which is told path and name. -/
def below (own : String → String → m (List String)) : Nat → String → m (List String)
  | 0, _ => pure []
  | depth + 1, folder => do
    unless ← Host.isFolder folder do return []
    (← Host.names folder).flatMapM fun name => do
      let path := enter folder name
      return (← own path name) ++ (← below own depth path)

/-- The paths in a folder that fit what is asked of one name after the other. The names of a
folder for itself and for its parent folder fit only what begins with a point. -/
def searchFrom : List Component → String → m (List String)
  | [], path => pure [path]
  | .exactly name :: more, folder => do
    let path := enter folder name
    let found ← if name = "." || name = ".." then Host.isFolder folder else Host.isThere path
    if found then searchFrom more path else pure []
  | .like tokens :: more, folder => do
    unless ← Host.isFolder folder do return []
    let component := Component.like tokens
    let special := if component.asksForPoint then ["..", "."].filter component.fits else []
    let names := (← Host.names folder).filter component.fits
    (special.map (join folder) ++ names.map (enter folder)).flatMapM fun path =>
      searchFrom more path
  | [.folders], folder =>
    below (fun path _ => do return if ← Host.isFolder path then [path] else []) depthLimit folder
  | .folders :: .folders :: more, folder => searchFrom (.folders :: more) folder
  | .folders :: .exactly wanted :: more, folder =>
    below (fun path name =>
      if name = wanted then searchFrom more path else pure []) depthLimit folder
  | .folders :: .like tokens :: more, folder =>
    below (fun path name =>
      if (Component.like tokens).fits name then searchFrom more path else pure []) depthLimit folder

/-- The paths that fit a pattern. -/
def search (pattern : Pattern) : m (List String) := do
  let paths ← searchFrom pattern.components (if pattern.fromRoot then "/" else ".")
  if pattern.foldersOnly then paths.filterM Host.isFolder else pure paths

end Flowgraph.Glob
