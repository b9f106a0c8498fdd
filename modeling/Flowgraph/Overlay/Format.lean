import Flowgraph.Json.Reading
import Flowgraph.Overlay.Aliases
import Flowgraph.Overlay.Reader
import Flowgraph.Refusal
import Flowgraph.Toml.Parser
import Flowgraph.Yaml.Parser

/-!
# The formats of overlays

An overlay is written in JSON, YAML or TOML. The ending of a file's name tells which; a file that
says nothing else is YAML.

Main result: `Overlay.ofText` reads an overlay in a format.
-/
namespace Flowgraph

/-- A format that overlays are written in. -/
inductive Overlay.Format
  | json
  | yaml
  | toml
deriving DecidableEq, Repr

namespace Overlay

namespace Format

/-- The format that goes with the ending of a file's name. -/
def ofEnding (ending : String) : Format :=
  match ending.map Char.toLower with
  | "json" => json
  | "toml" => toml
  | _ => yaml

/-- The name of a file at a path; the path of a parent folder has none. -/
def fileName? (path : String) : Option String :=
  match ((path.splitOn "/").filter fun part => part ≠ "" && part ≠ ".").getLast? with
  | some ".." => none
  | name => name

/-- What follows the last point of a file's name, unless the name begins with that point. -/
def ending? (name : String) : Option String :=
  match (name.splitOn ".").reverse with
  | ending :: front :: more => if front = "" && more.isEmpty then none else some ending
  | _ => none

/-- The format of the overlay at a path. -/
def ofPath (path : String) : Format := ofEnding (((fileName? path).bind ending?).getD "")

end Format

/-- The overlay that a text is in a format. -/
def ofText (format : Format) (text : String) : Except OverlayFault Overlay :=
  match format with
  | .json => (Json.readText read text).mapError .json
  | .yaml =>
    (((Yaml.parse? text).filter isModest).elim (.error ()) read).mapError fun _ => .yaml
  | .toml => ((Toml.parse? text).elim (.error ()) read).mapError fun _ => .toml

end Overlay

end Flowgraph
