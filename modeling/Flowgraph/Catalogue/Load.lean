import Flowgraph.Catalogue.Core
import Flowgraph.Host
import Flowgraph.Overlay.Format

/-!
# Loading catalogues

The catalogue in use is the core catalogue with one overlay at most: the one that is asked for, else
the one that the surroundings name, else the one that the user keeps, if there is one.

Main result: `Catalogue.load`.
-/
namespace Flowgraph

variable {m : Type → Type} [Monad m] [Host m]

def Overlay.ofFile (path : String) : ExceptT Refusal m Overlay := do
  let text ← Host.text path
  MonadExcept.ofExcept ((Overlay.ofText (.ofPath path) text).mapError (Refusal.badOverlayFile path))

namespace Catalogue

/-- The path of the overlay to be used when none is asked for. -/
def overlayPath? : m (Option String) := do
  match ← Host.overlaySetting with
  | some path => if path ≠ "" then pure (some path) else kept
  | none => kept
where
  /-- The path of the overlay that the user keeps. -/
  kept : m (Option String) := do
    let path ← Host.overlayPath
    return if ← Host.isThere path then some path else none

/-- The core catalogue with the overlay that applies. -/
def load (asked : Option String) : ExceptT Refusal m Catalogue := do
  let path? ← match asked with
    | some path => pure (some path)
    | none => overlayPath?
  match path? with
  | some path => return Catalogue.core.apply (← Overlay.ofFile path)
  | none => pure Catalogue.core

end Catalogue

end Flowgraph
