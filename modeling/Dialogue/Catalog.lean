import Dialogue.Document.Import

/-!
# Catalogs

The flows on which conversations can be started, by name. A session keeps the flow with which it was
started, so a change of the catalog does not touch it.
-/

namespace Dialogue

/-- The flows that can be started, each under its name. -/
abbrev Catalog := Table Flow

/-- Puts the flow of a file into a catalog. -/
def Catalog.insertFile (c : Catalog) (id path : String) (bytes : ByteArray) :
    Except ImportError (Flow × Catalog) := do
  let document ← Document.parseFile path bytes
  let flow ← document.toFlow
  return (flow, c.insert id flow)

end Dialogue
