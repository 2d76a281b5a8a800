import SurfaceStudio.Url.Domain.Label

/-!
# Domains

A domain is labels between dots.  Its characters are folded and composed, and its labels are then
written in ASCII.

  • `Domain.ascii?` — a domain in ASCII, unless it is none.
-/

namespace SurfaceStudio.Url.Domain

/-- Stands in no domain, not even after folding: what has a meaning of its own in a URL, and what
has no shape. -/
def isForbidden (c : Char) : Bool :=
  c.toNat ≤ 0x20 || c.toNat == 0x7f
    || ['%', '#', '/', ':', '<', '>', '?', '@', '[', '\\', ']', '^', '|'].contains c

/-- The labels of a domain, unless one of its characters is forbidden or one of its labels is
none. -/
def labels? (name : List Char) : Option (List Label) := do
  let folded := composed (← foldedText? name)
  if folded.any isForbidden then none else (Text.splitAt '.' folded).mapM Label.ofText?

/-- **A domain in ASCII**, unless it is none. -/
def ascii? (name : List Char) : Option (List Char) := do
  let labels ← labels? name
  if directionsFit (labels.map (·.text)) then some (['.'].intercalate (labels.map (·.written)))
  else none

end SurfaceStudio.Url.Domain
