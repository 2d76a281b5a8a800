/-!
# Texts in parts

  • `Text.splitAt` — the parts of a text between separators.
-/

namespace SurfaceStudio.Text

/-- The parts of a text between separators; there is one more than there are separators. -/
def splitAt (separator : Char) : List Char → List (List Char)
  | [] => [[]]
  | c :: rest =>
    if c = separator then [] :: splitAt separator rest
    else match splitAt separator rest with
      | part :: parts => (c :: part) :: parts
      | [] => [[c]]

end SurfaceStudio.Text
