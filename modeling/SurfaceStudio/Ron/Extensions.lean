import SurfaceStudio.Ron.Reader

/-!
# Extensions of the notation

A text can ask for a more liberal or a stricter notation, by name.

  • `Extensions.enable` — with one extension more.
-/

namespace SurfaceStudio.Ron

/-- The extensions that a text can ask for. -/
structure Extensions where
  /-- Values behind `Some` may go without it. -/
  implicitSome : Bool
  /-- What `Some` holds may go without its own parentheses. -/
  bareSome : Bool
  /-- Records must be named. -/
  explicitNames : Bool
deriving DecidableEq, Repr

namespace Extensions

/-- No extensions. -/
def none : Extensions := ⟨false, false, false⟩

/-- With one extension more. -/
def enable (e : Extensions) (name : String) : Reader Extensions :=
  if name = "implicit_some" then return { e with implicitSome := true }
  else if name = "explicit_struct_names" then return { e with explicitNames := true }
  else if name = "unwrap_variant_newtypes" then return { e with bareSome := true }
  else if name = "unwrap_newtypes" then return e
  else Reader.fail (.wrongName name)

end Extensions

end SurfaceStudio.Ron
