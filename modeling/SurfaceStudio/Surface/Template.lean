import SurfaceStudio.Surface.Document
import SurfaceStudio.Text.Blank

/-!
# Built-in surfaces

The surface shown at the start, and the named surfaces that can be loaded into the editor.

  • `Surface.welcome` — the surface at the start,
  • `Template.all` — the named ones, in the order they are listed and cycled through,
  • `Template.find?` — looking one up by its name.
-/

namespace SurfaceStudio

/-! ## §1. Parts. -/

namespace Template

/-- A text in a variant. -/
def textNode (content variant : String) : Node :=
  (Node.new "Text").withProp "text" (.string content) |>.withProp "variant" (.string variant)

/-- A button that stands out. -/
def buttonNode (label : String) : Node :=
  (Node.new "Button").withProp "label" (.string label)
    |>.withProp "variant" (.string "primary")

/-- A bar in a colour; the value is a small whole number. -/
def barNode (label : String) (value : Nat) (color : String)
    (h : value < 0x100000000 := by decide) : Node :=
  (Node.new "StatBar").withProp "label" (.string label)
    |>.withProp "value" (.number (Number.ofSmallNat value h))
    |>.withProp "color" (.string color)

/-- A card with a title. -/
def cardNode (title : String) (children : List Node) : Node :=
  (Node.new "Card").withProp "title" (.string title) |>.withChildren children

/-- A picture with its description and caption. -/
def imageNode (src alt caption : String) : Node :=
  (Node.new "Image").withProp "src" (.string src) |>.withProp "alt" (.string alt)
    |>.withProp "caption" (.string caption)

/-- The lines of a list. -/
def lines (items : List String) : Json := .array (items.map .string)

end Template

open Template

/-! ## §2. The welcome surface. -/

/-- **The surface at the start.** -/
def Surface.welcome : Surface :=
  .new "welcome-surface" [
    textNode "Optimized Agent Stack" "h1",
    cardNode "System Status" [
      textNode ("Your agent is active and ready to generate interfaces. "
        ++ "This dashboard is rendered from a declarative surface document.") "body",
      buttonNode "Explore Features"],
    cardNode "Recent Activity" [textNode "No recent agent activity detected." "body"]]

/-! ## §3. The templates. -/

/-- A surface with a name. -/
structure Template where
  name : String
  surface : Surface

namespace Template

def shoppingCart : Surface :=
  .new "shopping-cart" [
    textNode "🛒 Your Shopping Cart" "h1",
    cardNode "Agent-Enhanced Checkout" [
      imageNode
        ("https://images.unsplash.com/photo-1523275335684-37898b6baf30"
          ++ "?auto=format&fit=crop&q=80&w=400")
        "Smart Watch" "✨ Premium Smart Watch - $299.00",
      (Node.new "List").withProp "title" (.string "Order Summary")
        |>.withProp "items"
          (lines ["⌚ Smart Watch: $299.00", "🚚 Shipping: $0.00", "💸 Tax: $24.50"]),
      buttonNode "Confirm Order ($323.50) 💳"]]

def weatherForecast : Surface :=
  .new "weather-forecast" [
    textNode "🌉 San Francisco Weather" "h1",
    cardNode "Weekly Outlook" [
      textNode "Currently: 62°F | Partly Cloudy ⛅" "h2",
      barNode "Humidity" 78 "#3b82f6",
      barNode "UV Index" 45 "#f59e0b",
      (Node.new "List").withProp "items"
        (lines ["Monday: ☀️ 72°F", "Tuesday: 🌤️ 68°F", "Wednesday: ☁️ 64°F",
          "Thursday: 🌧️ 58°F", "Friday: ⛅ 62°F"])]]

def serverDashboard : Surface :=
  .new "server-dashboard" [
    textNode "🖥️ Infrastructure Overview" "h1",
    cardNode "Global Traffic" [
      imageNode
        ("https://images.unsplash.com/photo-1451187580459-43490279c0fa"
          ++ "?auto=format&fit=crop&q=80&w=600")
        "World Map" "Live Global Data Mesh",
      barNode "Traffic Load" 65 "#10b981",
      barNode "Error Rate" 2 "#ef4444"]]

/-- **The named surfaces.** -/
def all : List Template := [
  ⟨"Shopping Cart", shoppingCart⟩,
  ⟨"Weather Forecast", weatherForecast⟩,
  ⟨"Server Dashboard", serverDashboard⟩]

/-- The template that comes up in a round through all of them after `turn` others. -/
def atTurn (turn : Nat) : Template :=
  all.get ⟨turn % all.length, Nat.mod_lt _ (by decide)⟩

/-- The template of a name; blanks around the name and the case of its letters do not count. -/
def find? (name : String) : Option Template :=
  all.find? fun template => Text.sameIgnoringCase template.name (Text.trim name)

end Template

end SurfaceStudio
