import SurfaceStudio.Chat.Message

/-!
# The simulated agent

Stands in for the agent where there is none: it answers every query with a card that repeats it.

  • `simulatedReply` — the answer to a query.
-/

namespace SurfaceStudio

/-- A card that repeats a query. -/
def simulatedCard (query : String) : Node :=
  let text := (Node.new "Text").withProp "text" (.string ("Simulated response for: " ++ query))
    |>.withProp "variant" (.string "body")
  (Node.new "Card").withProp "title" (.string "Dynamic Response ✨") |>.withChild text

/-- **The answer to a query.** -/
def simulatedReply (query : String) : Reply where
  text := "🤖 I understand you want to: " ++ query ++ ". I've updated the canvas."
  surface := some (.new "dynamic-response" [simulatedCard query])
  source := none

end SurfaceStudio
