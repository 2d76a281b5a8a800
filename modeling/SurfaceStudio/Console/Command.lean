import SurfaceStudio.Backend.Ops
import SurfaceStudio.Studio.Update

/-!
# Commands

A line of input is a query for the agent, unless it begins with a colon: then the word behind the
colon names a command, and what follows the word is its argument.  Blanks around the line and
around the argument do not count, blanks inside the argument do.

  • `Command.parse?` — the command of a line; a blank line has none,
  • `Command.named` — the command for a word and an argument.
-/

namespace SurfaceStudio

/-! ## §1. Types. -/

/-- Why a line with a colon is no command. -/
inductive CommandFault where
  | unknownMode (argument : String)
  | fileMissing
  | templateMissing
  | unknownCommand (word : String)
deriving DecidableEq, Repr

inductive Command where
  /-- Something happens in the studio. -/
  | event (event : Studio.Event)
  /-- Type a query into the chat input and send it. -/
  | chat (query : String)
  /-- Put the contents of a file into the editor. -/
  | load (path : String)
  | ops (request : OpsRequest)
  | listTemplates
  | showAll
  | help
  | quit
  | invalid (fault : CommandFault)

def CommandFault.message : CommandFault → String
  | .unknownMode argument => "unknown mode `" ++ argument ++ "`"
  | .fileMissing => "usage: :load <file>"
  | .templateMissing => "usage: :template <name>"
  | .unknownCommand word => "unknown command `:" ++ word ++ "` (try :help)"

namespace Command

/-- What `:help` prints. -/
def helpLines : List String := [
  "Plain text is sent to the agent as a chat query.",
  "  :mode editor|agent   switch mode",
  "  :load <file>         replace the editor text with a file's contents",
  "  :json <text>         replace the editor text inline",
  "  :template <name>     load a built-in template",
  "  :templates           list built-in templates",
  "  :next                load the next built-in template",
  "  :show                print the full current view",
  "  :health | :logs | :reset-logs   query the backend's ops endpoints",
  "  :help                this text",
  "  :quit                exit immediately"]

/-! ## §2. Commands by name. -/

/-- The command to switch to a mode. -/
def modeNamed (argument : String) : Command :=
  if argument = "editor" then .event (.switchMode .editor)
  else if argument = "agent" then .event (.switchMode .agent)
  else .invalid (.unknownMode argument)

/-- **The command for a word and an argument.**  Most commands do not look at the argument. -/
def named (word argument : String) : Command :=
  if word = "mode" then modeNamed argument
  else if word = "load" then
    if argument = "" then .invalid .fileMissing else .load argument
  else if word = "json" then .event (.edit argument)
  else if word = "template" then
    if argument = "" then .invalid .templateMissing else .event (.loadTemplate argument)
  else if word = "templates" then .listTemplates
  else if word = "next" then .event .nextTemplate
  else if word = "show" then .showAll
  else if word = "health" then .ops .health
  else if word = "logs" then .ops .logs
  else if word = "reset-logs" then .ops .resetLogs
  else if word = "help" then .help
  else if word = "quit" ∨ word = "q" then .quit
  else .invalid (.unknownCommand word)

/-! ## §3. Lines. -/

/-- The command for what follows the colon. -/
def ofDirective (directive : List Char) : Command :=
  let (word, rest) := Text.splitAtBlank directive
  named (String.ofList word) (String.ofList (Text.trimChars (rest.getD [])))

/-- **The command of a line**, if it is not blank. -/
def parse? (line : String) : Option Command :=
  match Text.trimChars line.toList with
  | [] => none
  | ':' :: directive => some (ofDirective directive)
  | query => some (.chat (String.ofList query))

end Command

end SurfaceStudio
