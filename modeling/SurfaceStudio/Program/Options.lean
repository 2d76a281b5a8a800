import SurfaceStudio.Settings.Load

/-!
# The command line

The program takes options only.  Three of them need a value, either behind an equals sign or as the
next argument; each may be given once.  Asking for help or for the version ends the reading at once,
so that only faults before it count.

  • `Options` — what the options say,
  • `Invocation.parse` — what the arguments ask for,
  • `UsageError` — why they ask for nothing.
-/

namespace SurfaceStudio

/-! ## §1. Types. -/

structure Options where
  /-- The file of settings. -/
  config : String
  baseUrl : Option String
  simulated : Bool
  /-- The file with the first text for the editor. -/
  editorFile : Option String
  verbose : Bool
deriving DecidableEq, Repr

/-- The options that need a value. -/
inductive ValuedOption where
  | config
  | baseUrl
  | editorFile
deriving DecidableEq, Repr

/-- The options that need none. -/
inductive FlagOption where
  | simulated
  | verbose
  | help
  | version
deriving DecidableEq, Repr

def ValuedOption.name : ValuedOption → String
  | .config => "--config"
  | .baseUrl => "--base-url"
  | .editorFile => "--editor-file"

def FlagOption.name : FlagOption → String
  | .simulated => "--simulated"
  | .verbose => "--verbose"
  | .help => "--help"
  | .version => "--version"

inductive UsageError where
  | unexpected (argument : String)
  | repeated (name : String)
  | valueMissing (name : String)
  | valueUnexpected (name value : String)
  | conflict (one other : String)
deriving DecidableEq, Repr

def UsageError.message : UsageError → String
  | .unexpected argument => "error: unexpected argument '" ++ argument ++ "' found"
  | .repeated name => "error: the argument '" ++ name ++ "' cannot be used multiple times"
  | .valueMissing name => "error: a value is required for '" ++ name ++ "' but none was supplied"
  | .valueUnexpected name value => "error: unexpected value '" ++ value ++ "' for '" ++ name
      ++ "' found; no more were expected"
  | .conflict one other => "error: the argument '" ++ one ++ "' cannot be used with '" ++ other
      ++ "'"

/-- What the arguments ask for. -/
inductive Invocation where
  | run (options : Options)
  | help
  | version
  | misuse (error : UsageError)
deriving DecidableEq, Repr

/-! ## §2. Options read so far. -/

structure Options.Draft where
  config : Option String
  baseUrl : Option String
  editorFile : Option String
  simulated : Bool
  verbose : Bool

namespace Options.Draft

/-- No option has been read. -/
def empty : Draft := ⟨none, none, none, false, false⟩

/-- The value of an option, if it has been read. -/
def value? (d : Draft) : ValuedOption → Option String
  | .config => d.config
  | .baseUrl => d.baseUrl
  | .editorFile => d.editorFile

/-- Notes the value of an option. -/
def setValue (d : Draft) (option : ValuedOption) (value : String) : Draft :=
  match option with
  | .config => { d with config := some value }
  | .baseUrl => { d with baseUrl := some value }
  | .editorFile => { d with editorFile := some value }

/-- The options whose value names a file, and so may not be empty. -/
def namesFile : ValuedOption → Bool
  | .config | .editorFile => true
  | .baseUrl => false

/-- Reads the value of an option. -/
def put (d : Draft) (option : ValuedOption) (value : String) : Except Invocation Draft :=
  if (d.value? option).isSome then .error (.misuse (.repeated option.name))
  else if namesFile option ∧ value = "" then .error (.misuse (.valueMissing option.name))
  else .ok (d.setValue option value)

/-- Reads an option that needs no value. -/
def raise (d : Draft) : FlagOption → Except Invocation Draft
  | .help => .error .help
  | .version => .error .version
  | .simulated =>
    if d.simulated then .error (.misuse (.repeated FlagOption.simulated.name))
    else .ok { d with simulated := true }
  | .verbose =>
    if d.verbose then .error (.misuse (.repeated FlagOption.verbose.name))
    else .ok { d with verbose := true }

/-- The options, when all arguments have been read. -/
def complete (d : Draft) : Invocation :=
  if d.baseUrl.isSome ∧ d.simulated then
    .misuse (.conflict ValuedOption.baseUrl.name FlagOption.simulated.name)
  else
    .run ⟨d.config.getD Settings.defaultPath, d.baseUrl, d.simulated, d.editorFile, d.verbose⟩

end Options.Draft

/-! ## §3. Arguments. -/

namespace Invocation

open Options (Draft)

/-- The option of a long name that needs a value. -/
def valuedOption? (name : String) : Option ValuedOption :=
  [ValuedOption.config, .baseUrl, .editorFile].find? fun o => o.name == name

/-- The option of a long name that needs none. -/
def flagOption? (name : String) : Option FlagOption :=
  [FlagOption.simulated, .verbose, .help, .version].find? fun o => o.name == name

/-- The option of a letter. -/
def letterOption? : Char → Option FlagOption
  | 'v' => some .verbose
  | 'h' => some .help
  | 'V' => some .version
  | _ => none

/-- Letters behind one hyphen are options of their own. -/
def readLetters (argument : String) : Draft → List Char → Except Invocation Draft
  | d, [] => .ok d
  | d, c :: rest => do
    match letterOption? c with
    | none => throw (.misuse (.unexpected argument))
    | some option => readLetters argument (← d.raise option) rest

/-- The name of a long option, and the value behind its equals sign. -/
def splitValue (argument : List Char) : String × Option String :=
  let name := argument.takeWhile (· != '=')
  match argument.drop name.length with
  | [] => (String.ofList name, none)
  | _ :: value => (String.ofList name, some (String.ofList value))

/-- An argument that can be a value: a hyphen at its front makes it an option, unless it stands
alone. -/
def isValue (argument : String) : Bool := argument == "-" || argument.toList.head? != some '-'

/-- Reads an argument that is complete in itself. -/
def readOne (d : Draft) (argument : String) : Except Invocation Draft :=
  match argument.toList with
  | '-' :: '-' :: _ =>
    match splitValue argument.toList with
    | (name, some value) =>
      match valuedOption? name, flagOption? name with
      | some option, _ => d.put option value
      | none, some option => .error (.misuse (.valueUnexpected option.name value))
      | none, none => .error (.misuse (.unexpected argument))
    | (name, none) =>
      match flagOption? name with
      | some option => d.raise option
      | none => .error (.misuse (.unexpected argument))
  | '-' :: c :: letters => readLetters argument d (c :: letters)
  | _ => .error (.misuse (.unexpected argument))

/-- Reads arguments.  Behind two hyphens nothing may follow. -/
def readAll : Draft → List String → Except Invocation Draft
  | d, [] => .ok d
  | d, argument :: rest =>
    if argument = "--" then
      match rest with
      | [] => .ok d
      | extra :: _ => .error (.misuse (.unexpected extra))
    else match valuedOption? argument with
      | none => do readAll (← readOne d argument) rest
      | some option =>
        match rest with
        | [] => .error (.misuse (.valueMissing option.name))
        | value :: others =>
          if isValue value then do readAll (← d.put option value) others
          else .error (.misuse (.valueMissing option.name))

/-- **What the arguments ask for.** -/
def parse (arguments : List String) : Invocation :=
  match readAll .empty arguments with
  | .ok draft => draft.complete
  | .error invocation => invocation

end Invocation

/-! ## §4. Help. -/

/-- What is printed when help is asked for. -/
def usageLines : List String := [
  "Interactive surface playground: edit surface documents or ask an agent for them",
  "",
  "Usage: surface [OPTIONS]",
  "",
  "Options:",
  "      --config <CONFIG>            RON configuration file. A missing file means defaults "
    ++ "[default: surface_app.ron]",
  "      --base-url <BASE_URL>        Use the live agent backend at this base URL",
  "      --simulated                  Answer queries with the built-in simulated agent",
  "      --editor-file <EDITOR_FILE>  Initial editor document",
  "  -v, --verbose                    Log at debug level",
  "  -h, --help                       Print help",
  "  -V, --version                    Print version"]

/-- What is printed when the version is asked for. -/
def versionLine : String := "surface 0.1.0"

end SurfaceStudio
