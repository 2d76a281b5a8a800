import SurfaceStudio.Console.Command
import SurfaceStudio.Proofs.Text.Trimming
import SurfaceStudio.Text.Parts

/-!
# Directives

A line that begins with a colon is a directive.  The help text says which words there are and what
each one is for; a line is read by its first word and the trimmed rest, and by nothing else.  Blanks
around the line and between the word and the argument do not count, and those inside the argument
are kept.

  • `Command.words` — the words of the help text, and `q`,
  • `Command.Directive` — **what the help text says a word and an argument stand for**,
  • `Command.directive_iff` — `named` does what the help text says,
  • `Command.parse?_of_trim`, `Command.parse?_append` — taking a line apart, and putting it
    together,
  • `Command.readsAs_everywhere` — **every directive is read by the grammar**.
-/

namespace SurfaceStudio.Command

/-! ## §1. The help text. -/

/-- The word of a part of a line of the help text, if it begins with a colon. -/
def wordIn? : List Char → Option String
  | ':' :: word => some (String.ofList word)
  | _ => none

/-- The words with a colon before them in the help text. -/
def helpWords : List String :=
  helpLines.flatMap fun line => (Text.splitAt ' ' line.toList).filterMap wordIn?

/-- **The words of directives**: those of the help text, and a short one for leaving. -/
def words : List String := helpWords ++ ["q"]

theorem words_eq : words = ["mode", "load", "json", "template", "templates", "next", "show",
    "health", "logs", "reset-logs", "help", "quit", "q"] := by decide +kernel

/-- **What the help text says a word and an argument stand for.** -/
inductive Directive : String → String → Command → Prop
  | editorMode : Directive "mode" "editor" (.event (.switchMode .editor))
  | agentMode : Directive "mode" "agent" (.event (.switchMode .agent))
  | unknownMode {argument : String} (h : argument ≠ "editor") (h' : argument ≠ "agent") :
    Directive "mode" argument (.invalid (.unknownMode argument))
  | load {path : String} (h : path ≠ "") : Directive "load" path (.load path)
  | loadNothing : Directive "load" "" (.invalid .fileMissing)
  | json (text : String) : Directive "json" text (.event (.edit text))
  | template {name : String} (h : name ≠ "") :
    Directive "template" name (.event (.loadTemplate name))
  | templateNothing : Directive "template" "" (.invalid .templateMissing)
  | templates (argument : String) : Directive "templates" argument .listTemplates
  | next (argument : String) : Directive "next" argument (.event .nextTemplate)
  | showAll (argument : String) : Directive "show" argument .showAll
  | health (argument : String) : Directive "health" argument (.ops .health)
  | logs (argument : String) : Directive "logs" argument (.ops .logs)
  | resetLogs (argument : String) : Directive "reset-logs" argument (.ops .resetLogs)
  | help (argument : String) : Directive "help" argument .help
  | quit (argument : String) : Directive "quit" argument .quit
  | quitShort (argument : String) : Directive "q" argument .quit
  | unknown {word : String} (h : word ∉ words) (argument : String) :
    Directive word argument (.invalid (.unknownCommand word))

theorem directive_modeNamed (argument : String) :
    Directive "mode" argument (modeNamed argument) := by
  unfold modeNamed
  refine iteInduction (motive := Directive "mode" argument) (fun h => ?_) fun h => ?_
  · rw [h]
    exact .editorMode
  refine iteInduction (motive := Directive "mode" argument) (fun h' => ?_) fun h' => ?_
  · rw [h']
    exact .agentMode
  · exact .unknownMode h h'

/-- An argument that must be given. -/
theorem directive_ite {word argument : String} {c d : Command} (hc : Directive word "" c)
    (hd : argument ≠ "" → Directive word argument d) :
    Directive word argument (if argument = "" then c else d) :=
  iteInduction (motive := Directive word argument) (fun h => h ▸ hc) hd

/-- One word after the other is compared. -/
theorem directive_ite_word {name word argument : String} {c d : Command}
    (hc : Directive name argument c) (hd : word ≠ name → Directive word argument d) :
    Directive word argument (if word = name then c else d) :=
  iteInduction (motive := Directive word argument) (fun h => h ▸ hc) hd

/-- **Every word and argument stand for the command that they name.** -/
theorem directive_named (word argument : String) :
    Directive word argument (named word argument) := by
  unfold named
  refine directive_ite_word (directive_modeNamed argument) fun hmode => ?_
  refine directive_ite_word (directive_ite .loadNothing .load) fun hload => ?_
  refine directive_ite_word (.json argument) fun hjson => ?_
  refine directive_ite_word (directive_ite .templateNothing .template) fun htemplate => ?_
  refine directive_ite_word (.templates argument) fun htemplates => ?_
  refine directive_ite_word (.next argument) fun hnext => ?_
  refine directive_ite_word (.showAll argument) fun hshow => ?_
  refine directive_ite_word (.health argument) fun hhealth => ?_
  refine directive_ite_word (.logs argument) fun hlogs => ?_
  refine directive_ite_word (.resetLogs argument) fun hreset => ?_
  refine directive_ite_word (.help argument) fun hhelp => ?_
  refine iteInduction (motive := Directive word argument) (fun h => ?_) fun h => ?_
  · obtain rfl | rfl := h
    · exact .quit argument
    · exact .quitShort argument
  · obtain ⟨hquit, hshort⟩ := not_or.1 h
    -- None of the words was the right one.
    refine .unknown ?_ argument
    rw [words_eq]
    simp only [List.mem_cons, List.not_mem_nil, or_false, not_or]
    exact ⟨hmode, hload, hjson, htemplate, htemplates, hnext, hshow, hhealth, hlogs, hreset, hhelp,
      hquit, hshort⟩

theorem named_of_not_mem_words {word : String} (h : word ∉ words) (argument : String) :
    named word argument = .invalid (.unknownCommand word) := by
  have hnamed := directive_named word argument
  rw [words_eq] at h
  generalize named word argument = c at hnamed
  cases hnamed with
  | unknown => rfl
  | _ => exact absurd (by simp) h

/-- They stand for nothing else. -/
theorem Directive.named_eq {word argument : String} {c : Command} (h : Directive word argument c) :
    named word argument = c := by
  cases h with
  | unknownMode h h' =>
    show modeNamed argument = _
    rw [modeNamed, if_neg h, if_neg h']
  | load h => exact if_neg h
  | template h => exact if_neg h
  | unknown h => exact named_of_not_mem_words h argument
  | _ => rfl

/-- **A word and an argument name what the help text says**, and nothing else. -/
theorem directive_iff {word argument : String} {c : Command} :
    Directive word argument c ↔ named word argument = c :=
  ⟨Directive.named_eq, fun h => h ▸ directive_named word argument⟩

/-- The word and the argument are not in the help text together: there is no such word, no such
mode, or the argument is missing. -/
def Misused (word argument : String) : Prop :=
  word ∉ words
    ∨ (word = "mode" ∧ argument ≠ "editor" ∧ argument ≠ "agent")
    ∨ ((word = "load" ∨ word = "template") ∧ argument = "")

/-- **A directive is invalid where it is misused**, and nowhere else. -/
theorem invalid_named_iff {word argument : String} :
    (∃ fault, named word argument = .invalid fault) ↔ Misused word argument := by
  constructor
  · rintro ⟨fault, hfault⟩
    have hnamed := directive_named word argument
    rw [hfault] at hnamed
    cases hnamed with
    | unknownMode h h' => exact .inr (.inl ⟨rfl, h, h'⟩)
    | loadNothing => exact .inr (.inr ⟨.inl rfl, rfl⟩)
    | templateNothing => exact .inr (.inr ⟨.inr rfl, rfl⟩)
    | unknown h => exact .inl h
  · rintro (h | ⟨rfl, h, h'⟩ | ⟨rfl | rfl, rfl⟩)
    · exact ⟨_, named_of_not_mem_words h argument⟩
    · exact ⟨_, (Directive.unknownMode h h').named_eq⟩
    · exact ⟨_, Directive.loadNothing.named_eq⟩
    · exact ⟨_, Directive.templateNothing.named_eq⟩

/-! ## §2. Taking a line apart. -/

/-- The longest beginning of a directive without a blank. -/
def wordOf (directive : String) : String := String.ofList (Text.firstWord directive.toList)

/-- What stands behind the word, trimmed. -/
def argumentOf (directive : String) : String :=
  Text.trim (String.ofList (Text.behindWord directive.toList))

/-- **A line is read by its word and its argument.** -/
theorem parse?_of_trimChars {line : String} {directive : List Char}
    (h : Text.trimChars line.toList = ':' :: directive) :
    parse? line = some (named (String.ofList (Text.firstWord directive))
      (String.ofList (Text.trimChars (Text.behindWord directive)))) := by
  rw [parse?, h, ← Text.trimChars_splitAtBlank]
  show some (named (String.ofList (Text.splitAtBlank directive).1) _) = _
  rw [Text.splitAtBlank_eq]

theorem parse?_of_trim {line directive : String} (h : Text.trim line = ":" ++ directive) :
    parse? line = some (named (wordOf directive) (argumentOf directive)) := by
  have htrim : Text.trimChars line.toList = ':' :: directive.toList := by
    rw [← Text.toList_trim, h, String.toList_append]
    rfl
  rw [parse?_of_trimChars htrim, wordOf, argumentOf, Text.trim, String.toList_ofList]

/-! ## §3. Putting a line together. -/

/-- **Blanks around a line do not count**, whatever stands behind the colon. -/
theorem parse?_append {before behind : String} (hbefore : Text.isBlankText before = true)
    (hbehind : Text.isBlankText behind = true) (directive : String) :
    parse? (before ++ ":" ++ directive ++ behind)
      = some (named (wordOf directive) (argumentOf directive)) := by
  have hline : (before ++ ":" ++ directive ++ behind).toList
      = before.toList ++ (':' :: directive.toList) ++ behind.toList := by
    simp [String.toList_append]
  have htrim : Text.trimChars (before ++ ":" ++ directive ++ behind).toList
      = ':' :: Text.trimEnd directive.toList := by
    rw [hline, Text.trimChars_append (Text.allBlank_iff.1 hbefore)
      (Text.allBlank_iff.1 hbehind), Text.trimChars_cons (by decide)]
  obtain ⟨hfirst, hrest⟩ := Text.firstWord_trimEnd directive.toList
  rw [parse?_of_trimChars htrim, hfirst, hrest, wordOf, argumentOf, Text.trim,
    String.toList_ofList]

theorem not_blank_of_mem_words {word : String} (h : word ∈ words) :
    ∀ c ∈ word.toList, Text.isBlank c = false := by
  have hall : words.all (fun w => w.toList.all fun c => !Text.isBlank c) = true := by
    rw [words_eq]
    rfl
  intro c hc
  have hblank := List.all_eq_true.1 (List.all_eq_true.1 hall word h) c hc
  rwa [Bool.not_eq_true'] at hblank

/-- A word, blanks, and an argument are taken apart again. -/
theorem wordOf_append {word between argument : String} (hword : word ∈ words)
    (hsome : between ≠ "") (hbetween : Text.isBlankText between = true)
    (hargument : Text.trim argument = argument) :
    wordOf (word ++ between ++ argument) = word
      ∧ argumentOf (word ++ between ++ argument) = argument := by
  have hblank := Text.allBlank_iff.1 hbetween
  have hnoWord : Text.firstWord (between ++ argument).toList = [] := by
    rw [String.toList_append]
    cases hchars : between.toList with
    | nil => exact absurd (String.toList_eq_nil_iff.1 hchars) hsome
    | cons b rest =>
      rw [hchars] at hblank
      exact List.takeWhile_cons_of_neg (by simp [hblank b List.mem_cons_self])
  obtain ⟨hfirst, hbehind⟩ := Text.firstWord_append (not_blank_of_mem_words hword) hnoWord
  have htrim : Text.trimChars (between.toList ++ argument.toList ++ [])
      = Text.trimChars argument.toList := Text.trimChars_append hblank Text.allBlank_nil
  rw [List.append_nil, ← String.toList_append] at htrim
  rw [String.append_assoc, wordOf, argumentOf, Text.trim, String.toList_ofList,
    String.toList_append, hfirst, hbehind, htrim]
  exact ⟨String.ofList_toList, hargument⟩

/-! ## §4. The grammar. -/

/-- **The line is read as a directive of this word and argument.** -/
structure ReadsAs (line word argument : String) : Prop where
  /-- The line stands for one command, and nothing but the word and the argument says for which. -/
  command : parse? line = some (named word argument)
  /-- It is what the help text says. -/
  directive : ∀ c, parse? line = some c ↔ Directive word argument c
  /-- It is invalid where the word and the argument are misused, and nowhere else. -/
  invalid : (∃ fault, parse? line = some (.invalid fault)) ↔ Misused word argument

theorem ReadsAs.of_parse? {line word argument : String}
    (h : parse? line = some (named word argument)) : ReadsAs line word argument where
  command := h
  directive := by
    intro c
    rw [h, Option.some_inj, directive_iff]
  invalid := by
    rw [h]
    simpa only [Option.some_inj] using invalid_named_iff

theorem readsAs_append {word before between argument behind : String} (hword : word ∈ words)
    (hbefore : Text.isBlankText before = true) (hsome : between ≠ "")
    (hbetween : Text.isBlankText between = true) (hbehind : Text.isBlankText behind = true)
    (hargument : Text.trim argument = argument) :
    ReadsAs (before ++ ":" ++ (word ++ between ++ argument) ++ behind) word argument := by
  have hline := parse?_append hbefore hbehind (word ++ between ++ argument)
  obtain ⟨hfirst, hrest⟩ := wordOf_append hword hsome hbetween hargument
  rw [hfirst, hrest] at hline
  exact .of_parse? hline

/-- A text that is its own trimming can be the argument of every word. -/
theorem exists_line_of_directive {word argument : String} (hword : word ∈ words)
    (hargument : Text.trim argument = argument) {c : Command} (h : Directive word argument c) :
    ∃ line, parse? line = some c := by
  have hreads : ReadsAs ("" ++ ":" ++ (word ++ " " ++ argument) ++ "") word argument :=
    readsAs_append hword rfl (by decide) rfl rfl hargument
  exact ⟨_, (hreads.directive c).2 h⟩

/-- **Every directive is read by the grammar.**  A line that begins with a colon, blanks aside, is
read by the first word behind the colon and the trimmed rest.  So every word of the help text can be
given every argument that is its own trimming, with any blanks around the line and before the
argument; and every text for the editor, every path and every name of a template can be entered. -/
theorem readsAs_everywhere :
    (∀ line directive, Text.trim line = ":" ++ directive →
        ReadsAs line (wordOf directive) (argumentOf directive))
      ∧ (∀ word ∈ words, ∀ before between argument behind, Text.isBlankText before = true →
        between ≠ "" → Text.isBlankText between = true → Text.isBlankText behind = true →
          Text.trim argument = argument →
            ReadsAs (before ++ ":" ++ (word ++ between ++ argument) ++ behind) word argument)
      ∧ ∀ argument, Text.trim argument = argument →
        (∃ line, parse? line = some (.event (.edit argument)))
          ∧ (argument ≠ "" → ∃ line, parse? line = some (.load argument))
          ∧ (argument ≠ "" → ∃ line, parse? line = some (.event (.loadTemplate argument))) := by
  have hjson : "json" ∈ words := by rw [words_eq]; decide
  have hload : "load" ∈ words := by rw [words_eq]; decide
  have htemplate : "template" ∈ words := by rw [words_eq]; decide
  refine ⟨fun line directive h => .of_parse? (parse?_of_trim h), ?_, fun argument h => ⟨?_, ?_, ?_⟩⟩
  · intro word hword before between argument behind hbefore hsome hbetween hbehind hargument
    exact readsAs_append hword hbefore hsome hbetween hbehind hargument
  · exact exists_line_of_directive hjson h (.json argument)
  · exact fun hsome => exists_line_of_directive hload h (.load hsome)
  · exact fun hsome => exists_line_of_directive htemplate h (.template hsome)

/-- A template whose name has a blank in it, and a blank where the word should be. -/
theorem readsAs_everywhere_blanks :
    ReadsAs ("\t" ++ ":" ++ ("template" ++ " \u2003" ++ "Weather Forecast") ++ " \n")
        "template" "Weather Forecast"
      ∧ ReadsAs " : load x" (wordOf " load x") (argumentOf " load x")
      ∧ Misused (wordOf " load x") (argumentOf " load x") := by
  have hname : "template" ∈ words := by rw [words_eq]; decide
  have hword : wordOf " load x" ∉ words := by rw [words_eq]; decide +kernel
  exact ⟨readsAs_everywhere.2.1 "template" hname "\t" " \u2003" "Weather Forecast" " \n"
      (by decide +kernel) (by decide) (by decide +kernel) (by decide +kernel) (by decide +kernel),
    readsAs_everywhere.1 " : load x" " load x" (by decide +kernel), .inl hword⟩

end SurfaceStudio.Command
