import SurfaceStudio.Program.Run
import SurfaceStudio.Proofs.Settings.Printed

/-!
# Layers of settings

The settings in force are the defaults, the file over them, and the command line over both.  The
file counts as a whole or not at all, and the command line chooses the backend and nothing else.

  • `Invocation.parse_agrees` — options that are accepted do not ask for both backends,
  • `Layered` — settings with the backend that the options ask for, and all else as it was,
  • `Launched` — what the program is launched with, by what became of the file,
  • `Settings.value_load` — what is loaded, by what became of the file,
  • `Settings.layered_configuration` — **fields that are written down are loaded, whatever their
    order, the defaults stand in for the others, and the command line overrides the backend alone**.
-/

namespace SurfaceStudio

open Options (Draft)

/-! ## §1. Options that agree. -/

/-- A reading of options goes on, or ends in something else than a run. -/
def Invocation.Halts (r : Except Invocation Draft) : Prop := ∀ o, r ≠ .error (.run o)

namespace Invocation

theorem halts_ok (d : Draft) : Halts (.ok d) := nofun

theorem halts_misuse (error : UsageError) : Halts (.error (.misuse error)) := nofun

theorem halts_bind {r : Except Invocation Draft} {f : Draft → Except Invocation Draft}
    (h : Halts r) (hf : ∀ d, Halts (f d)) : Halts (r >>= f) := by
  cases r with
  | ok d => exact hf d
  | error i =>
    rintro o ⟨⟩
    exact h o rfl

theorem halts_put (d : Draft) (option : ValuedOption) (value : String) :
    Halts (d.put option value) := by
  unfold Draft.put
  split
  · exact halts_misuse _
  · split
    · exact halts_misuse _
    · exact halts_ok _

theorem halts_raise (d : Draft) (option : FlagOption) : Halts (d.raise option) := by
  cases option with
  | help | version => nofun
  | simulated | verbose =>
    unfold Draft.raise
    dsimp only
    split
    · exact halts_misuse _
    · exact halts_ok _

theorem halts_readLetters (argument : String) (letters : List Char) (d : Draft) :
    Halts (readLetters argument d letters) := by
  induction letters generalizing d with
  | nil => exact halts_ok d
  | cons c rest ih =>
    unfold readLetters
    cases letterOption? c with
    | none => exact halts_misuse _
    | some option => exact halts_bind (halts_raise d option) ih

theorem halts_readOne (d : Draft) (argument : String) : Halts (readOne d argument) := by
  unfold readOne
  split
  · split
    · split
      · exact halts_put d _ _
      · exact halts_misuse _
      · exact halts_misuse _
    · split
      · exact halts_raise d _
      · exact halts_misuse _
  · exact halts_readLetters argument _ d
  · exact halts_misuse _

theorem halts_readAll (d : Draft) (arguments : List String) : Halts (readAll d arguments) := by
  fun_induction readAll d arguments with
  | case1 d | case2 d => exact halts_ok d
  | case3 | case5 | case7 => exact halts_misuse _
  | case4 d argument rest _ _ ih => exact halts_bind (halts_readOne d argument) ih
  | case6 d argument _ option _ value others _ ih => exact halts_bind (halts_put d option value) ih

/-- **Options that are accepted do not ask for both backends.** -/
theorem parse_agrees {arguments : List String} {o : Options} (h : parse arguments = .run o) :
    ¬ (o.baseUrl.isSome ∧ o.simulated) := by
  unfold parse at h
  cases hread : readAll .empty arguments with
  | error i =>
    rw [hread] at h
    exact absurd (h ▸ hread) (halts_readAll .empty arguments o)
  | ok d =>
    rw [hread] at h
    change d.complete = .run o at h
    unfold Draft.complete at h
    split at h
    next => cases h
    next hboth =>
      injection h with h
      exact h ▸ hboth

end Invocation

namespace Settings

/-! ## §2. Layers. -/

/-- `s` is `base` with the backend that the options ask for, if they ask for one. -/
structure Layered (base : Settings) (o : Options) (s : Settings) : Prop where
  address : ∀ url, o.baseUrl = some url → s.backendChoice = .live url
  simulated : o.simulated = true → s.backendChoice = .simulated
  kept : o.baseUrl = none → o.simulated = false → s.backendChoice = base.backendChoice
  /-- The command line reaches no other setting. -/
  others : s = { base with backendChoice := s.backendChoice }

/-- What stands below the command line. -/
def beneath (loaded : Except SettingsError (Option Settings)) : Settings :=
  match loaded with
  | .ok (some settings) => settings
  | _ => initial

/-- **The settings in force are those beneath with the backend that the options ask for.** -/
theorem layered_effective (loaded : Except SettingsError (Option Settings)) {o : Options}
    (h : ¬ (o.baseUrl.isSome ∧ o.simulated)) :
    Layered (beneath loaded) o (effective loaded (Program.askedBackend o)) := by
  obtain ⟨config, baseUrl, simulated, editorFile, verbose⟩ := o
  match baseUrl, simulated, h with
  | some url, true, h => exact absurd ⟨rfl, rfl⟩ h
  | some url, false, _ => exact ⟨fun _ h => Option.some.inj h ▸ rfl, nofun, nofun, rfl⟩
  | none, true, _ => exact ⟨nofun, fun _ => rfl, nofun, rfl⟩
  | none, false, _ => exact ⟨nofun, nofun, fun _ _ => rfl, rfl⟩

/-! ## §3. Files. -/

/-- What is loaded, and what the program is launched with, by what became of the file. -/
structure Launched (o : Options) (answer : FileAnswer) (s : Settings) : Prop where
  absent : answer.text = .error .notFound →
    (load o.config answer).value = .ok none ∧ Layered initial o s
  unreadable : ∀ fault, answer.text = .error fault → fault ≠ .notFound →
    (load o.config answer).value = .error (.unreadable fault) ∧ Layered initial o s
  malformed : ∀ text fault, answer.text = .ok text → parse text = .error fault →
    (load o.config answer).value = .error (.malformed fault) ∧ Layered initial o s
  loaded : ∀ text r, answer.text = .ok text → parse text = .ok r →
    (load o.config answer).value = .ok (some r) ∧ Layered r o s

section Load

variable {path text : String} {answer : FileAnswer}

theorem value_load_absent (h : answer.text = .error .notFound) :
    (load path answer).value = .ok none := by
  unfold load
  rw [h]
  rfl

theorem value_load_unreadable {fault : FileFault} (h : answer.text = .error fault)
    (hfault : fault ≠ .notFound) : (load path answer).value = .error (.unreadable fault) := by
  unfold load
  rw [h]
  cases fault with
  | notFound => exact absurd rfl hfault
  | _ => rfl

theorem value_load_malformed {fault : Ron.Fault} (h : answer.text = .ok text)
    (hparse : parse text = .error fault) :
    (load path answer).value = .error (.malformed fault) := by
  unfold load
  simp only [h, hparse]
  rfl

theorem value_load_ok {r : Settings} (h : answer.text = .ok text) (hparse : parse text = .ok r) :
    (load path answer).value = .ok (some r) := by
  unfold load
  simp only [h, hparse]
  rfl

end Load

/-- **The file counts as a whole or not at all.** -/
theorem launched_launch {o : Options} (h : ¬ (o.baseUrl.isSome ∧ o.simulated))
    (answer : FileAnswer) (logFault : Option FileFault) :
    Launched o answer (Program.launch o answer logFault).settings := by
  have hlayered : ∀ loaded, (load o.config answer).value = loaded →
      (load o.config answer).value = loaded
        ∧ Layered (beneath loaded) o (Program.launch o answer logFault).settings := by
    rintro loaded rfl
    exact ⟨rfl, layered_effective _ h⟩
  exact {
    absent := fun htext => hlayered (.ok none) (value_load_absent htext)
    unreadable := fun _ htext hfault => hlayered _ (value_load_unreadable htext hfault)
    malformed := fun _ fault htext hparse =>
      hlayered (.error (.malformed fault)) (value_load_malformed htext hparse)
    loaded := fun _ _ htext hparse => hlayered _ (value_load_ok htext hparse) }

/-! ## §4. The whole configuration. -/

theorem text_bytesOf (text : String) : FileAnswer.text (.ok (Json.bytesOf text)) = .ok text := by
  rw [FileAnswer.text, Json.fromUTF8?_bytesOf]

/-- **Fields that are written down are loaded, whatever their order, and the defaults stand in for
the others; the command line overrides the backend alone**, over the file or, if there is none that
can be used, over the defaults. -/
theorem layered_configuration (c : Settings) {fields : List Field} (hnodup : fields.Nodup) :
    Written c fields (c.printed fields).toList
      ∧ (∀ text path, Written c fields text.toList →
          (load path (.ok (Json.bytesOf text))).value = .ok (some (c.keeping fields)))
      ∧ ∀ arguments o, Invocation.parse arguments = .run o → ∀ answer logFault,
          Launched o answer (Program.launch o answer logFault).settings := by
  refine ⟨written_printed c fields, fun text path h => ?_, fun arguments o h answer logFault => ?_⟩
  · exact value_load_ok (text_bytesOf text) (h.parse hnodup)
  · exact launched_launch (Invocation.parse_agrees h) answer logFault

theorem layered_configuration_simulated :
    [Field.historyWindow, .backend].Nodup
      ∧ (load "surface_app.ron" (.ok (Json.bytesOf
          (printed ⟨.live "http://agent:9000", 2, 250, 60000, 0, .both⟩
            [.historyWindow, .backend])))).value
        = .ok (some ⟨.live "http://agent:9000", 2, 5000, 30000, 1000, .file⟩)
      ∧ Invocation.parse ["--simulated"] = .run ⟨"surface_app.ron", none, true, none, false⟩
      ∧ (Program.launch ⟨"surface_app.ron", none, true, none, false⟩ (.error .notFound)
          none).settings = { initial with backendChoice := .simulated } := by
  have hnodup : [Field.historyWindow, .backend].Nodup := by decide
  have hparse : Invocation.parse ["--simulated"]
      = .run ⟨"surface_app.ron", none, true, none, false⟩ := by decide
  obtain ⟨hprinted, hload, hlaunch⟩ :=
    layered_configuration ⟨.live "http://agent:9000", 2, 250, 60000, 0, .both⟩ hnodup
  obtain ⟨-, h⟩ := (hlaunch _ _ hparse (.error .notFound) none).absent rfl
  refine ⟨hnodup, hload _ "surface_app.ron" hprinted, hparse, ?_⟩
  rw [h.others, h.simulated rfl]

end Settings

end SurfaceStudio
