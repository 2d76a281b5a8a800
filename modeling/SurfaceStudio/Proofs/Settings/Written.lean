import SurfaceStudio.Proofs.Ron.Fields
import SurfaceStudio.Proofs.Ron.Literals
import SurfaceStudio.Settings.Reader

/-!
# Settings in a text

A text of settings spells out some of the six fields, in some order, with blanks and comments where
it likes.  It is read as settings with these fields, and the defaults in the others.

  • `Settings.Field`, `Settings.keeping` — the fields, and the defaults with some of them replaced,
  • `Choice`, `Spelled`, `Written` — how the value of a field, and how some of the fields of
    settings are written down,
  • `Draft.part` — what has been read when these fields have been,
  • `Draft.read_part` — **reading a field adds it to the draft and nothing else**,
  • `Written.parse` — **what is written down is read**: the fields that are there, and the defaults
    for the others.
-/

namespace SurfaceStudio

open Ron Ron.Reader Ron.Grammar

namespace Settings

/-! ## §1. Fields. -/

/-- The six fields. -/
inductive Field where
  | backend
  | historyWindow
  | connectTimeout
  | requestTimeout
  | simulatedDelay
  | logTarget
deriving DecidableEq, Repr

/-- The name of a field in a text. -/
def Field.key : Field → String
  | .backend => "backend"
  | .historyWindow => "history_window"
  | .connectTimeout => "connect_timeout_ms"
  | .requestTimeout => "request_timeout_ms"
  | .simulatedDelay => "simulated_delay_ms"
  | .logTarget => "log_destination"

/-- The defaults, with these fields taken over from `c`. -/
def keeping (c : Settings) (fields : List Field) : Settings where
  backendChoice := if .backend ∈ fields then c.backendChoice else initial.backendChoice
  historyWindow := if .historyWindow ∈ fields then c.historyWindow else initial.historyWindow
  connectTimeout := if .connectTimeout ∈ fields then c.connectTimeout else initial.connectTimeout
  requestTimeout := if .requestTimeout ∈ fields then c.requestTimeout else initial.requestTimeout
  simulatedDelay := if .simulatedDelay ∈ fields then c.simulatedDelay else initial.simulatedDelay
  logTarget := if .logTarget ∈ fields then c.logTarget else initial.logTarget

theorem Field.key_word (f : Field) : isWord f.key.toList = true := by
  cases f <;> decide

/-! ## §2. How settings are written down. -/

/-- The name of a place for the log. -/
def targetName : Log.Target → String
  | .terminal => "Terminal"
  | .file => "File"
  | .both => "Both"

/-- A choice of a backend; the live one has its address in parentheses. -/
inductive Choice : List Char → BackendChoice → List Char → Prop
  | simulated {t : List Char} : Choice ("Simulated".toList ++ t) .simulated t
  | live {url : String} {s s₁ v t : List Char} (hparen : Gap s ('(' :: s₁)) (hgap : Gap s₁ v)
      (h : Listed (fun s (_ : Unit) t => Entry "base_url" (Quoted · url ·) s t) v [()] t) :
      Choice ("Live".toList ++ s) (.live url) t

/-- The value that a field has in `c`, and what is left behind it. -/
def Spelled (c : Settings) (s : List Char) (f : Field) (t : List Char) : Prop :=
  match f with
  | .backend => Choice s c.backendChoice t
  | .historyWindow => Integer s c.historyWindow.toNat t
  | .connectTimeout => Integer s c.connectTimeout.toNat t
  | .requestTimeout => Integer s c.requestTimeout.toNat t
  | .simulatedDelay => Integer s c.simulatedDelay.toNat t
  | .logTarget => s = (targetName c.logTarget).toList ++ t

/-- The name of the record, which may be left out, and its opening parenthesis. -/
inductive Opened : List Char → List Char → Prop
  | bare {t : List Char} : Opened ('(' :: t) t
  | named {s t : List Char} (h : Gap s ('(' :: t)) : Opened ("AppConfig".toList ++ s) t

/-- **These fields of `c`, in this order, written down as a record.** -/
inductive Written (c : Settings) (fields : List Field) : List Char → Prop
  | record {s s₁ s₂ s₃ s₄ : List Char} (hlead : Gap s s₁) (hopen : Opened s₁ s₂) (hgap : Gap s₂ s₃)
      (h : Listed (fun s f t => Entry f.key (Spelled c · f ·) s t) s₃ fields s₄)
      (hend : Gap s₄ []) : Written c fields s

theorem Choice.length_le {s t : List Char} {choice : BackendChoice} (h : Choice s choice t) :
    t.length ≤ s.length := by
  cases h with
  | simulated => simp only [List.length_append]; omega
  | live hparen hgap h =>
    have h₁ := hparen.length_le
    have h₂ := hgap.length_le
    have h₃ := h.count_le fun _ _ _ h => h.length_le fun _ _ => Quoted.length_le
    simp only [List.length_cons, List.length_append] at *
    omega

theorem Spelled.length_le {c : Settings} {f : Field} {s t : List Char} (h : Spelled c s f t) :
    t.length ≤ s.length := by
  cases f with
  | backend => exact Choice.length_le h
  | historyWindow | connectTimeout | requestTimeout | simulatedDelay => exact Integer.length_le h
  | logTarget =>
    obtain rfl : s = _ := h
    simp only [List.length_append]
    omega

/-! ## §3. Values. -/

theorem word_reads {s t : List Char} {w : UInt64} (h : Integer s w.toNat t) (ht : Ends t) :
    word s = .ok (w, t) := by
  rw [word, bind_of_eq (h.reads ht w.toNat_lt), UInt64.ofNat_toNat]
  rfl

theorem targetName_word (target : Log.Target) : isWord (targetName target).toList = true := by
  cases target <;> decide

theorem logTarget_reads (target : Log.Target) {t : List Char} (ht : Ends t) :
    SurfaceStudio.logTarget ((targetName target).toList ++ t) = .ok (target, t) := by
  rw [SurfaceStudio.logTarget, bind_of_eq (name_word (targetName_word target) ht),
    String.ofList_toList]
  cases target <;> rfl

/-- A value that has not been read yet is set. -/
theorem setOnce_none {α σ : Type} {key : String} {value : Reader α} {set : α → σ} {a : α}
    {s t : List Char} (h : value s = .ok (a, t)) :
    setOnce key none value set s = .ok (set a, t) :=
  map_of_eq set h

theorem baseUrl_word : isWord "base_url".toList = true := by decide

theorem liveField_reads (e : Extensions) {s t : List Char} {url : String}
    (h : Entry "base_url" (Quoted · url ·) s t) :
    field (liveField e) none s = .ok (some url, t) := by
  refine h.reads baseUrl_word fun u hu => ⟨hu.solid, ?_⟩
  rw [liveField, if_pos rfl]
  exact setOnce_none hu.reads

/-- **A choice of a backend is read.** -/
theorem Choice.reads (e : Extensions) {s t : List Char} {choice : BackendChoice}
    (h : Choice s choice t) (ht : Ends t) : SurfaceStudio.backendChoice e s = .ok (choice, t) := by
  cases h with
  | simulated =>
    rw [SurfaceStudio.backendChoice, bind_of_eq (name_word (by decide) ht)]
    rfl
  | @live url s s₁ v _ hparen hgap h =>
    have hname : name ("Live".toList ++ s) = .ok ("Live", s) := by
      rw [name_word (by decide) (hparen.ends (ends_mark (by decide) s₁)),
        String.ofList_toList]
    -- What is remembered is whether the address has been read.
    have hfields : separated ')' (field (liveField e)) none s₁ = .ok (some url, t) := by
      refine h.reads_separated (fun done => done.head?.map fun _ => url) hgap
        (fun _ _ _ h => h.front baseUrl_word)
        (fun _ _ _ h => h.length_le fun _ _ => Quoted.length_le) ?_ (by simp)
      intro done u a v h _ ha
      cases done with
      | nil => exact liveField_reads e h
      | cons b done => exact absurd List.mem_cons_self ha
    rw [SurfaceStudio.backendChoice, bind_of_eq hname, if_neg (by decide), if_pos rfl,
      bind_of_eq (hparen.skipBlanks (solid_cons rfl (by decide))), bind_of_eq (expect_cons '(' s₁),
      bind_of_eq hfields]
    rfl

theorem Choice.solid {s t : List Char} {choice : BackendChoice} (h : Choice s choice t) :
    Solid s := by
  cases h <;> exact (isWord_front (by decide) _).1

theorem Spelled.solid {c : Settings} {f : Field} {s t : List Char} (h : Spelled c s f t) :
    Solid s := by
  cases f with
  | backend => exact Choice.solid h
  | historyWindow | connectTimeout | requestTimeout | simulatedDelay => exact Integer.solid h
  | logTarget =>
    obtain rfl : s = _ := h
    exact (isWord_front (targetName_word _) t).1

/-! ## §4. Fields that have been read. -/

/-- What has been read when these fields of `c` have been. -/
def Draft.part (c : Settings) (done : List Field) : Draft where
  backendChoice := if .backend ∈ done then some c.backendChoice else none
  historyWindow := if .historyWindow ∈ done then some c.historyWindow else none
  connectTimeout := if .connectTimeout ∈ done then some c.connectTimeout else none
  requestTimeout := if .requestTimeout ∈ done then some c.requestTimeout else none
  simulatedDelay := if .simulatedDelay ∈ done then some c.simulatedDelay else none
  logTarget := if .logTarget ∈ done then some c.logTarget else none

/-- The draft with one field of `c` more. -/
def Draft.take (c : Settings) (d : Draft) : Field → Draft
  | .backend => { d with backendChoice := some c.backendChoice }
  | .historyWindow => { d with historyWindow := some c.historyWindow }
  | .connectTimeout => { d with connectTimeout := some c.connectTimeout }
  | .requestTimeout => { d with requestTimeout := some c.requestTimeout }
  | .simulatedDelay => { d with simulatedDelay := some c.simulatedDelay }
  | .logTarget => { d with logTarget := some c.logTarget }

theorem Draft.part_append (c : Settings) (done : List Field) (f : Field) :
    Draft.part c (done ++ [f]) = (Draft.part c done).take c f := by
  cases f <;> simp [Draft.part, Draft.take]

/-- What has been read, completed by the defaults. -/
theorem Draft.complete_part (c : Settings) (fields : List Field) :
    (Draft.part c fields).complete = c.keeping fields := by
  have hgetD : ∀ {α : Type} (p : Prop) [Decidable p] (a b : α),
      (if p then some a else none).getD b = if p then a else b := by
    intro α p _ a b
    split <;> rfl
  simp only [Draft.complete, Draft.part, keeping, hgetD]

/-- **Reading a field adds it to the draft and nothing else.** -/
theorem Draft.read_part (c : Settings) (e : Extensions) {done : List Field} {f : Field}
    {s t : List Char} (h : Spelled c s f t) (ht : Ends t) (hf : f ∉ done) :
    (Draft.part c done).read e f.key s = .ok (Draft.part c (done ++ [f]), t) := by
  rw [Draft.part_append]
  cases f with
  | backend =>
    show setOnce _ (Draft.part c done).backendChoice (SurfaceStudio.backendChoice e) _ _ = _
    rw [show (Draft.part c done).backendChoice = none from if_neg hf]
    exact setOnce_none (Choice.reads e h ht)
  | historyWindow =>
    show setOnce _ (Draft.part c done).historyWindow word _ _ = _
    rw [show (Draft.part c done).historyWindow = none from if_neg hf]
    exact setOnce_none (word_reads h ht)
  | connectTimeout =>
    show setOnce _ (Draft.part c done).connectTimeout word _ _ = _
    rw [show (Draft.part c done).connectTimeout = none from if_neg hf]
    exact setOnce_none (word_reads h ht)
  | requestTimeout =>
    show setOnce _ (Draft.part c done).requestTimeout word _ _ = _
    rw [show (Draft.part c done).requestTimeout = none from if_neg hf]
    exact setOnce_none (word_reads h ht)
  | simulatedDelay =>
    show setOnce _ (Draft.part c done).simulatedDelay word _ _ = _
    rw [show (Draft.part c done).simulatedDelay = none from if_neg hf]
    exact setOnce_none (word_reads h ht)
  | logTarget =>
    obtain rfl : s = _ := h
    show setOnce _ (Draft.part c done).logTarget SurfaceStudio.logTarget _ _ = _
    rw [show (Draft.part c done).logTarget = none from if_neg hf]
    exact setOnce_none (logTarget_reads c.logTarget ht)

/-! ## §5. Whole texts. -/

theorem Opened.front {s t : List Char} (h : Opened s t) : Solid s ∧ s.head? ≠ some '#' := by
  cases h with
  | bare => exact ⟨solid_cons rfl (by decide), by simp⟩
  | named h => exact ⟨(isWord_front (by decide) _).1, by simp⟩

/-- A text that does not ask for extensions has none. -/
theorem extensions_none {s t : List Char} (h : Gap s t) (ht : Solid t)
    (hhash : t.head? ≠ some '#') : extensions s = .ok (.none, t) := by
  rw [extensions, bind_of_eq (h.skipBlanks ht), bind_of_eq (rfl : rest t = .ok (t, t)),
    headingsWithin, bind_of_eq (rfl : peek? t = .ok (t.head?, t)), if_neg hhash]
  rfl

/-- The name of the record is read if it is there. -/
theorem Opened.recordName {s t : List Char} (h : Opened s t) :
    ∃ u, Settings.recordName .none s = .ok ((), u) ∧ Gap u ('(' :: t) := by
  cases h with
  | bare =>
    have hparen : ¬ ('(' :: t).head?.any Text.isNamePart = true := by
      rw [List.head?_cons, Option.any_some, not_namePart_of_not_rawNamePart
        (not_rawNamePart (.inl (by decide)))]
      exact Bool.false_ne_true
    refine ⟨'(' :: t, ?_, .none⟩
    rw [Settings.recordName, bind_of_eq (rfl : peek? ('(' :: t) = .ok (_, '(' :: t)),
      if_neg hparen]
    rfl
  | @named s _ h =>
    have hletter : ("AppConfig".toList ++ s).head?.any Text.isNamePart = true :=
      isNamePart_of_isPlain (c := 'A') rfl
    have hname : name ("AppConfig".toList ++ s) = .ok ("AppConfig", s) := by
      rw [name_word (by decide) (h.ends (ends_mark (by decide) t)),
        String.ofList_toList]
    refine ⟨s, ?_, h⟩
    rw [Settings.recordName, bind_of_eq (rfl : peek? ("AppConfig".toList ++ s) = .ok (_, _)),
      if_pos hletter, bind_of_eq hname]
    rfl

/-- **What is written down is read**: the fields that are there, and the defaults for the others. -/
theorem Written.parse {c : Settings} {fields : List Field} {text : String}
    (h : Written c fields text.toList) (hnodup : fields.Nodup) :
    Settings.parse text = .ok (c.keeping fields) := by
  cases h with
  | @record s₁ s₂ s₃ s₄ hlead hopen hgap h hend =>
    obtain ⟨hsolid, hhash⟩ := hopen.front
    have hfields : separated ')' (field fun d key => Draft.read .none d key) Draft.empty s₂
        = .ok (Draft.part c fields, s₄) := by
      refine h.reads_separated (Draft.part c) hgap
        (fun _ f _ h => h.front f.key_word)
        (fun _ _ _ h => h.length_le fun _ _ => Spelled.length_le) ?_ hnodup
      intro done u f v h hv hf
      exact h.reads f.key_word fun w hw => ⟨Spelled.solid hw, Draft.read_part c .none hw hv hf⟩
    obtain ⟨u, hname, hparen⟩ := hopen.recordName
    have hread : reader text.toList = .ok (c.keeping fields, []) := by
      rw [reader, bind_of_eq (extensions_none hlead hsolid hhash), bind_of_eq hname,
        bind_of_eq (hparen.skipBlanks (solid_cons rfl (by decide))),
        bind_of_eq (expect_cons '(' s₂), bind_of_eq hfields,
        bind_of_eq (hend.skipBlanks solid_nil), ← Draft.complete_part]
      rfl
    rw [Settings.parse, hread]
    rfl

end Settings

end SurfaceStudio
