import SurfaceStudio.Proofs.Settings.Written

/-!
# Settings printed as a text

Any of the fields of any settings can be written down, in any order: here is one text that does.
It has each field behind its name, a comma and a space between fields, numbers in base ten, and
escapes in an address only for quotes and backslashes.

  • `Settings.printed` — the text,
  • `Digits.toDigits` — the digits of a number have it as their value,
  • `Body.escaped` — an escaped text stands for the text,
  • `Settings.written_printed` — **the text has the fields that it is to have**.
-/

namespace SurfaceStudio

open Ron Ron.Grammar

/-! ## §1. Numbers and strings. -/

namespace Ron.Grammar

/-- The digits of a number in base ten have it as their value. -/
theorem Digits.toDigits (n : Nat) : Digits 10 (Nat.toDigits 10 n) n := by
  have hdigit : ∀ d < 10, digitValue? (Nat.digitChar d) = some d := by decide
  induction n using Nat.strongRecOn with
  | ind n ih =>
    rcases Nat.lt_or_ge n 10 with hn | hn
    · rw [Nat.toDigits_of_lt_base hn]
      exact .one (hdigit n hn) hn
    · rw [Nat.toDigits_of_base_le (by decide) hn]
      have hlast : n % 10 < 10 := Nat.mod_lt n (by decide)
      have h := (ih (n / 10) (Nat.div_lt_self (by omega) (by decide))).more (hdigit _ hlast) hlast
      rwa [Nat.div_add_mod'] at h

theorem Integer.toDigits (n : Nat) (t : List Char) : Integer (Nat.toDigits 10 n ++ t) n t :=
  .spelled (.inl rfl) .decimal (Digits.toDigits n) (.inl rfl)

/-- A character between quotes. -/
def escapedChar (c : Char) : List Char := if c = '"' ∨ c = '\\' then ['\\', c] else [c]

/-- An escaped text stands for the text. -/
theorem Body.escaped (cs t : List Char) : Body (cs.flatMap escapedChar ++ '"' :: t) cs t := by
  induction cs with
  | nil => exact .close
  | cons c cs ih =>
    rw [List.flatMap_cons, List.append_assoc]
    rcases Decidable.em (c = '"' ∨ c = '\\') with h | h
    · rw [escapedChar, if_pos h]
      refine .escape (.short ?_) ih
      obtain rfl | rfl := h <;> decide
    · rw [escapedChar, if_neg h]
      exact .plain (fun hc => h (.inl hc)) (fun hc => h (.inr hc)) ih

end Ron.Grammar

namespace Settings

/-! ## §2. Fields. -/

/-- A text between quotes. -/
def quotedChars (text : String) : List Char := '"' :: (text.toList.flatMap escapedChar ++ ['"'])

/-- A value behind the name of its field. -/
def entryChars (key : String) (value : List Char) : List Char := key.toList ++ ':' :: ' ' :: value

/-- The live backend, with its address in parentheses. -/
def liveChars (url : String) : List Char :=
  "Live".toList ++ '(' :: (entryChars "base_url" (quotedChars url) ++ [')'])

/-- A choice of a backend. -/
def choiceChars : BackendChoice → List Char
  | .simulated => "Simulated".toList
  | .live url => liveChars url

/-- The value of a field. -/
def valueChars (c : Settings) : Field → List Char
  | .backend => choiceChars c.backendChoice
  | .historyWindow => Nat.toDigits 10 c.historyWindow.toNat
  | .connectTimeout => Nat.toDigits 10 c.connectTimeout.toNat
  | .requestTimeout => Nat.toDigits 10 c.requestTimeout.toNat
  | .simulatedDelay => Nat.toDigits 10 c.simulatedDelay.toNat
  | .logTarget => (targetName c.logTarget).toList

/-- Fields with commas between them. -/
def fieldChars (c : Settings) : List Field → List Char
  | [] => []
  | [f] => entryChars f.key (valueChars c f)
  | f :: g :: fs => entryChars f.key (valueChars c f) ++ ',' :: ' ' :: fieldChars c (g :: fs)

/-- **Some of the fields of settings as a text.** -/
def printed (c : Settings) (fields : List Field) : String :=
  String.ofList ('(' :: (fieldChars c fields ++ [')']))

theorem gap_space (t : List Char) : Gap (' ' :: t) t := .blank rfl .none

theorem quoted_quotedChars (text : String) (t : List Char) :
    Quoted (quotedChars text ++ t) text t := by
  rw [quotedChars, List.cons_append, List.append_assoc]
  exact .text (Body.escaped text.toList t)

theorem entry_entryChars {key : String} {spelled : List Char → List Char → Prop}
    {value t : List Char} (h : spelled (value ++ t) t) :
    Entry key spelled (entryChars key value ++ t) t := by
  rw [entryChars, List.append_assoc]
  exact .spelled .none (gap_space (value ++ t)) h

theorem choice_choiceChars (choice : BackendChoice) (t : List Char) :
    Choice (choiceChars choice ++ t) choice t := by
  cases choice with
  | simulated => exact .simulated
  | live url =>
    show Choice (liveChars url ++ t) (.live url) t
    rw [liveChars, List.append_assoc, List.cons_append, List.append_assoc]
    exact .live .none .none (.last (entry_entryChars (quoted_quotedChars url (')' :: t))) .none)

theorem spelled_valueChars (c : Settings) (f : Field) (t : List Char) :
    Spelled c (valueChars c f ++ t) f t := by
  cases f with
  | backend => exact choice_choiceChars c.backendChoice t
  | historyWindow | connectTimeout | requestTimeout | simulatedDelay => exact .toDigits _ t
  | logTarget => rfl

theorem listed_fieldChars (c : Settings) (fields : List Field) (t : List Char) :
    Listed (fun s f t => Entry f.key (Spelled c · f ·) s t) (fieldChars c fields ++ ')' :: t)
      fields t := by
  fun_induction fieldChars c fields with
  | case1 => exact .close
  | case2 f => exact .last (entry_entryChars (spelled_valueChars c f _)) .none
  | case3 f g fs ih =>
    rw [List.append_assoc]
    exact .comma (entry_entryChars (spelled_valueChars c f _)) .none (gap_space _) ih

/-- **The text has the fields that it is to have**, in their order. -/
theorem written_printed (c : Settings) (fields : List Field) :
    Written c fields (c.printed fields).toList := by
  rw [printed, String.toList_ofList]
  exact .record .none .bare .none (listed_fieldChars c fields []) .none

example : printed ⟨.simulated, 2, 0, 0, 0, .both⟩ [.backend, .historyWindow]
    = "(backend: Simulated, history_window: 2)" := by decide

end Settings

end SurfaceStudio
