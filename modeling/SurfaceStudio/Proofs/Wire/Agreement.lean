import SurfaceStudio.Proofs.Json.Stages
import SurfaceStudio.Proofs.Wire.Records

/-!
# Decoding from texts and from values

A decoder reads a text in one pass, or converts a value that has been read before.  The decoders
here accept the same either way, up to one thing: in a text a field of a record may not be given
twice, while of equal keys in a value only the last is left.

  • `Decoder.Agrees` — decoding a text is reading a value and decoding that,
  • `agrees_string`, `Agrees.map`, `Agrees.list` — the basic decoders,
  • `objectMembers`, `readMembers` — the members of an object as they stand in a text,
  • `value_eq_object_iff`, `read_eq_object_iff` — an object has them collected,
  • `Record.factors_decoder` — **a record that keeps its members is decoded from them one by one**,
    where no field comes twice.
-/

namespace SurfaceStudio.Wire

open Json Json.Reader

variable {α β δ ε : Type}

/-! ## §1. Values by their first byte. -/

/-- The value that begins with the byte `b`. -/
def valueAt (budget : Nat) (b : UInt8) : Reader Json :=
  if b = '['.toUInt8 then
    openBracket budget fun budget => do return .array (← arrayRest (value budget))
  else if b = '\x7b'.toUInt8 then
    openBracket budget fun budget => do return .object (collect (← entriesRest (value budget)))
  else scalar b

theorem value_eq_withToken (budget : Nat) : value budget = withToken (valueAt budget) := by
  cases budget with
  | zero =>
    refine bind_congr fun b? => ?_
    cases b? <;> rfl
  | succ budget =>
    refine bind_congr fun b? => ?_
    cases b? with
    | none => rfl
    | some b =>
      unfold valueAt openBracket
      dsimp only
      rw [objectRest_genericMember, bind_assoc]
      rfl

/-- The byte that a value of the kind of `v` begins with, where there is only one. -/
def Opens (b : UInt8) : Json → Prop
  | .string _ => b = '"'.toUInt8
  | .array _ => b = '['.toUInt8
  | .object _ => b = '\x7b'.toUInt8
  | _ => True

theorem yields_scalar_opens (b : UInt8) : Yields (scalar b) (Opens b) := by
  unfold scalar
  repeat' split
  any_goals refine Yields.bind_any fun _ => Yields.bind_any fun _ => Yields.pure (P := Opens b) ?_
  -- Among the scalars only strings have a first byte of their own.
  any_goals trivial
  · exact Yields.bind_any fun _ => Yields.pure trivial
  · exact Yields.failAhead _

theorem yields_valueAt_opens (budget : Nat) (b : UInt8) :
    Yields (valueAt budget b) (Opens b) := by
  unfold valueAt
  split
  next hb => exact yields_openBracket fun _ _ => Yields.bind_any fun _ => Yields.pure hb
  next =>
    split
    next hb => exact yields_openBracket fun _ _ => Yields.bind_any fun _ => Yields.pure hb
    next => exact yields_scalar_opens b

theorem factors_withToken {reading : UInt8 → Reader α} {reading' : UInt8 → Reader β}
    {f : α → Except ε β} (h : ∀ b, Factors (reading b) f (reading' b)) :
    Factors (withToken reading) f (withToken reading') := by
  refine Factors.bind_same fun b? => ?_
  cases b? with
  | none => exact .of_rejects (Yields.failAhead _) (Yields.failAhead _)
  | some b => exact h b

theorem factors_openBracket {budget : Nat} {inside : Nat → Reader α} {inside' : Nat → Reader β}
    {f : α → Except ε β} (h : ∀ b, Factors (inside b) f (inside' b)) :
    Factors (openBracket budget inside) f (openBracket budget inside') := by
  cases budget with
  | zero => exact .of_rejects (Yields.failAhead _) (Yields.failAhead _)
  | succ b => exact Factors.bind_same fun _ => h b

/-! ## §2. Decoders. -/

/-- **Decoding a text is reading a value and decoding that.** -/
def Decoder.Agrees (d : Decoder α) : Prop :=
  ∀ budget, Factors (value budget) d.fromValue (d.fromText budget)

/-- A value of another kind is rejected where it begins, and as a value. -/
theorem factors_wrongKind {budget : Nat} {b : UInt8} {f : Json → Except ε α} (expected : String)
    (h : ∀ v, Opens b v → Rejects f v) :
    Factors (valueAt budget b) f (wrongKind expected b) := by
  refine .of_rejects ?_ (yields_wrongKind expected b)
  intro c v c' hv
  exact h v (yields_valueAt_opens budget b hv)

theorem agrees_json : Decoder.json.Agrees := fun budget => Factors.refl (value budget)

theorem Decoder.Agrees.map {d : Decoder α} (h : d.Agrees) (f : α → β) : (d.map f).Agrees :=
  fun budget => (h budget).map f

theorem agrees_string : Decoder.string.Agrees := by
  intro budget
  rw [value_eq_withToken]
  refine factors_withToken fun b => ?_
  split
  next hb =>
    -- The rest of the string is read in the same way, and the value wraps it up.
    subst hb
    have hrest : Factors stringRest (fun text => Decoder.string.fromValue (.string text))
        stringRest := Factors.refl stringRest
    exact Factors.bind_same fun _ => hrest.of_return
  next hb =>
    refine factors_wrongKind _ fun v hv text htext => ?_
    cases v with
    | string _ => exact hb hv
    | _ => cases htext

theorem Decoder.Agrees.list {d : Decoder α} (h : d.Agrees) : (Decoder.list d).Agrees := by
  intro budget
  rw [value_eq_withToken]
  refine factors_withToken fun b => ?_
  split
  next hb =>
    rw [valueAt, if_pos hb]
    exact factors_openBracket fun budget => Factors.of_return (h budget).arrayRest
  next hb =>
    refine factors_wrongKind _ fun v hv as has => ?_
    cases v with
    | array _ => exact hb hv
    | _ => cases has

/-! ## §3. The members of an object. -/

/-- The members of the object that begins with the byte `b`, as they stand. -/
def membersAt (budget : Nat) (b : UInt8) : Reader Members :=
  if b = '\x7b'.toUInt8 then openBracket budget fun budget => entriesRest (value budget)
  else failAhead .valueExpected

/-- **The members of an object as they stand in a text**, repeated keys included. -/
def objectMembers (budget : Nat) : Reader Members := withToken (membersAt budget)

/-- **The members of the object that a whole text stands for**, as they stand in it. -/
def readMembers (text : String) : Except Fault Members :=
  readWith (objectMembers bracketBudget) (bytesOf text)

theorem valueAt_eq_object_iff {budget : Nat} {b : UInt8} {c c' : Cursor} {members : Members} :
    valueAt budget b c = .ok (.object members, c')
      ↔ ∃ ms, membersAt budget b c = .ok (ms, c') ∧ collect ms = members := by
  by_cases hb : b = '\x7b'.toUInt8
  · subst hb
    cases budget with
    | zero =>
      constructor
      · intro h
        cases h
      · rintro ⟨ms, h, -⟩
        cases h
    | succ budget =>
      -- Behind the brace both read the same members.
      show (do return Json.object (collect (← entriesRest (value budget)))) c.step = _
        ↔ ∃ ms, entriesRest (value budget) c.step = _ ∧ _
      rw [return_eq_ok_iff]
      simp only [Json.object.injEq]
  · constructor
    · intro h
      exact absurd (yields_valueAt_opens budget b h) hb
    · rintro ⟨ms, h, -⟩
      rw [membersAt, if_neg hb] at h
      cases h

/-- **An object has the members as they stand, collected.** -/
theorem value_eq_object_iff {budget : Nat} {c c' : Cursor} {members : Members} :
    value budget c = .ok (.object members, c')
      ↔ ∃ ms, objectMembers budget c = .ok (ms, c') ∧ collect ms = members := by
  rw [value_eq_withToken]
  unfold objectMembers withToken
  constructor
  · intro h
    obtain ⟨b?, c₁, hb, h⟩ := bind_eq_ok_iff.1 h
    cases b? with
    | none => cases h
    | some b =>
      obtain ⟨ms, hms, hcollect⟩ := valueAt_eq_object_iff.1 h
      exact ⟨ms, bind_eq_ok_iff.2 ⟨some b, c₁, hb, hms⟩, hcollect⟩
  · rintro ⟨ms, h, hcollect⟩
    obtain ⟨b?, c₁, hb, h⟩ := bind_eq_ok_iff.1 h
    cases b? with
    | none => cases h
    | some b =>
      exact bind_eq_ok_iff.2 ⟨some b, c₁, hb, valueAt_eq_object_iff.2 ⟨ms, h, hcollect⟩⟩

/-- The same of whole texts. -/
theorem read_eq_object_iff {text : String} {members : Members} :
    Json.read text = .ok (.object members)
      ↔ ∃ ms, readMembers text = .ok ms ∧ collect ms = members := by
  unfold Json.read readMembers
  simp only [readWith_eq_ok_iff, value_eq_object_iff]
  constructor
  · rintro ⟨c, c', ⟨ms, hms, hcollect⟩, hend⟩
    exact ⟨ms, ⟨c, c', hms, hend⟩, hcollect⟩
  · rintro ⟨ms, ⟨c, c', hms, hend⟩, hcollect⟩
    exact ⟨c, c', ⟨ms, hms, hcollect⟩, hend⟩

/-! ## §4. Records. -/

namespace Record

variable {r : Record δ α}

/-- The field of the key has been read into the draft. -/
def hasRead (r : Record δ α) (draft : δ) (key : String) : Bool :=
  (r.field? key).any fun f => f.isRead draft

/-- Reads a member into the draft, where no field may come a second time. -/
def memberOnce (r : Record δ α) (draft : δ) (member : String × Json) : Except Cause δ :=
  if r.hasRead draft member.1 then .error (.duplicateField member.1)
  else r.memberValue draft member

/-- **A field is read once**, from a value that its decoder accepts. -/
theorem memberOnce_field_eq_ok_iff {f : Field δ} {key : String} (hf : r.field? key = some f)
    {draft draft' : δ} {v : Json} : r.memberOnce draft (key, v) = .ok draft'
      ↔ f.isRead draft = false ∧ ∃ set, f.decoder.fromValue v = .ok set ∧ set draft = draft' := by
  have hread : r.hasRead draft key = f.isRead draft := by rw [hasRead, hf, Option.any_some]
  rw [memberOnce, hread, memberValue, hf]
  dsimp only
  cases f.isRead draft with
  | true =>
    rw [if_pos rfl]
    constructor
    · intro h
      cases h
    · rintro ⟨h, -⟩
      cases h
  | false =>
    rw [if_neg Bool.false_ne_true]
    constructor
    · intro h
      exact ⟨rfl, exists_of_except_map h⟩
    · rintro ⟨-, set, hset, rfl⟩
      rw [hset]
      rfl

theorem memberOnce_of_eq_ok_iff {name key : String} {optional : Bool} {get : δ → Option β}
    {set : δ → β → δ} {d : Decoder β} (hf : r.field? key = some (.of name optional get set d))
    {draft draft' : δ} {v : Json} : r.memberOnce draft (key, v) = .ok draft'
      ↔ get draft = none ∧ ∃ b, d.fromValue v = .ok b ∧ set draft b = draft' := by
  rw [memberOnce_field_eq_ok_iff hf]
  refine and_congr (Option.isSome_eq_false_iff.trans Option.isNone_iff_eq_none) ⟨?_, ?_⟩
  · rintro ⟨_, hset, rfl⟩
    obtain ⟨b, hb, rfl⟩ := exists_of_except_map hset
    exact ⟨b, hb, rfl⟩
  · rintro ⟨b, hb, rfl⟩
    exact ⟨fun draft => set draft b, congrArg (Except.map fun b draft => set draft b) hb, rfl⟩

/-- A member that is none of the fields is kept. -/
theorem memberOnce_other {keep : δ → String → Json → δ} (hkeep : r.keep = some keep) {key : String}
    (hkey : r.field? key = none) (draft : δ) (v : Json) :
    r.memberOnce draft (key, v) = .ok (keep draft key v) := by
  have hread : ¬ r.hasRead draft key = true := by
    rw [hasRead, hkey]
    exact Bool.false_ne_true
  rw [memberOnce, if_neg hread, memberValue, hkey, hkeep]

/-- **A member of a record that keeps its members** is its value, read into the draft. -/
theorem factors_member {keep : δ → String → Json → δ} (hkeep : r.keep = some keep)
    (h : ∀ f ∈ r.fields, f.decoder.Agrees) (budget : Nat) (draft : δ) (key : String) :
    Factors (behindColon (value budget)) (fun v => r.memberOnce draft (key, v))
      (r.member budget draft key) := by
  unfold member
  split
  next f hf =>
    split
    next htwice =>
      refine .of_rejects (fun c v c' _ draft' hdraft' => ?_) (yields_failDuplicate key)
      have honce := ((memberOnce_field_eq_ok_iff hf).1 hdraft').1
      rw [htwice] at honce
      cases honce
    next honce =>
      have hset := (h f (mem_of_field? hf) budget).map fun set => set draft
      refine Factors.bind_same fun _ => hset.congr fun v => ?_
      rw [memberOnce, hasRead, hf, Option.any_some, if_neg honce, memberValue, hf]
  next hnone =>
    refine Factors.bind_same fun _ => ?_
    rw [hkeep]
    have hkept := (Factors.refl (ε := Cause) (value budget)).map fun v => keep draft key v
    exact hkept.congr fun v => (memberOnce_other hkeep hnone draft v).symm

theorem factors_completeHere (r : Record δ α) (draft : δ) :
    Factors (Pure.pure draft) r.complete (r.completeHere draft) := by
  unfold completeHere
  split
  next a ha => exact Factors.pure ha
  next cause hcause =>
    refine .of_rejects (Yields.pure fun a ha => ?_) (Yields.failHere cause)
    rw [hcause] at ha
    cases ha

/-- What a record makes of the members of an object as they stand in a text. -/
def ofEntries (r : Record δ α) (ms : Members) : Except Cause α :=
  ms.foldlM r.memberOnce r.empty >>= r.complete

/-- **A record that keeps its members is decoded from them one by one**, in the order in which they
stand in the text. -/
theorem factors_decoder {keep : δ → String → Json → δ} (hkeep : r.keep = some keep)
    (h : ∀ f ∈ r.fields, f.decoder.Agrees) (budget : Nat) :
    Factors (objectMembers budget) r.ofEntries (r.decoder.fromText budget) := by
  refine factors_withToken fun b => ?_
  unfold membersAt
  split
  next hb =>
    refine factors_openBracket fun budget => ?_
    exact (Factors.objectRest (factors_member hkeep h budget) r.empty).andThen
      (factors_completeHere r)
  next hb =>
    rw [if_neg fun hb' => absurd hb'.2 (by simp [hkeep])]
    exact .of_rejects (Yields.failAhead _) (yields_wrongKind _ _)

end Record

end SurfaceStudio.Wire
