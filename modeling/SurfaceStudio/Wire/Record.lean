import SurfaceStudio.Wire.Decoder

/-!
# Decoding records

A record is decoded from an object, or from an array of its fields in order.  What has been read
so far is a draft; at the end the draft is completed, or the first field that it lacks is named.

  • `Field` — how one field is read into a draft,
  • `Record.decoder` — the decoder of a record.
-/

namespace SurfaceStudio.Wire

open Json Json.Reader

/-! ## §1. Fields and records. -/

/-- A field of a record with drafts of type `δ`. -/
structure Field (δ : Type) where
  name : String
  /-- The record may come without the field. -/
  optional : Bool
  /-- The field has been read into the draft. -/
  isRead : δ → Bool
  decoder : Decoder (δ → δ)

/-- How a record of type `α` is decoded with drafts of type `δ`. -/
structure Record (δ α : Type) where
  /-- What a message calls the record. -/
  name : String
  empty : δ
  fields : List (Field δ)
  /-- Keeps a member that is none of the fields; without it such members are skipped, and the
  record may also stand as an array of its fields. -/
  keep : Option (δ → String → Json → δ)
  /-- The record, or the first field that is missing. -/
  complete : δ → Except Cause α

variable {δ α β : Type}

/-- A field that `get` finds in the draft and `set` puts there. -/
def Field.of (name : String) (optional : Bool) (get : δ → Option β) (set : δ → β → δ)
    (d : Decoder β) : Field δ :=
  ⟨name, optional, fun draft => (get draft).isSome, d.map fun b draft => set draft b⟩

/-- What a field holds, or that it is missing. -/
def required (name : String) : Option β → Except Cause β
  | some b => .ok b
  | none => .error (.missingField name)

namespace Record

/-- The field of a name. -/
def field? (r : Record δ α) (name : String) : Option (Field δ) :=
  r.fields.find? fun f => f.name == name

/-- How the array form of the record is called. -/
def lengthText (r : Record δ α) : String :=
  r.name ++ " with " ++ Nat.repr r.fields.length ++ " elements"

/-! ## §2. From texts. -/

/-- Objects to a key that comes twice.  White space behind the key, and a brace that follows it,
have been read by then. -/
def failDuplicate (name : String) : Reader β := do
  let next ← peekToken?
  if next = some '\x7d'.toUInt8 then step
  failHere (.duplicateField name)

/-- Reads the member of a key into the draft. -/
def member (r : Record δ α) (budget : Nat) (draft : δ) (key : String) : Reader δ := do
  match r.field? key with
  | some f =>
    if f.isRead draft then failDuplicate key
    else do
      colon
      return (← f.decoder.fromText budget) draft
  | none => do
    colon
    match r.keep with
    | some keep => return keep draft key (← value budget)
    | none => do
      skip
      return draft

/-- Completes a draft whose closing bracket has just been read. -/
def completeHere (r : Record δ α) (draft : δ) : Reader α :=
  match r.complete draft with
  | .ok a => pure a
  | .error cause => failHere cause

/-- The members of an object, and its closing brace. -/
def fromMembers (r : Record δ α) (budget : Nat) : Reader α := do
  let draft ← objectRest (r.member budget) r.empty
  r.completeHere draft

/-- The elements of an array, one for each of the fields that are left; `index` counts the fields
before them. -/
def elements (r : Record δ α) (budget : Nat) : Nat → List (Field δ) → δ → Reader δ
  | _, [], draft => pure draft
  | index, f :: fields, draft => do
    if ← nextElement (index == 0) then do
      let set ← f.decoder.fromText budget
      elements r budget (index + 1) fields (set draft)
    else if f.optional then elements r budget (index + 1) fields draft
    else do
      step
      failHere (.wrongLength index r.lengthText)

/-- The bracket behind the last field. -/
def elementsEnd : Reader Unit := do
  match ← peekToken? with
  | none => failAhead .endInList
  | some b =>
    if b = ']'.toUInt8 then step
    else if b = ','.toUInt8 then do
      step
      if (← peekToken?) = some ']'.toUInt8 then failAhead .trailingComma
      else failAhead .trailingCharacters
    else failAhead .trailingCharacters

/-- The elements of an array, and its closing bracket. -/
def fromElements (r : Record δ α) (budget : Nat) : Reader α := do
  let draft ← r.elements budget 0 r.fields r.empty
  elementsEnd
  r.completeHere draft

/-! ## §3. From values. -/

/-- Reads a member into the draft. -/
def memberValue (r : Record δ α) (draft : δ) (member : String × Json) : Except Cause δ :=
  match r.field? member.1 with
  | some f => (f.decoder.fromValue member.2).map (· draft)
  | none =>
    match r.keep with
    | some keep => .ok (keep draft member.1 member.2)
    | none => .ok draft

/-- Reads elements into the fields that are left. -/
def elementValues (r : Record δ α) : Nat → List (Field δ) → List Json → δ → Except Cause δ
  | _, [], _, draft => .ok draft
  | index, f :: fields, v :: vs, draft => do
    let set ← f.decoder.fromValue v
    elementValues r (index + 1) fields vs (set draft)
  | index, f :: fields, [], draft =>
    if f.optional then elementValues r (index + 1) fields [] draft
    else .error (.wrongLength index r.lengthText)

/-- From an object, or from an array if the record may stand as one. -/
def ofValue (r : Record δ α) (v : Json) : Except Cause α :=
  match v, r.keep with
  | .object members, _ => do
    let draft ← members.foldlM r.memberValue r.empty
    r.complete draft
  | .array items, none => do
    let draft ← r.elementValues 0 r.fields items r.empty
    let a ← r.complete draft
    if r.fields.length < items.length then
      throw (.wrongLength items.length "fewer elements in array")
    return a
  | v, _ => .error (.wrongKind (found v) r.name)

/-! ## §4. The decoder. -/

/-- **The decoder of a record.** -/
def decoder (r : Record δ α) : Decoder α where
  fromText budget := withToken fun b => do
    if b = '\x7b'.toUInt8 then openBracket budget r.fromMembers
    else if b = '['.toUInt8 ∧ r.keep.isNone then openBracket budget r.fromElements
    else wrongKind r.name b
  fromValue := r.ofValue

end Record

end SurfaceStudio.Wire
