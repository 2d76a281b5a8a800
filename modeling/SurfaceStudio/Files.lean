/-!
# Files

What the system answers when a file is to be read, and the text of a file that could be read.

  • `FileAnswer` — bytes, or why there are none,
  • `FileAnswer.text` — the bytes as text.
-/

namespace SurfaceStudio

/-- Why a file could not be read as text. -/
inductive FileFault where
  | notFound
  | isDirectory
  | notDirectory
  | nameTooLong
  | nulInName
  | notUnicode
  /-- Something else, in the words of the system. -/
  | other (text : String)
deriving DecidableEq, Repr

def FileFault.message : FileFault → String
  | .notFound => "No such file or directory (os error 2)"
  | .isDirectory => "Is a directory (os error 21)"
  | .notDirectory => "Not a directory (os error 20)"
  | .nameTooLong => "File name too long (os error 36)"
  | .nulInName => "file name contained an unexpected NUL byte"
  | .notUnicode => "stream did not contain valid UTF-8"
  | .other text => text

/-- The bytes of a file, or why they could not be had. -/
abbrev FileAnswer := Except FileFault (List UInt8)

/-- The text of a file; the bytes have to be UTF-8. -/
def FileAnswer.text (answer : FileAnswer) : Except FileFault String :=
  match answer with
  | .error fault => .error fault
  | .ok bytes =>
    match String.fromUTF8? ⟨bytes.toArray⟩ with
    | some text => .ok text
    | none => .error .notUnicode

end SurfaceStudio
