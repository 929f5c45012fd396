import FormFill.Files

namespace FormFill

/-- Why a file has no text. -/
inductive TextFault where
  | file (fault : FileFault)
  | undecodable
deriving DecidableEq, Repr

/-- The text of UTF-8 bytes, with every line end as a line feed. -/
def decodeText (content : ByteArray) : Option (List Char) :=
  (String.fromUTF8? content).map fun text => Text.unifyLineEnds text.toList

def Files.readText (files : Files) (path : Path) : Except TextFault (List Char) :=
  match files.read path with
  | .error fault => .error (.file fault)
  | .ok content =>
    match decodeText content with
    | some text => .ok text
    | none => .error .undecodable

/-- Opens a file for writing and puts a text in it. A text without UTF-8 form leaves the file empty. -/
def Files.writeText (files : Files) (path : Path) (text : List Char) :
    Files × Except Text.EncodeFault (Option FileFault) :=
  match files.halves.fault? text with
  | none =>
    match files.write path (String.ofList text).toUTF8 with
    | .ok files => (files, .ok none)
    | .error fault => (files, .ok (some fault))
  | some unencodable =>
    match files.write path .empty with
    | .ok files => (files, .error unencodable)
    | .error fault => (files, .ok (some fault))

end FormFill
