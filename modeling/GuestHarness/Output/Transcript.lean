import GuestHarness.FileTree

/-!
A transcript file. What is written goes to the end of the file by way of a buffer, which is
emptied when it would overflow and when the transcript is flushed. The file may take fewer bytes
than it is given, or fail; what it has not taken stays in the buffer.
-/

namespace GuestHarness.Output

/-- What a call that hands bytes to a file comes to: the file takes so many of them at most, or the
call fails. -/
inductive FileReply where
  | takes (most : Nat)
  | fails (error : IoError)
deriving DecidableEq

/-- What came of handing bytes to a file: the error, if there was one, the bytes that the file has
not taken, the replies that are left, and the files. -/
structure Poured where
  error : Option IoError
  rest : Bytes
  replies : List FileReply
  files : FileTree

/-- Hands bytes to the file at a place, again and again until it has taken all of them or fails. A
file that takes none is stuck, and an interrupted call is made again. Beyond the given replies the
file takes everything. -/
def pour (place : List String) (stuck : IoError) : List FileReply → Bytes → FileTree → Poured
  | replies, [], files => ⟨none, [], replies, files⟩
  | [], bs, files => ⟨none, [], [], files.append place bs⟩
  | .takes 0 :: replies, bs, files => ⟨some stuck, bs, replies, files⟩
  | .takes (n + 1) :: replies, bs, files =>
    pour place stuck replies (bs.drop (n + 1)) (files.append place (bs.take (n + 1)))
  | .fails e :: replies, bs, files =>
    if e.isInterrupted then pour place stuck replies bs files else ⟨some e, bs, replies, files⟩

/-- An open transcript: the path it was opened by, the place of the file, the bytes that are not in
the file yet, and what the next calls on the file will come to. -/
structure Transcript where
  path : String
  place : List String
  pending : Bytes := []
  replies : List FileReply := []
deriving DecidableEq

namespace Transcript

/-- The number of bytes that the buffer holds. -/
def capacity : Nat := 8192

/-- The name under which the errors of a transcript are reported. -/
def name (t : Transcript) : String := "file:" ++ t.path

/-- Opens a transcript. The directories above it are made, and a file that exists is kept. -/
def openAt (files : FileTree) (path : String) : Except IoError (Transcript × FileTree) := do
  let files ← match FileTree.parentPath? path with
    | none => pure files
    | some "" => pure files
    | some dir => files.makeDirectories dir
  let (place, content) ← files.openForWriting path
  let files := match files.entryAt place with
    | some _ => files
    | none => files.insert place (.file content false)
  return ({ path := path, place := place }, files)

/-- Empties the buffer into the file. -/
def flush (t : Transcript) (files : FileTree) : Option IoError × Transcript × FileTree :=
  let p := pour t.place (.custom .writeZero "failed to write the buffered data") t.replies
    t.pending files
  (p.error, { t with pending := p.rest, replies := p.replies }, p.files)

/-- Adds bytes to the transcript. Those that the buffer could not hold go to the file at once. -/
def write (t : Transcript) (bs : Bytes) (files : FileTree) :
    Option IoError × Transcript × FileTree :=
  if t.pending.length + bs.length < capacity then
    (none, { t with pending := t.pending ++ bs }, files)
  else
    match if capacity < t.pending.length + bs.length then t.flush files else (none, t, files) with
    | (some e, t, files) => (some e, t, files)
    | (none, t, files) =>
      if capacity ≤ bs.length then
        let p := pour t.place (.custom .writeZero "failed to write whole buffer") t.replies bs files
        (p.error, { t with replies := p.replies }, p.files)
      else (none, { t with pending := t.pending ++ bs }, files)

end Transcript
end GuestHarness.Output
