import ContainerRoster.Text.Utf8

/-!
# Files

All that a run asks of the file system is to read whole files, so a file system is the function
that answers these questions: the bytes of the file at a path, or why there are none.
-/

namespace ContainerRoster

/-- Why a file was not read. -/
inductive IoError
  | notFound
  | notDirectory
  | isDirectory
  | nameTooLong
  | nulInPath
  | notText
  | other (text : String)
  deriving DecidableEq, Repr

def IoError.message : IoError → String
  | .notFound => "No such file or directory (os error 2)"
  | .notDirectory => "Not a directory (os error 20)"
  | .isDirectory => "Is a directory (os error 21)"
  | .nameTooLong => "File name too long (os error 36)"
  | .nulInPath => "file name contained an unexpected NUL byte"
  | .notText => "stream did not contain valid UTF-8"
  | .other text => text

structure FileSystem where
  read : String → Except IoError (List UInt8)

/-- The characters of a file all of whose bytes spell text. -/
def FileSystem.readText (files : FileSystem) (path : String) : Except IoError (List Char) :=
  match files.read path with
  | .error e => .error e
  | .ok bytes =>
    match Utf8.text? bytes with
    | some text => .ok text
    | none => .error .notText

end ContainerRoster
