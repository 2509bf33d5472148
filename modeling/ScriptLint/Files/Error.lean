import ScriptLint.Path.Resolve
import ScriptLint.Text.Quoted
import ScriptLint.Text.Utf8

/-!
# Failures with files

A request to the file system fails for one of a few reasons.  Reading a file as
text also fails if its bytes are not UTF-8, and writing one if the text has no
encoding.  A path that holds a null character is
refused before the file system is asked, which is a failure of another kind.
-/

namespace ScriptLint

/-- Why a request to the file system fails. -/
inductive FileFault where
  | missing
  | busy
  | present
  | notFolder
  | isFolder
  | tooLong
  | nullCharacter
deriving DecidableEq, Repr

def FileFault.text : FileFault → String
  | missing => "[Errno 2] No such file or directory"
  | busy => "[Errno 16] Device or resource busy"
  | present => "[Errno 17] File exists"
  | notFolder => "[Errno 20] Not a directory"
  | isFolder => "[Errno 21] Is a directory"
  | tooLong => "[Errno 36] File name too long"
  | nullCharacter => "embedded null byte"

/-- A failed request for a path, and where the path was to be moved, if it was. -/
structure FileError where
  fault : FileFault
  path : String
  target : Option String
deriving DecidableEq, Repr

/-- Whether the file system was not even asked. -/
def FileError.isRefusal (error : FileError) : Bool :=
  error.fault = .nullCharacter

/-- The wording of a failed request. -/
def FileError.message (error : FileError) : String :=
  let target :=
    match error.target with
    | some target => " -> " ++ Text.quoted target
    | none => ""
  if error.isRefusal then error.fault.text
  else error.fault.text ++ ": " ++ Text.quoted error.path ++ target

/-- The absolute path without double dots that a path stands for, unless it holds a
null character. -/
def Path.resolved (path : Path) : Except FileError Path :=
  if path.holdsNull then .error ⟨.nullCharacter, path.toString, none⟩
  else .ok path.resolve

/-- Why a file cannot be read as text. -/
inductive ReadError where
  | file (error : FileError)
  | encoding (error : Utf8.DecodeError)

/-- Whether the file system was not even asked. -/
def ReadError.isRefusal : ReadError → Bool
  | file error => error.isRefusal
  | encoding _ => false

def ReadError.message : ReadError → String
  | file error => error.message
  | encoding error => error.message

/-- Why a text cannot be written to a file. -/
inductive WriteError where
  | file (error : FileError)
  | encoding (error : Utf8.EncodeError)
deriving DecidableEq, Repr

def WriteError.message : WriteError → String
  | file error => error.message
  | encoding error => error.message

end ScriptLint
