import Arazzo.Error
import Arazzo.Text.Encoding

/-!
# Files and their paths

The path of a file is the names on the way, without empty names and names that mean the same directory.
An absolute path starts with a slash; two slashes at the start are kept, more count as one. The files
are a function from paths to bytes. The text of a file is its bytes read as UTF-8, with the ends of its
lines made alike.
-/

namespace Arazzo

structure FilePath where
  /-- The slashes at the start. -/
  root : String
  names : List String
deriving DecidableEq, Repr

namespace FilePath

open Text

/-- The slashes that a path keeps of those at its start. -/
def rootOf (cs : List Char) : String :=
  match (cs.takeWhile (· = '/')).length with
  | 0 => ""
  | 2 => "//"
  | _ => "/"

def ofText (text : String) : FilePath where
  root := rootOf text.toList
  names := ((splitOnChar '/' text.toList).filter fun name => !name.isEmpty && name ≠ ['.']).map
    String.ofList

def text (path : FilePath) : String :=
  if path.root = "" && path.names.isEmpty then "."
  else path.root ++ "/".intercalate path.names

def isAbsolute (path : FilePath) : Bool := path.root != ""

/-- A path seen from a directory. -/
def resolve (directory path : FilePath) : FilePath :=
  if path.isAbsolute then path else ⟨directory.root, directory.names ++ path.names⟩

/-- The directory that a path lies in. -/
def parent (path : FilePath) : FilePath := ⟨path.root, path.names.dropLast⟩

/-- The last name. -/
def name (path : FilePath) : String := path.names.getLastD ""

end FilePath
/-- The bytes of the files that can be read. -/
abbrev Files := FilePath → Option (List UInt8)

/-- Why a file has no text. -/
inductive FileFault where
  | unreadable
  | defect (d : Defect)
deriving DecidableEq, Repr

namespace Files

/-- Every line ends with a line feed. -/
def plainBreaks (cs : List Char) : List Char :=
  Text.replace ['\r'] ['\n'] (Text.replace ['\r', '\n'] ['\n'] cs)

/-- Whether a path has a form in bytes: of the halves of surrogate pairs those from U+DC80 to U+DCFF
stand for single bytes, and no other half has one. -/
def hasBytes (path : FilePath) : Bool :=
  path.text.toList.all fun c =>
    !Text.isLent c || (0xDC80 ≤ Text.codeOf c && Text.codeOf c ≤ 0xDCFF)

/-- The text of a file. -/
def text (files : Files) (path : FilePath) : Except FileFault (List Char) :=
  if !hasBytes path then .error (.defect .unencodableText)
  else if path.text.toList.contains '\x00' then .error (.defect .unusablePath)
  else match files path with
    | none => .error .unreadable
    | some bytes => match Text.readUtf8? bytes with
      | some cs => .ok (plainBreaks cs)
      | none => .error (.defect .undecodableFile)

end Files
end Arazzo
