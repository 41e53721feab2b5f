/-! # Views of files -/

namespace PagedSearch

/-- Why a path leads nowhere. A path that goes through a file as if it were a directory is
blocked. -/
inductive PathFault where
  | missing
  | blocked
  | tooLong
  | zeroCharacter
deriving DecidableEq

namespace PathFault

def reason : PathFault → String
  | missing => "No such file or directory (os error 2)"
  | blocked => "Not a directory (os error 20)"
  | tooLong => "File name too long (os error 36)"
  | zeroCharacter => "file name contained an unexpected NUL byte"

end PathFault

inductive FileEntry where
  | file (content : List UInt8)
  | directory
  | nowhere (fault : PathFault)
deriving DecidableEq

inductive FileFault where
  | path (fault : PathFault)
  | directory
  | notText
deriving DecidableEq

namespace FileFault

def reason : FileFault → String
  | path fault => fault.reason
  | directory => "Is a directory (os error 21)"
  | notText => "stream did not contain valid UTF-8"

end FileFault

def decodeText? (bytes : List UInt8) : Option String := String.fromUTF8? ⟨bytes.toArray⟩

def FileEntry.text? : FileEntry → Except FileFault String
  | .file content =>
    match decodeText? content with
    | some text => .ok text
    | none => .error .notText
  | .directory => .error .directory
  | .nowhere fault => .error (.path fault)

abbrev FileView := String → FileEntry

inductive PathPlace where
  | home
  | above
  | below
  | file (content : List UInt8)
deriving DecidableEq

namespace PathPlace

def nameLimit : Nat := 255

def enter (entries : List (String × FileEntry)) (name : String) : Except PathFault PathPlace :=
  match entries.lookup name with
  | some (.file content) => .ok (.file content)
  | some .directory => .ok .below
  | some (.nowhere fault) => .error fault
  | none => .error .missing

/-- One step along a path. An empty name or a single point stays in a directory, two points lead to
the one above. The directories in the working directory are empty, and those above it hold nothing
that is known by name. -/
def step (entries : List (String × FileEntry)) (place : PathPlace) (name : String) :
    Except PathFault PathPlace :=
  match place with
  | file _ => .error .blocked
  | home =>
    if name = "" || name = "." then .ok home
    else if name = ".." then .ok above
    else if nameLimit < name.utf8ByteSize then .error .tooLong
    else enter entries name
  | above =>
    if name = "" || name = "." || name = ".." then .ok above
    else if nameLimit < name.utf8ByteSize then .error .tooLong
    else .error .missing
  | below =>
    if name = "" || name = "." then .ok below
    else if name = ".." then .ok home
    else if nameLimit < name.utf8ByteSize then .error .tooLong
    else .error .missing

def entry : PathPlace → FileEntry
  | file content => .file content
  | home | above | below => .directory

end PathPlace

namespace FileView

def pathLimit : Nat := 4095

def walk (entries : List (String × FileEntry)) (path : String) : Except PathFault PathPlace :=
  if path.contains '\x00' then .error .zeroCharacter
  else if path.isEmpty then .error .missing
  else if pathLimit < path.utf8ByteSize then .error .tooLong
  else
    (path.splitOn "/").foldlM (PathPlace.step entries)
      (if path.startsWith "/" then .above else .home)

def ofDirectory (entries : List (String × FileEntry)) : FileView := fun path =>
  match walk entries path with
  | .ok place => place.entry
  | .error fault => .nowhere fault

end FileView

end PagedSearch
