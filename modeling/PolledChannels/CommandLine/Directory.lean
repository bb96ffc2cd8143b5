import PolledChannels.Log.Emitter

/-!
# A directory of files

The working directory of a command holds files by name. It stands in the directory for temporary
files of a system with a few devices. A path is walked name by name: each name is looked up in the
directory where the walk stands, so the walk fails at the first one that cannot be.
-/

namespace PolledChannels.CommandLine

structure Directory where
  files : List (String × ByteArray) := []

inductive Device where
  /-- It keeps nothing and has nothing. -/
  | null
  /-- It keeps nothing and never ends. -/
  | zero
  /-- It has no room. -/
  | full
  deriving DecidableEq, Repr

namespace Device

def name : Device → String
  | null => "null"
  | zero => "zero"
  | full => "full"

def ofName? (s : String) : Option Device := [null, zero, full].find? fun d => d.name == s

end Device

/-- Where a walk along a path can stand. -/
inductive Place where
  | root
  | system
  | devices
  | temporary
  | working
  | device (device : Device)
  | file (name : String)
  /-- A name in a directory that has nothing of that name. -/
  | absent (directory : Place) (name : String)
  deriving DecidableEq, Repr

namespace Place

/-- The names of the directories of the system that stand in the directory above all others. -/
def systemNames : List String :=
  ["bin", "boot", "etc", "home", "lib", "lib64", "media", "mnt", "opt", "proc", "root", "run",
    "sbin", "srv", "sys", "usr", "var"]

def parent : Place → Place
  | working => temporary
  | _ => root

end Place

namespace Directory

def file? (d : Directory) (name : String) : Option ByteArray := d.files.lookup name

def put (d : Directory) (name : String) (content : ByteArray) : Directory :=
  ⟨(name, content) :: d.files.filter fun p => p.1 != name⟩

def child (d : Directory) (here : Place) (name : String) : Place :=
  match here with
  | .root =>
    if name = "dev" then .devices
    else if name = "tmp" then .temporary
    else if name ∈ Place.systemNames then .system
    else .absent .root name
  | .devices =>
    match Device.ofName? name with
    | some device => .device device
    | none => .absent .devices name
  | .working => if (d.file? name).isSome then .file name else .absent .working name
  | other => .absent other name

def longestName : Nat := 255

def longestPath : Nat := 4095

def step (d : Directory) (here : Place) (name : String) : Except Errno Place :=
  match here with
  | .absent _ _ => .error .noEntry
  | .device _ | .file _ => .error .notDirectory
  | _ =>
    if name = "." then .ok here
    else if name = ".." then .ok here.parent
    else if longestName < name.utf8ByteSize then .error .nameTooLong
    else .ok (d.child here name)

def walk (d : Directory) : Place → List String → Except Errno Place
  | here, [] => .ok here
  | here, name :: rest => (d.step here name).bind fun there => d.walk there rest

end Directory

/-- A path: where it starts, its names, and whether a slash stands behind the last one. -/
structure Path where
  start : Place
  names : List String
  slashed : Bool
  deriving DecidableEq, Repr

namespace Path

def parts : List Char → List (List Char)
  | [] => [[]]
  | c :: cs =>
    match parts cs with
    | [] => [[c]]
    | first :: rest => if c = '/' then [] :: first :: rest else (c :: first) :: rest

/-- Reads a path. It may be neither empty nor too long. -/
def parse (path : String) : Except Errno Path :=
  if path.isEmpty then .error .noEntry
  else if Directory.longestPath < path.utf8ByteSize then .error .nameTooLong
  else
    .ok
      { start := if path.startsWith "/" then .root else .working
        names := ((parts path.toList).filter (· ≠ [])).map String.ofList
        slashed := path.endsWith "/" }

/-- The last name of a path asks for something new: it is none of the names for directories
that are always there. -/
def isNew (names : List String) : Bool :=
  match names.getLast? with
  | some name => name != "." && name != ".."
  | none => false

end Path

namespace Directory

/-- Where a path leads that is opened to read. -/
def find (d : Directory) (path : String) : Except Errno Place := do
  let p ← Path.parse path
  let there ← d.walk p.start p.names
  if p.slashed then d.step there "." else return there

/-- Where a path leads that is opened to write. A name with a slash behind it can only be a
directory, whatever there is. -/
def findNew (d : Directory) (path : String) : Except Errno Place := do
  let p ← Path.parse path
  if p.slashed && Path.isNew p.names then
    let above ← d.walk p.start p.names.dropLast
    d.step above "."
  else d.walk p.start p.names

/-- Reads a file. Nothing comes of a device that never ends. -/
def read (d : Directory) (path : String) : Except IoError ByteArray :=
  match d.find path with
  | .error e => .error (.os e)
  | .ok (.file name) => .ok ((d.file? name).getD ByteArray.empty)
  | .ok (.device .null) => .ok ByteArray.empty
  | .ok (.device _) => .error (.simple .outOfMemory)
  | .ok (.absent _ _) => .error (.os .noEntry)
  | .ok _ => .error (.os .isDirectory)

/-- Makes an empty file, or empties the one that is there: where its lines go. -/
def create (d : Directory) (path : String) : Except IoError Log.Target × Directory :=
  match d.findNew path with
  | .error e => (.error (.os e), d)
  | .ok (.file name) | .ok (.absent .working name) => (.ok (.file []), d.put name ByteArray.empty)
  | .ok (.absent .temporary _) => (.ok (.file []), d)
  | .ok (.absent _ _) => (.error (.os .accessDenied), d)
  | .ok (.device .full) => (.ok (.full 0), d)
  | .ok (.device _) => (.ok .discard, d)
  | .ok _ => (.error (.os .isDirectory), d)

/-- Puts the lines of a log into the file that was made for it. -/
def store (d : Directory) (path : String) (lines : List String) : Directory :=
  match d.findNew path with
  | .ok (.file name) => d.put name (String.join (lines.map fun l => l ++ "\n")).toUTF8
  | _ => d

end Directory
end PolledChannels.CommandLine
