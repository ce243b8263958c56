import Wiring.Files.Path
import Wiring.Page
import Wiring.Text.Quoted

/-!
A tree of folders and files, with a working folder, and what programs do to it.
-/

namespace Wiring.Files

inductive Content where
  | bytes (b : ByteArray)
  | text (s : String)
  | page (p : Page)

inductive Entry where
  | file (content : Content)
  | folder (children : List (String × Entry))

/-- The working folder is given by the names that lead to it from the root. -/
structure Disk where
  root : List (String × Entry)
  working : List String

inductive FileError where
  | missing (path : Path)
  | exists (path : Path)
  | notFolder (path : Path)
  | isFolder (path : Path)
  deriving DecidableEq, Repr

namespace FileError

def number : FileError → Nat
  | missing _ => 2
  | «exists» _ => 17
  | notFolder _ => 20
  | isFolder _ => 21

def reason : FileError → String
  | missing _ => "No such file or directory"
  | «exists» _ => "File exists"
  | notFolder _ => "Not a directory"
  | isFolder _ => "Is a directory"

def path : FileError → Path
  | missing p | «exists» p | notFolder p | isFolder p => p

def message (e : FileError) : String :=
  s!"[Errno {e.number}] {e.reason}: {Text.quoted e.path.render.toList}"

end FileError

namespace Entry

def child? (children : List (String × Entry)) (name : String) : Option Entry :=
  (children.find? (fun c => c.1 == name)).map (·.2)

def setChild (children : List (String × Entry)) (name : String) (e : Entry) :
    List (String × Entry) :=
  if children.any (fun c => c.1 == name) then
    children.map (fun c => if c.1 == name then (name, e) else c)
  else children ++ [(name, e)]

def at? (e : Entry) : List String → Option Entry
  | [] => some e
  | name :: names =>
    match e with
    | file _ => none
    | folder children => (child? children name).bind (fun c => c.at? names)

def put (new : Entry) : List String → Entry → Entry
  | [], _ => new
  | _ :: _, file content => file content
  | name :: names, folder children =>
    folder (setChild children name
      (put new names ((child? children name).getD (folder []))))

def isFolder : Entry → Bool
  | file _ => false
  | folder _ => true

end Entry

inductive Place where
  | found (names : List String) (entry : Entry)
  | missing
  | notFolder

namespace Disk

def entryAt? (d : Disk) (names : List String) : Option Entry := (Entry.folder d.root).at? names

def follow (d : Disk) (names : List String) : List String → Place
  | [] => (d.entryAt? names).elim .missing (.found names)
  | s :: segments =>
    match d.entryAt? names with
    | none => .missing
    | some (.file _) => .notFolder
    | some (.folder children) =>
      if s == ".." then d.follow names.dropLast segments
      else if (Entry.child? children s).isSome then d.follow (names ++ [s]) segments
      else .missing

def locate (d : Disk) (p : Path) : Place :=
  d.follow (if p.isAbsolute then [] else d.working) p.segments

def put (d : Disk) (names : List String) (e : Entry) : Disk :=
  match Entry.put e names (.folder d.root) with
  | .folder children => { d with root := children }
  | .file _ => d

def makeFolder (d : Disk) (p : Path) : Except FileError Disk :=
  match d.locate p with
  | .found _ e => if e.isFolder then .ok d else .error (.exists p)
  | .notFolder => .error (.notFolder p)
  | .missing =>
    match d.locate p.parent with
    | .found names (.folder _) =>
      if p.name == ".." then .error (.missing p)
      else .ok (d.put (names ++ [p.name]) (.folder []))
    | .found _ (.file _) | .notFolder => .error (.notFolder p)
    | .missing => .error (.missing p)

def makeFoldersUpTo : Nat → Disk → Path → Except FileError Disk
  | 0, d, p => d.makeFolder p
  | n + 1, d, p =>
    match d.makeFolder p with
    | .error (.missing _) =>
      match makeFoldersUpTo n d p.parent with
      | .ok d => d.makeFolder p
      | .error e => .error e
    | r => r

def makeFolders (d : Disk) (p : Path) : Except FileError Disk :=
  makeFoldersUpTo p.segments.length d p

def write (d : Disk) (p : Path) (c : Content) : Except FileError Disk :=
  match d.locate p with
  | .found _ (.folder _) => .error (.isFolder p)
  | .found names (.file _) => .ok (d.put names (.file c))
  | .notFolder => .error (.notFolder p)
  | .missing =>
    match d.locate p.parent with
    | .found names (.folder _) => .ok (d.put (names ++ [p.name]) (.file c))
    | .found _ (.file _) | .notFolder => .error (.notFolder p)
    | .missing => .error (.missing p)

end Disk

mutual

def Entry.files : Entry → List (List String × Content)
  | .file content => [([], content)]
  | .folder children => filesOfAll children

def filesOfAll : List (String × Entry) → List (List String × Content)
  | [] => []
  | (name, e) :: rest => e.files.map (fun f => (name :: f.1, f.2)) ++ filesOfAll rest

end

def Disk.written (d : Disk) : List (List String × Content) :=
  (filesOfAll d.root).filter (fun f =>
    match f.2 with
    | .bytes _ => false
    | .text _ | .page _ => true)

end Wiring.Files
