import Stylebook.Pairs
import Stylebook.Source.Path

/-!
The files below a working directory, and what paths lead to in them. A step up is taken from a
directory that is there, so a path through a missing one leads nowhere.
-/

namespace Stylebook

/-- What stands at a path. -/
inductive Entry where
  | file (bytes : List UInt8)
  | directory

/-- What paths lead to. -/
abbrev Lookup := Path → Option Entry

/-- Files and empty directories by the steps that lead to them. -/
structure FileTree where
  files : List (List String × List UInt8)
  directories : List (List String)

/-- Where a path leads: into the tree, to a directory above it, or to something beside it. -/
inductive Place where
  | inside (steps : List String)
  | above (levels : Nat)
  | beside
  deriving DecidableEq, Repr

namespace FileTree

def empty : FileTree := ⟨[], []⟩

def isDirectory (t : FileTree) (steps : List String) : Bool :=
  steps.isEmpty || t.directories.contains steps ||
    t.files.any fun f => steps.isPrefixOf f.1 && steps != f.1

def isFile (t : FileTree) (steps : List String) : Bool := (Pairs.get? steps t.files).isSome

/-- One step from a place; only a directory can be left. -/
def step (t : FileTree) (p : Place) (name : String) : Option Place :=
  match p with
  | .inside steps =>
    if !t.isDirectory steps then none
    else if name != ".." then some (.inside (steps ++ [name]))
    else if steps.isEmpty then some (.above 1)
    else some (.inside steps.dropLast)
  | .above n => some (if name == ".." then .above (n + 1) else .beside)
  | .beside => none

def start (p : Path) : Place := if p.root.isEmpty then .inside [] else .above 0

def place? (t : FileTree) (p : Path) : Option Place := p.steps.foldlM t.step (start p)

def lookup (t : FileTree) : Lookup := fun p =>
  match t.place? p with
  | some (.inside steps) =>
    match Pairs.get? steps t.files with
    | some bytes => some (.file bytes)
    | none => if t.isDirectory steps then some .directory else none
  | some (.above _) => some .directory
  | _ => none

/-- Makes the directory at a place, unless a file stands there. -/
def makeDirectory (t : FileTree) : Place → Option FileTree
  | .inside steps =>
    if t.isFile steps then none
    else if t.isDirectory steps then some t
    else some { t with directories := t.directories ++ [steps] }
  | _ => some t

/-- Makes the directories on the way from a place, step by step. -/
def makeSteps (t : FileTree) (p : Place) : List String → Option FileTree
  | [] => some t
  | name :: rest => do
    let p ← t.step p name
    (← t.makeDirectory p).makeSteps p rest

/-- Makes the directory at a path and those on the way to it. -/
def makeDirectories (t : FileTree) (p : Path) : Option FileTree := t.makeSteps (start p) p.steps

/-- Writes a file into a directory that is there. -/
def write (t : FileTree) (p : Path) (bytes : List UInt8) : Option FileTree :=
  match t.place? p with
  | some (.inside steps) =>
    if t.isDirectory steps then none else some { t with files := Pairs.set steps bytes t.files }
  | some .beside => some t
  | _ => none

def ofList (files : List (String × List UInt8)) : FileTree :=
  ⟨Pairs.setAll [] (files.map fun f => ((Path.ofText f.1).steps, f.2)), []⟩

end FileTree

end Stylebook
