import Stylebook.Source.Data
import Stylebook.DesignSystem
import Stylebook.Theme
import Stylebook.Usage

/-!
Loading systems, usages and themes from files.
-/

namespace Stylebook.Source

/-- The first file in a directory that may describe a system. -/
def findConfig (files : Lookup) (directory : Path) : Option Path :=
  (configNames.map directory.child).find? fun p => (files p).isSome

/-- The file that describes a system: the one at the path, or one in the directory at the path. -/
def configPath (files : Lookup) (p : Path) : Except LoadError Path :=
  match files p with
  | some .directory => match findConfig files p with
    | some file => .ok file
    | none => fail p .noConfig
  | _ => .ok p

/-- What was read, or the error that its details make. -/
def checked {α : Type} (file : Path) (bad : List Detail → SourceError) :
    Decoded α → Except LoadError α
  | .ok a => .ok a
  | .bad ds => fail file (bad ds)
  | .refused why => fail file (.refusedSystem why)

def system (files : Lookup) (p : Path) : Except LoadError DesignSystem := do
  let file ← configPath files p
  match ← data files file with
  | .object fields => checked file .badSystem (DesignSystem.decode (.object fields))
  | _ => fail file .notMapping

/-- The records of usages: a list, a mapping that holds one under `usages`, or a lone record. -/
def usageRecords (v : Value) : Option (List Value) :=
  let inner := match v with
    | .object fs => if Fields.has fs "usages" && !Fields.has fs "file" then Fields.getD fs "usages" else v
    | v => v
  match inner with
  | .list l => some l
  | .object fs => some [.object fs]
  | _ => none

def isBatch : Value → Bool
  | .object fs => Fields.has fs "usages"
  | _ => false

/-- The file a usage says it is in, or the usual one. -/
def fileOf (usual : String) (u : Usage) : String := (u.location.map Location.file).getD usual

/-- Puts usages into batches by the files they are in. -/
def groupUsages (usual : String) (l : List Usage) : List Batch :=
  let groups := l.foldl (fun (d : Dict (List Usage)) u => d.push (fileOf usual u) u) ∅
  groups.entries.map fun e => ⟨e.1, e.2⟩

/-- Batches of the usages that records hold; those that do not say where they are go to the file of the
records. -/
def groupRecords (file : Path) (records : List Value) : Except LoadError (List Batch) := do
  let l ← records.mapM fun r => checked file .badUsage (Usage.decode r)
  return groupUsages file.text l

/-- Usages in batches by file. A file holds batches, or single usages that say where they are. -/
def usages (files : Lookup) (file : Path) : Except LoadError (List Batch) := do
  match usageRecords (← data files file) with
  | none => fail file .notUsages
  | some records =>
    if records.all isBatch then records.mapM fun r => checked file .badUsage (Batch.decode r)
    else groupRecords file records

/-- The records of themes: a list, a mapping that holds one under `themes`, or a lone theme. -/
def themeRecords (v : Value) : Option (List Value) :=
  let inner := match v with
    | .object fs => (Fields.get? fs "themes").getD (.list [.object fs])
    | v => v
  match inner with
  | .list l => some l
  | _ => none

def themes (files : Lookup) (file : Path) : Except LoadError (List Theme) := do
  match themeRecords (← data files file) with
  | none => fail file .notThemes
  | some records => records.mapM fun r => checked file .badTheme (Theme.decode r)

end Stylebook.Source
