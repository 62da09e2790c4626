import Stylebook.Build
import Stylebook.Check.Usage
import Stylebook.Command.Basic
import Stylebook.Console.Markup
import Stylebook.Manifest.Prompt
import Stylebook.Source.Load
import Stylebook.Stylesheet.Theme
import Stylebook.Theme.Apply
import Stylebook.Theme.Preset

/-!
What the commands do: the lines they print, the files they write, and how they end.
-/

namespace Stylebook.Command

open Text (lines joinWith trim)

inductive Action where
  | print (text : String)
  | complain (message : String) (details : List Detail)
  | makeDirectories (p : Path)
  | write (p : Path) (text : String)
  deriving DecidableEq, Repr

/-- The actions of a command in order, and whether it did what was asked for. A command that an
unforeseen failure ends says what that was. -/
structure Result where
  actions : List Action
  success : Bool
  failure : Option String
  deriving DecidableEq, Repr

/-- A command under way: it adds actions, and may end early. -/
abbrev Run := ExceptT (Option String) (StateM (List Action))

namespace Run

def act (a : Action) : Run Unit := modify (· ++ [a])

def print (text : String) : Run Unit := act (.print text)

/-- Ends the command without success. -/
def stop {α : Type} : Run α := throw none

/-- Ends the command because of something that it cannot explain. -/
def abort {α : Type} (message : String) : Run α := throw (some message)

/-- What a console shows of marked text. -/
def shown (marked : String) : Run String :=
  match Console.shown? marked with
  | some text => return text
  | none => abort ("A tag closes what is not open: " ++ marked)

/-- Prints marked text as a console shows it. -/
def say (marked : String) : Run Unit := do print (← shown marked)

def complain {α : Type} (message : String) (details : List Detail) : Run α := do
  act (.complain (← shown ("[red]Error:[/red] " ++ Console.literal message)) details)
  stop

def result (r : Run Unit) : Result :=
  match StateT.run (ExceptT.run r) [] with
  | (.ok (), actions) => ⟨actions, true, none⟩
  | (.error failure, actions) => ⟨actions, false, failure⟩

def loaded {α : Type} : Except LoadError α → Run α
  | .ok a => return a
  | .error (.source file e) => complain (e.message file) e.details
  | .error (.directory file) => abort ("Is a directory: " ++ file.text)
  | .error (.bytes e) => abort e.message
  | .error (.number e) => abort e.message

def resolved {α : Type} : Except ThemeError α → Run α
  | .ok a => return a
  | .error e => complain e.message []

def fitted {α : Type} : Except Unfit α → Run α
  | .ok a => return a
  | .error e => abort e.message

def overridden {α : Type} : Except OverrideError α → Run α
  | .ok a => return a
  | .error (.bad e) => complain e.message e.details
  | .error .notFields => abort "A change to a component is no object"
  | .error .notStyles => abort "The styles of a mapping are no object"

end Run

open Run

/-- The cells of a table row on lines of their own, blanks around them removed. -/
def rowLine (cells : List String) : String := joinWith " | " (cells.map trim)

/-- The lines of a row whose cells may have several lines each. -/
def rowLines (cells : List (List String)) : List String :=
  let height := (cells.map List.length).foldl max 0
  (List.range height).map fun i => rowLine (cells.map fun c => c.getD i "")

def issueRow (i : Issue) : Run (List String) := do
  let advice := match i.suggestion with
    | some s => if s.isEmpty then "" else "\n→ " ++ Console.literal s
    | none => ""
  let message ← shown (Console.literal i.message ++ advice)
  let path ← shown (Console.literal i.path)
  return rowLines [[i.severity.name], [i.code.name], lines message, lines path]

def issueHeader : String := rowLine ["Severity", "Code", "Message", "Path"]

/-- Prints a table of issues under a title; nothing if there are none. -/
def printIssues (title : String) (issues : List Issue) : Run Unit := do
  if !issues.isEmpty then
    let rows ← issues.mapM issueRow
    (title :: issueHeader :: rows.flatten).forM print

/-- The known themes, and those of a file. -/
def registry (files : Lookup) (themes : Option Path) : Run Registry := do
  match themes with
  | none => return .default
  | some p => return (← loaded (Source.themes files p)).foldl Registry.register .default

/-- Strictness is asked for, or left to the settings. -/
def strictness (strict : Bool) : Option Bool := if strict then some true else none

def themed (files : Lookup) (o : CompileOptions) (s : DesignSystem) : Run DesignSystem := do
  match o.theme.filter fun t => !t.isEmpty with
  | none => return s
  | some name =>
    let r ← registry files o.themes
    overridden (s.withTheme (← resolved (r.resolve name)))

/-- Ends the command unless all that it is about to write has a text. -/
def writable (has : Bool) : Run Unit := do
  if !has then abort (tooManyDigitsMessage none)

/-- What stands before the path of a file that has been written. -/
def writtenMark : String := "[green]✓[/green] Wrote "

def runCompile (files : Lookup) (o : CompileOptions) : Run Unit := do
  let s ← themed files o (← loaded (Source.system files o.config))
  let b ← fitted (s.build ⟨o.short, o.cssPrefix, strictness o.strict⟩)
  b.warnings.forM fun w => say ("[yellow]warning[/yellow] " ++ Console.literal w)
  b.errors.forM fun e => say ("[red]error[/red] " ++ Console.literal e)
  if b.css.isEmpty then
    print "Compilation failed"
    stop
  let sheet := o.out.child "intent.css"
  let manifest := o.out.child "ai-manifest.json"
  act (.makeDirectories o.out)
  act (.write sheet b.css)
  writable b.manifest.hasJson
  act (.write manifest b.manifest.json)
  say (writtenMark ++ sheet.text)
  say (writtenMark ++ manifest.text)
  if !b.success then stop

/-- The verdict on the usages in a file, good if no file is given. -/
def usageVerdict (files : Lookup) (o : ValidateOptions) (s : DesignSystem) : Run Verdict := do
  match o.usages with
  | none => return .ofIssues [] false
  | some p => fitted (s.checkUsages (← loaded (Source.usages files p)) (strictness o.strict))

def runValidate (files : Lookup) (o : ValidateOptions) : Run Unit := do
  let s ← loaded (Source.system files o.config)
  let schema ← fitted (s.checked (strictness o.strict))
  printIssues "Schema" schema.issues
  let usages ← usageVerdict files o s
  printIssues "Usages" usages.issues
  let counts := toString (schema.errors.length + usages.errors.length) ++ " error(s), " ++
    toString (schema.warnings.length + usages.warnings.length) ++ " warning(s)"
  if schema.valid && usages.valid then print ("✓ Valid: " ++ counts)
  else
    print ("✗ Invalid: " ++ counts)
    stop

def runGenerate (files : Lookup) (o : GenerateOptions) : Run Unit := do
  let s ← loaded (Source.system files o.config)
  if let some name := o.component then
    if !name.isEmpty && !s.components.contains name then
      complain ("Unknown component " ++ quoteName name) []
  let m ← fitted s.manifest
  writable (if o.prompt then m.hasPrompt o.component else m.hasJson)
  let text := if o.prompt then m.prompt o.component else m.json
  match o.output with
  | none => print text
  | some p =>
    act (.write p text)
    say (writtenMark ++ p.text)

/-- A theme's name, with the names of its parents. -/
def themeLine (t : Theme) : String :=
  if t.parents.isEmpty then t.name else t.name ++ " (extends " ++ joinWith ", " t.parents ++ ")"

def runThemes (files : Lookup) (o : ThemesOptions) : Run Unit := do
  let r ← registry files o.themes
  match o.name with
  | none => r.values.forM fun t => print (themeLine t)
  | some name =>
    let t ← resolved (r.resolve name)
    print (← fitted (t.stylesheet .auto))

def run (files : Lookup) : Command → Result
  | .version => result (print ("Intent " ++ programVersion))
  | .compile o => result (runCompile files o)
  | .validate o => result (runValidate files o)
  | .generate o => result (runGenerate files o)
  | .themes o => result (runThemes files o)

/-- The paths at which a command may look for files. -/
def inputs : Command → List Path
  | .version => []
  | .compile o => configInputs o.config ++ o.themes.toList
  | .validate o => configInputs o.config ++ o.usages.toList
  | .generate o => configInputs o.config
  | .themes o => o.themes.toList
where
  configInputs (p : Path) : List Path := p :: configNames.map p.child

/-- What carrying out a result leaves behind. A directory or a file that cannot be made ends the
command there. -/
structure Effect where
  printed : List String
  complaints : List (String × List Detail)
  tree : FileTree
  success : Bool

def perform (tree : FileTree) (e : Effect) : List Action → Effect
  | [] => { e with tree }
  | .print text :: rest => perform tree { e with printed := e.printed ++ [text] } rest
  | .complain message ds :: rest =>
    perform tree { e with complaints := e.complaints ++ [(message, ds)] } rest
  | .makeDirectories p :: rest =>
    match tree.makeDirectories p with
    | some tree => perform tree e rest
    | none => { e with tree, success := false }
  | .write p text :: rest =>
    match tree.write p text.toUTF8.toList with
    | some tree => perform tree e rest
    | none => { e with tree, success := false }

/-- Runs a command on a tree of files. -/
def runOn (tree : FileTree) (c : Command) : Effect :=
  let r := c.run tree.lookup
  perform tree ⟨[], [], tree, r.success⟩ r.actions

end Stylebook.Command
