import Stylebook.Command.Words
import Stylebook.Source.Path

/-!
The commands and their options.
-/

namespace Stylebook

/-- The version of the program. -/
def programVersion : String := "0.9.0"

structure CompileOptions where
  config : Path
  out : Path
  short : Bool
  strict : Bool
  cssPrefix : Option String
  theme : Option String
  themes : Option Path
  deriving DecidableEq, Repr

structure ValidateOptions where
  config : Path
  usages : Option Path
  strict : Bool
  deriving DecidableEq, Repr

structure GenerateOptions where
  config : Path
  prompt : Bool
  component : Option String
  output : Option Path
  deriving DecidableEq, Repr

structure ThemesOptions where
  name : Option String
  themes : Option Path
  deriving DecidableEq, Repr

inductive Command where
  | version
  | compile (o : CompileOptions)
  | validate (o : ValidateOptions)
  | generate (o : GenerateOptions)
  | themes (o : ThemesOptions)
  deriving DecidableEq, Repr

namespace Command

def flagSpec (name : String) (letter : Option Char) : OptionSpec := ⟨name, letter, false⟩

def valueSpec (name : String) (letter : Option Char) : OptionSpec := ⟨name, letter, true⟩

/-- The options that stand before the name of a command. -/
def globalSpecs : List OptionSpec := [flagSpec "version" none, flagSpec "verbose" (some 'v')]

def compileSpecs : List OptionSpec :=
  [valueSpec "out" (some 'o'), flagSpec "minify" none, flagSpec "strict" none,
    valueSpec "prefix" none, valueSpec "theme" (some 't'), valueSpec "themes" none]

def validateSpecs : List OptionSpec := [valueSpec "usages" (some 'u'), flagSpec "strict" none]

def generateSpecs : List OptionSpec :=
  [flagSpec "prompt" none, valueSpec "component" (some 'c'), valueSpec "output" (some 'o')]

def themesSpecs : List OptionSpec := [valueSpec "themes" none]

/-- The only operand, if there is one; none if there are more. -/
def operand? (w : Words) : Option (Option String) :=
  match w.operands with
  | [] => some none
  | [a] => some (some a)
  | _ => none

/-- The path of the description of the system, by default the working directory. -/
def config? (w : Words) : Option Path := (operand? w).map fun a => .ofText (a.getD ".")

def path? (w : Words) (name : String) : Option Path := (w.value? name).map Path.ofText

def readCompile (w : Words) : Option Command := do
  return .compile {
    config := ← config? w
    out := (path? w "out").getD (.ofText "dist")
    short := w.flag "minify"
    strict := w.flag "strict"
    cssPrefix := w.value? "prefix"
    theme := w.value? "theme"
    themes := path? w "themes" }

def readValidate (w : Words) : Option Command := do
  return .validate ⟨← config? w, path? w "usages", w.flag "strict"⟩

def readGenerate (w : Words) : Option Command := do
  return .generate ⟨← config? w, w.flag "prompt", w.value? "component", path? w "output"⟩

def readThemes (w : Words) : Option Command := do
  return .themes ⟨← operand? w, path? w "themes"⟩

/-- The command of a name, from its words. -/
def named? (name : String) (words : List String) : Option Command :=
  let read (specs : List OptionSpec) (f : Words → Option Command) : Option Command :=
    (Words.read specs .none none words).bind f
  if name == "compile" then read compileSpecs readCompile
  else if name == "validate" then read validateSpecs readValidate
  else if name == "generate" then read generateSpecs readGenerate
  else if name == "themes" then read themesSpecs readThemes
  else none

/-- Is this word an option, as against the name of a command? -/
def isOption (word : String) : Bool :=
  match word.toList with
  | '-' :: _ :: _ => true
  | _ => false

/-- The command that a command line asks for, none if it asks for none. -/
def ofWords? (words : List String) : Option Command := do
  let front := words.takeWhile isOption
  let w ← Words.read globalSpecs .none none front
  if w.flag "version" then return .version
  match words.drop front.length with
  | [] => none
  | name :: rest => named? name rest

end Command

end Stylebook
