import Arazzo.Loading.Files

/-!
# Options

What a command line asks for. The command `run` takes one path and options in any order; an option may
be a word behind two dashes, with its value behind an equals sign or as the next argument, or a letter
behind one dash, with others and its value behind it. Of an option that is given once too often the last
value counts, except for those that collect values.
-/

namespace Arazzo
namespace CommandLine

open Text

inductive Setting where
  | input
  | inputsFile
  | workflow
  | config
  | output
  | verbose
  | help
deriving DecidableEq, Repr

namespace Setting

def takesValue : Setting → Bool
  | .verbose => false
  | .help => false
  | _ => true

def ofName? (name : String) : Option Setting :=
  [("input", .input), ("inputs-file", .inputsFile), ("workflow", .workflow), ("config", .config),
   ("output", .output), ("verbose", .verbose), ("help", .help)].lookup name

def ofLetter? (letter : Char) : Option Setting :=
  [('i', .input), ('w', .workflow), ('o', .output), ('v', .verbose), ('h', .help)].lookup letter

end Setting

/-- What one argument is. -/
inductive Argument where
  | operand
  | endOfOptions
  | settings (given : List (Setting × String))
  /-- The last setting takes the next argument as its value. -/
  | awaiting (given : List (Setting × String)) (last : Setting)
  | unknown
deriving Repr

namespace Argument

def withSetting (s : Setting) : Argument → Argument
  | .settings given => .settings ((s, "") :: given)
  | .awaiting given last => .awaiting ((s, "") :: given) last
  | other => other

/-- Letters behind a dash. -/
def ofLetters : List Char → Argument
  | [] => .settings []
  | c :: cs => match Setting.ofLetter? c with
    | none => .unknown
    | some s =>
      if !s.takesValue then (ofLetters cs).withSetting s
      else if cs.isEmpty then .awaiting [] s
      else .settings [(s, String.ofList cs)]

/-- A word behind two dashes. -/
def ofWord (cs : List Char) : Argument :=
  let (name, value) := match cutAt '=' cs with
    | some (name, value) => (name, some (String.ofList value))
    | none => (cs, none)
  match Setting.ofName? (String.ofList name), value with
  | none, _ => .unknown
  | some s, some value => if s.takesValue then .settings [(s, value)] else .unknown
  | some s, none => if s.takesValue then .awaiting [] s else .settings [(s, "")]

def ofText (text : String) : Argument :=
  match text.toList with
  | ['-', '-'] => .endOfOptions
  | '-' :: '-' :: cs => ofWord cs
  | '-' :: c :: cs => ofLetters (c :: cs)
  | _ => .operand

end Argument

/-- The settings and the other arguments of a command. -/
structure Arguments where
  settings : List (Setting × String)
  operands : List String
deriving Repr

def Arguments.withSettings (given : List (Setting × String)) (a : Arguments) : Arguments :=
  { a with settings := given ++ a.settings }

def Arguments.read? : List String → Option Arguments
  | [] => some ⟨[], []⟩
  | text :: rest => match Argument.ofText text with
    | .operand => (read? rest).map fun a => { a with operands := text :: a.operands }
    | .endOfOptions => some ⟨[], rest⟩
    | .settings given => (read? rest).map (withSettings given)
    | .awaiting given last => match rest with
      | value :: rest => (read? rest).map (withSettings (given ++ [(last, value)]))
      | [] => none
    | .unknown => none

namespace Arguments

def all (s : Setting) (a : Arguments) : List String :=
  (a.settings.filter fun given => given.1 = s).map Prod.snd

def last? (s : Setting) (a : Arguments) : Option String := (a.all s).getLast?

end Arguments

structure Options where
  path : String
  inputs : List String
  inputsFile : Option String
  workflowIds : List String
  config : Option String
  output : Option String
  verbose : Bool
deriving Repr

/-- What a command line asks for. -/
inductive Invocation where
  | run (options : Options)
  | help
  | version
  | refused
deriving Repr

namespace Invocation

/-- The run that arguments ask for. The files that they name must exist. -/
def ofArguments (isFile : String → Bool) (a : Arguments) : Invocation :=
  let named := (a.last? .inputsFile).toList ++ (a.last? .config).toList
  if !(a.all .help).isEmpty then .help
  else match a.operands with
    | [path] =>
      if (path :: named).all isFile then
        .run ⟨path, a.all .input, a.last? .inputsFile, a.all .workflow, a.last? .config,
          a.last? .output, !(a.all .verbose).isEmpty⟩
      else .refused
    | _ => .refused

/-- What an option in front of the command asks for. -/
def ofOption? (text : String) : Option Invocation :=
  if text = "--help" then some .help
  else if text = "--version" then some .version
  else match text.toList with
    | '-' :: 'h' :: letters => if letters.all (· = 'h') then some .help else none
    | _ => none

def isOption (text : String) : Bool :=
  match text.toList with
  | '-' :: _ :: _ => true
  | _ => false

/-- The command and its arguments. -/
def ofCommand (isFile : String → Bool) : List String → Invocation
  | "run" :: rest => match Arguments.read? rest with
    | some a => ofArguments isFile a
    | none => .refused
  | _ => .refused

/-- The invocation of a whole command line, the name of the program left out. The options in front of
the command must all be known, and the first of them decides. -/
def ofTexts (isFile : String → Bool) : List String → Invocation :=
  go none
where
  go (asked : Option Invocation) : List String → Invocation
    | [] => asked.getD .refused
    | text :: rest =>
      if text = "--" then asked.getD (ofCommand isFile rest)
      else if isOption text then match ofOption? text with
        | some invocation => go (asked.or (some invocation)) rest
        | none => .refused
      else asked.getD (ofCommand isFile (text :: rest))

end Invocation

/-- Whether a text names a file; one that ends like the name of a directory does not. -/
def isFile (files : Files) (text : String) : Bool :=
  let cs := text.toList
  !endsWith ['/'] cs && !endsWith ['/', '.'] cs && (files (.ofText text)).isSome

end CommandLine
end Arazzo
