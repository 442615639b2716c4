import DiagramBridge.CommandLine.Input
import DiagramBridge.Settings.Basic

/-!
# Arguments

The first argument that is no option names a command; what follows are options of the command. A
long option may be cut short as long as only one option begins so, and takes its value behind an
equals sign or as the next argument. A short option takes its value also right behind its letter.
Options are taken one after the other, and the first thing that is wrong, or the first question for
help, ends it.
-/

namespace DiagramBridge.CommandLine

open Text

/-- The options. -/
inductive Opt where
  | help | input | output | page | direction | type | markdown | compress
  deriving DecidableEq, Repr

namespace Opt

/-- The long name of an option, without the dashes. -/
def longName : Opt → String
  | help => "help"
  | input => "input"
  | output => "output"
  | page => "page"
  | direction => "direction"
  | type => "type"
  | markdown => "markdown"
  | compress => "compress"

def letter? : Opt → Option Char
  | help => some 'h'
  | input => some 'i'
  | output => some 'o'
  | page => some 'p'
  | direction => some 'd'
  | type => some 't'
  | markdown | compress => none

/-- Whether an option has a value. -/
def takesValue : Opt → Bool
  | help | markdown | compress => false
  | input | output | page | direction | type => true

/-- The option with the given letter among some options. -/
def ofLetter? (opts : List Opt) (c : Char) : Option Opt :=
  opts.find? (·.letter? == some c)

/-- The option with the given long name among some options. -/
def ofLongName? (opts : List Opt) (name : List Char) : Option Opt :=
  opts.find? (·.longName.toList == name)

end Opt

/-- How parsing can end without a command. -/
inductive Stop where
  /-- Help was asked for. -/
  | help
  /-- The arguments make no sense. -/
  | misuse
  deriving DecidableEq, Repr

/-- The exit code of a program that stops so. -/
def Stop.exitCode : Stop → Nat
  | help => 0
  | misuse => 2

/-- What a single argument looks like. -/
inductive Arg where
  /-- The mark behind which there are no options. -/
  | separator
  /-- No option. -/
  | plain (text : String)
  /-- Something like an option, but none that is known. -/
  | unknown
  /-- A long option, and what stands behind its equals sign. -/
  | long (opt : Opt) (attached : Option (List Char))
  /-- A short option, and what stands right behind its letter. -/
  | short (opt : Opt) (attached : Option (List Char))
  deriving DecidableEq, Repr

/-- A decimal digit of any script. -/
def isDecimal (c : Char) : Bool :=
  (decimalValue? c).isSome

/-- Whether a text behind a dash makes the two a negative number. -/
def isNumeral (s : List Char) : Bool :=
  match s.span isDecimal with
  | (whole, []) => !whole.isEmpty
  | (_, '.' :: fraction) => !fraction.isEmpty && fraction.all isDecimal
  | _ => false

/-- An argument that begins with a dash but is no known option. -/
def undecided (text : String) (afterDash : List Char) : Arg :=
  if isNumeral afterDash || text.toList.contains ' ' then .plain text else .unknown

/-- A long option, cut short or not. An option that is written out is meant even if others begin
with its name. -/
def longArg (opts : List Opt) (text : String) (afterDashes : List Char) : Except Stop Arg :=
  let (name, attached) :=
    match cutAt? '=' afterDashes with
    | some (name, value) => (name, some value)
    | none => (afterDashes, none)
  match Opt.ofLongName? opts name with
  | some opt => .ok (.long opt attached)
  | none =>
    match opts.filter fun opt => name.isPrefixOf opt.longName.toList with
    | [opt] => .ok (.long opt attached)
    | [] => .ok (undecided text ('-' :: afterDashes))
    | _ :: _ :: _ => .error .misuse

/-- A short option. An equals sign right behind the letter is passed over. -/
def shortArg (opts : List Opt) (text : String) (c : Char) (afterLetter : List Char) : Arg :=
  match Opt.ofLetter? opts c with
  | some opt =>
    match afterLetter with
    | [] => .short opt none
    | '=' :: value => .short opt (some value)
    | value => .short opt (some value)
  | none => undecided text (c :: afterLetter)

/-- What an argument is, where some options are known. -/
def classify (opts : List Opt) (text : String) : Except Stop Arg :=
  match text.toList with
  | ['-', '-'] => .ok .separator
  | '-' :: '-' :: s => longArg opts text s
  | '-' :: c :: s => .ok (shortArg opts text c s)
  | _ => .ok (.plain text)

/-- What the arguments are. Nothing is an option behind a separator. -/
def classifyAll (opts : List Opt) : List String → Except Stop (List Arg)
  | [] => .ok []
  | text :: texts => do
    match ← classify opts text with
    | .separator => .ok (.separator :: texts.map .plain)
    | arg => return arg :: (← classifyAll opts texts)

/-- Flags that share one dash: the options from a flag on, and the value of the last one. Every
letter but that of the last one is that of a flag. -/
def cluster (opts : List Opt) (opt : Opt) : List Char → Except Stop (List Opt × Option (List Char))
  | [] => .ok ([opt], none)
  | c :: s =>
    if opt.takesValue then .ok ([opt], some (c :: s))
    else
      match Opt.ofLetter? opts c with
      | none => .error .misuse
      | some next => (cluster opts next s).map fun (found, value) => (opt :: found, value)

/-- The options of a short argument, and the value of the last one. Nothing at all behind an equals
sign is a value too. -/
def shortOptions (opts : List Opt) (opt : Opt) :
    Option (List Char) → Except Stop (List Opt × Option (List Char))
  | none => .ok ([opt], none)
  | some [] => if opt.takesValue then .ok ([opt], some []) else .error .misuse
  | some s => cluster opts opt s

/-- Whether the last of some options has a value. -/
def needsValue (found : List Opt) : Bool :=
  (found.getLast?.map (·.takesValue)).getD false

/-- The option values that were given, the last one first, and whether there was anything else. -/
structure Given where
  values : List (Opt × String)
  hasRest : Bool

namespace Given

/-- Nothing was given. -/
def nothing : Given := ⟨[], false⟩

/-- The value of an option. Of several the last counts. -/
def value? (g : Given) (opt : Opt) : Option String :=
  g.values.lookup opt

/-- Whether a flag was given. -/
def has (g : Given) (opt : Opt) : Bool :=
  (g.value? opt).isSome

/-- Takes options that share one dash, where the last has a value if it needs one. -/
def takeAll (check : Opt → String → Bool) (g : Given) (value : String) :
    List Opt → Except Stop Given
  | [] => .ok g
  | opt :: opts =>
    if opt = .help then .error .help
    else if opt.takesValue && !check opt value then .error .misuse
    else takeAll check { g with values := (opt, value) :: g.values } value opts

end Given

/-- Takes the options of a command from its arguments. `check` tells whether a value makes sense. -/
def takeOptions (opts : List Opt) (check : Opt → String → Bool) (g : Given) :
    List Arg → Except Stop Given
  | [] => .ok g
  | .separator :: _ => .ok { g with hasRest := true }
  | .plain _ :: args => takeOptions opts check { g with hasRest := true } args
  | .unknown :: args => takeOptions opts check { g with hasRest := true } args
  | .long opt attached :: args =>
    match attached, args with
    | some value, args =>
      if opt.takesValue then do
        let g ← g.takeAll check (String.ofList value) [opt]
        takeOptions opts check g args
      else .error .misuse
    | none, .plain value :: rest =>
      if opt.takesValue then do
        let g ← g.takeAll check value [opt]
        takeOptions opts check g rest
      else do
        let g ← g.takeAll check "" [opt]
        takeOptions opts check g (.plain value :: rest)
    | none, args =>
      if opt.takesValue then .error .misuse
      else do
        let g ← g.takeAll check "" [opt]
        takeOptions opts check g args
  | .short opt attached :: args =>
    match shortOptions opts opt attached, args with
    | .error stop, _ => .error stop
    | .ok (found, some value), args => do
      let g ← g.takeAll check (String.ofList value) found
      takeOptions opts check g args
    | .ok (found, none), .plain value :: rest =>
      if needsValue found then do
        let g ← g.takeAll check value found
        takeOptions opts check g rest
      else do
        let g ← g.takeAll check "" found
        takeOptions opts check g (.plain value :: rest)
    | .ok (found, none), args =>
      if needsValue found then .error .misuse
      else do
        let g ← g.takeAll check "" found
        takeOptions opts check g args

/-- The commands. -/
inductive Verb where
  | toMermaid | toDrawing | pages | validate | graph
  deriving DecidableEq, Repr

namespace Verb

/-- Every command. -/
def all : List Verb := [toMermaid, toDrawing, pages, validate, graph]

/-- The name of a command. -/
def name : Verb → String
  | toMermaid => "to-mermaid"
  | toDrawing => "to-drawio"
  | pages => "pages"
  | validate => "validate"
  | graph => "graph"

/-- The command with the given name. -/
def ofName? (s : String) : Option Verb :=
  all.find? (·.name == s)

/-- The options of a command. -/
def options : Verb → List Opt
  | toMermaid => [.help, .input, .output, .page, .direction, .type, .markdown]
  | toDrawing => [.help, .input, .output, .compress]
  | pages | validate => [.help, .input]
  | graph => [.help, .input, .output, .page]

end Verb

/-- A command with all that it needs to know. -/
inductive Command where
  | toMermaid (input : String) (output : Option String) (page : Int) (options : Options)
    (markdown : Bool)
  | toDrawing (input : String) (output : Option String) (compress : Bool)
  | pages (input : String)
  | validate (input : String)
  | graph (input : String) (output : Option String) (page : Int)
  deriving DecidableEq, Repr

def Command.input : Command → String
  | toMermaid input .. | toDrawing input .. | pages input | validate input | graph input .. => input

/-- The direction with the given name, in letters of any case. -/
def direction? (s : String) : Option Direction :=
  Direction.ofName? (onChars upper s)

/-- The choice of a diagram type with the given name, in letters of any case. -/
def typeChoice? (s : String) : Option TypeChoice :=
  TypeChoice.ofName? (onChars lower s)

def page? (s : String) : Option Int :=
  Numeral.readInt? s.toList

/-- Whether the value of an option makes sense. -/
def isSensible (opt : Opt) (value : String) : Bool :=
  match opt with
  | .page => (page? value).isSome
  | .direction => (direction? value).isSome
  | .type => (typeChoice? value).isSome
  | _ => true

/-- The command of a verb with the options that were given. A path that is empty is no path to write
to. -/
def Command.ofGiven (settings : Settings) (verb : Verb) (g : Given) (input : String) : Command :=
  let output := (g.value? .output).filter (· != "")
  let page := ((g.value? .page).bind page?).getD 0
  match verb with
  | .toMermaid =>
    let direction := ((g.value? .direction).bind direction?).getD settings.direction
    let type := ((g.value? .type).bind typeChoice?).getD settings.type
    .toMermaid input output page { direction, type } (g.has .markdown)
  | .toDrawing => .toDrawing input output (g.has .compress)
  | .pages => .pages input
  | .validate => .validate input
  | .graph => .graph input output page

/-- The command of a verb with the arguments behind it. -/
def Command.ofVerb (settings : Settings) (verb : Verb) (texts : List String) :
    Except Stop (Command × Bool) := do
  let args ← classifyAll verb.options texts
  let g ← takeOptions verb.options isSensible .nothing args
  match g.value? .input with
  | some input => .ok (Command.ofGiven settings verb g input, g.hasRest)
  | none => .error .misuse

/-- The command of some arguments. Where an argument that no one knows comes before the verb, help
may still be asked for behind it. -/
def Command.parse (settings : Settings) : List String → Except Stop Command
  | [] => .error .misuse
  | text :: texts => do
    match ← classify [.help] text with
    | .separator => .error .misuse
    | .unknown =>
      match Command.parse settings texts with
      | .error .help => .error .help
      | _ => .error .misuse
    | .long _ (some _) => .error .misuse
    | .long _ none => .error .help
    | .short _ none => .error .help
    | .short _ (some []) => .error .misuse
    | .short opt (some s) => do
      let _ ← cluster [.help] opt s
      .error .help
    | .plain name =>
      match Verb.ofName? name with
      | none => .error .misuse
      | some verb =>
        match ← Command.ofVerb settings verb texts with
        | (command, false) => .ok command
        | (_, true) => .error .misuse

end DiagramBridge.CommandLine
