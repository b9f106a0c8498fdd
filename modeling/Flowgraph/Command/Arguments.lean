import Flowgraph.Command

/-!
# Reading arguments

Arguments are read from left to right. Switches begin with one dash and letters or with two dashes
and a name, and may stand among the other arguments; two dashes alone end them. A switch that
takes a value finds it in the same argument or in the next. The value is looked at only when
something else follows, so a switch that is not known is found first.

Main result: `Request.ofArguments` gives the request, or why there is none.
-/
namespace Flowgraph

inductive Request.Stop
  | help
  | version
  | nothingAsked
  | noCommand
  | unknownCommand (name : String)
  | noFile
  | unknownArgument (text : String)
  | noValue (what : String)
  | badValue (what reason : String)
  | unwantedValue (what : String)
  | repeated (what : String)
deriving DecidableEq, Repr

namespace Request

/-- Whether it is the user's wish that nothing is done. -/
def Stop.isWanted : Stop → Bool
  | help => true
  | version => true
  | _ => false

/-- What the switches and the other arguments say. -/
structure Settings where
  detailed : Bool
  overlay : Option String
  target : Option Form
  output : Option String
  report : ReportForm
  drawing : DrawingForm
  sources : List String
  whole : Bool
  files : List String

/-- What holds if nothing is said. -/
def Settings.start : Settings := ⟨false, none, none, none, .text, .text, [], false, []⟩

inductive Effect
  | stop (reason : Stop)
  | change (apply : Settings → Settings)
  /-- It takes a value. -/
  | take (apply : String → Settings → Except Stop Settings)

/-- A switch: its name, its letter if it has one, what it does, and whether it may stand more than
once. -/
structure Switch where
  name : String
  letter : Option Char
  effect : Effect
  repeatable : Bool

namespace Switch

/-- The path that a value is. -/
def path (what value : String) : Except Stop String :=
  if value = "" then .error (.noValue what) else .ok value

/-- The choice that a value is. -/
def choice {α : Type} (what : String) (ofName? : String → Option α) (unknown : String → String)
    (value : String) : Except Stop α :=
  match ofName? value with
  | some chosen => .ok chosen
  | none => .error (.badValue what (unknown value))

/-- Asks for help. -/
def help : Switch := ⟨"help", some 'h', .stop .help, false⟩

/-- Asks for the version. -/
def version : Switch := ⟨"version", some 'V', .stop .version, false⟩

/-- Asks for more to be said. -/
def verbose : Switch :=
  ⟨"verbose", some 'v', .change fun s => { s with detailed := true }, false⟩

/-- Names an overlay. -/
def overlay : Switch := ⟨"registry", some 'r', .take fun value s => do
  return { s with overlay := some (← path "registry" value) }, false⟩

/-- Chooses the form to convert to. -/
def target : Switch := ⟨"to", some 't', .take fun value s => do
  return { s with target := some (← choice "to" Form.ofName? Form.unknown value) }, false⟩

/-- Names the file to write to. -/
def output : Switch := ⟨"output", some 'o', .take fun value s => do
  return { s with output := some (← path "output" value) }, false⟩

/-- Chooses how a report is written. -/
def report : Switch := ⟨"format", some 'f', .take fun value s => do
  return { s with
    report := ← choice "format" ReportForm.ofName? ReportForm.unknown value }, false⟩

/-- Chooses how a graph is drawn. -/
def drawing : Switch := ⟨"format", some 'f', .take fun value s => do
  return { s with
    drawing := ← choice "format" DrawingForm.ofName? DrawingForm.unknown value }, false⟩

/-- Names a Python file to look through. -/
def source : Switch := ⟨"source", some 's', .take fun value s => do
  return { s with sources := s.sources ++ [← path "source" value] }, true⟩

/-- Asks for all nodes to be drawn. -/
def whole : Switch :=
  ⟨"raw", none, .change fun s => { s with whole := true }, false⟩

end Switch

/-- What may stand where no switch does. -/
inductive Operands
  /-- The name of a command, out of several. -/
  | command (names : List String)
  | file
  | patterns

/-- The switches and operands that are known at a place of the arguments. -/
structure Grammar where
  switches : List Switch
  operands : Operands

/-- The switches that are known everywhere. -/
def Grammar.common : List Switch := [.help, .verbose, .overlay]

/-- A value that was read but not looked at yet. -/
inductive Pending
  /-- The value of a switch, if it is there already. -/
  | value (switch : Switch) (apply : String → Settings → Except Stop Settings)
    (value : Option String)
  | file (path : String)

/-- What was read of the arguments. -/
structure Progress where
  settings : Settings
  /-- The names of the switches that were read. -/
  seen : List String
  pending : Option Pending
  /-- Whether a file was named. -/
  hasFile : Bool

namespace Progress

/-- Before anything is read. -/
def start (settings : Settings) : Progress := ⟨settings, [], none, false⟩

/-- Whether the value of a switch comes next. -/
def awaitsValue (progress : Progress) : Bool :=
  match progress.pending with
  | some (.value _ _ none) => true
  | _ => false

/-- Does what a switch says, unless it did so already. -/
def apply (switch : Switch) (change : Settings → Except Stop Settings) (progress : Progress) :
    Except Stop Progress := do
  if !switch.repeatable && progress.seen.contains switch.name then throw (.repeated switch.name)
  return { progress with
    settings := ← change progress.settings
    seen := switch.name :: progress.seen }

/-- Looks at the value that was not looked at yet. -/
def settle (progress : Progress) : Except Stop Progress := do
  let settled := { progress with pending := none }
  match progress.pending with
  | none => pure settled
  | some (.value switch _ none) => throw (.noValue switch.name)
  | some (.value switch change (some value)) => settled.apply switch (change value)
  | some (.file path) =>
    let path ← Switch.path "file" path
    return { settled with settings := { settled.settings with files := [path] } }

/-- Reads a switch, with the value that stands in the same argument. -/
def useSwitch (switch : Switch) (value : Option String) (progress : Progress) :
    Except Stop Progress := do
  match switch.effect, value with
  | .take change, none =>
    return { ← progress.settle with pending := some (.value switch change none) }
  | .take change, some value => (← progress.settle).apply switch (change value)
  | .change change, none => (← progress.settle).apply switch fun settings => .ok (change settings)
  | .stop reason, none => discard progress.settle; throw reason
  | _, some _ => throw (.unwantedValue switch.name)

/-- Reads a switch behind two dashes; an equals sign separates its value. -/
def readName (switches : List Switch) (text : String) (progress : Progress) :
    Except Stop Progress :=
  let (name, value) := match text.splitOn "=" with
    | [] => (text, none)
    | [name] => (name, none)
    | name :: parts => (name, some ("=".intercalate parts))
  match switches.find? fun switch => switch.name == name with
  | some switch => progress.useSwitch switch value
  | none => .error (.unknownArgument ("--" ++ text))

/-- Reads switches behind one dash; what follows a switch that takes a value is that value. -/
def readLetters (switches : List Switch) : List Char → Progress → Except Stop Progress
  | [], progress => .ok progress
  | letter :: rest, progress =>
    match switches.find? fun switch => switch.letter == some letter with
    | none => .error (.unknownArgument (String.ofList ['-', letter]))
    | some switch =>
      match switch.effect with
      | .take _ =>
        let value := match rest with
          | [] => none
          | '=' :: value => some (String.ofList value)
          | value => some (String.ofList value)
        progress.useSwitch switch value
      | _ => do readLetters switches rest (← progress.useSwitch switch none)

/-- Reads an argument that is no switch. -/
def readOperand (operands : Operands) (text : String) (progress : Progress) :
    Except Stop Progress := do
  match operands with
  | .command _ => throw (.unknownCommand text)
  | .file =>
    if progress.hasFile then throw (.unknownArgument text)
    return { ← progress.settle with pending := some (.file text), hasFile := true }
  | .patterns =>
    let progress ← progress.settle
    return { progress with
      settings := { progress.settings with files := progress.settings.files ++ [text] } }

/-- Reads an argument behind the two dashes that end the switches, where no command may stand. -/
def readLate (operands : Operands) (text : String) (progress : Progress) : Except Stop Progress :=
  match operands with
  | .command names =>
    .error (if names.contains text then .unknownArgument text else .unknownCommand text)
  | _ => progress.readOperand operands text

/-- Reads one argument in front of the two dashes that end the switches. -/
def readArgument (grammar : Grammar) (text : String) (progress : Progress) : Except Stop Progress :=
  match text.toList with
  | '-' :: '-' :: rest => progress.readName grammar.switches (String.ofList rest)
  | '-' :: letter :: rest => progress.readLetters grammar.switches (letter :: rest)
  | _ =>
    match progress.pending with
    | some (.value switch change none) =>
      .ok { progress with pending := some (.value switch change (some text)) }
    | _ => progress.readOperand grammar.operands text

end Progress

/-- Reads arguments up to the name of a command, and gives what follows that. -/
def Grammar.read (grammar : Grammar) :
    List String → Progress → Except Stop (Progress × Option (String × List String))
  | [], progress => .ok (progress, none)
  | "--" :: late, progress => do
    let operands := grammar.operands
    return (← late.foldlM (fun progress text => progress.readLate operands text) progress, none)
  | text :: rest, progress =>
    match grammar.operands with
    | .command names =>
      if names.contains text && !progress.awaitsValue then .ok (progress, some (text, rest))
      else do grammar.read rest (← progress.readArgument grammar text)
    | _ => do grammar.read rest (← progress.readArgument grammar text)

/-- A kind of command: what it is called, what may stand behind its name, and what it asks for. -/
structure Verb where
  name : String
  grammar : Grammar
  command : Settings → Option Command

namespace Verb

/-- A verb whose command works on one file. -/
def onFile (name : String) (switches : List Switch) (command : String → Settings → Command) :
    Verb :=
  ⟨name, ⟨Grammar.common ++ switches, .file⟩, fun s => s.files.head?.map (command · s)⟩

def all : List Verb := [
  onFile "validate" [] fun file _ => .validate file,
  onFile "convert" [.target, .output] fun file s => .convert file s.target s.output,
  onFile "preprocess" [.output] fun file s => .clean file s.output,
  ⟨"analyze", ⟨Grammar.common ++ [.report], .patterns⟩, fun s => some (.analyze s.files s.report)⟩,
  onFile "deps" [.source, .report] fun file s => .requirements file s.sources s.report,
  onFile "graph" [.drawing, .whole] fun file s => .draw file s.drawing s.whole]

/-- The request that arguments behind the name of a command make. -/
def request (verb : Verb) (arguments : List String) (settings : Settings) :
    Except Stop Request := do
  let (progress, _) ← verb.grammar.read arguments (.start settings)
  let settings := (← progress.settle).settings
  match verb.command settings with
  | some command => pure ⟨command, settings.detailed, settings.overlay⟩
  | none => throw .noFile

end Verb

/-- The word that asks for help on a command. -/
def helpWord : String := "help"

/-- What may stand in front of the name of a command. -/
def outerGrammar : Grammar :=
  ⟨.version :: Grammar.common, .command (helpWord :: Verb.all.map Verb.name)⟩

/-- Why asking for help on some words gives no request. -/
def helpOn : List String → Stop
  | [] => .help
  | word :: more =>
    if word = helpWord || (Verb.all.any fun verb => verb.name == word) then
      match more with
      | [] => .help
      | other :: _ => .unknownCommand other
    else .unknownCommand word

/-- The request that arguments make. What is wrong with them behind the name of a command comes
before a value in front of it that was not looked at yet. -/
def ofArguments (arguments : List String) : Except Stop Request := do
  let (progress, found) ← outerGrammar.read arguments (.start .start)
  match found with
  | none =>
    let progress ← progress.settle
    throw (if progress.seen.isEmpty then .nothingAsked else .noCommand)
  | some (word, rest) =>
    match Verb.all.find? fun verb => verb.name == word with
    | none => throw (helpOn rest)
    | some verb =>
      let settled := progress.settle
      let request ← verb.request rest (settled.toOption.getD progress).settings
      discard settled
      pure request

end Request

end Flowgraph
