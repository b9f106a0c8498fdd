import Flowgraph.Command.Arguments

/-!
# Usage

What the program says when its arguments give no request.

Main result: `Request.Stop.message`.
-/
namespace Flowgraph.Request

/-- The name under which the program is called. -/
def programName : String := "nodeflow"

def programVersion : String := "0.1.0"

def Switch.usage (switch : Switch) : String :=
  let value := match switch.effect with
    | .take _ => " <" ++ switch.name ++ ">"
    | _ => ""
  "[--" ++ switch.name ++ value ++ "]"

def Verb.usage (verb : Verb) : String :=
  let operand := match verb.grammar.operands with
    | .command _ => ""
    | .file => " <file>"
    | .patterns => " <file>..."
  programName ++ " " ++ verb.name ++ operand
    ++ String.join (verb.grammar.switches.map fun switch => " " ++ switch.usage)

def usage : String := "Usage:\n" ++ "\n".intercalate (Verb.all.map fun verb => "  " ++ verb.usage)

/-- What is said when arguments give no request. -/
def Stop.message : Stop → String
  | help => usage
  | version => programName ++ " " ++ programVersion
  | nothingAsked => usage
  | noCommand => "A command is missing.\n\n" ++ usage
  | unknownCommand name => "There is no command '" ++ name ++ "'.\n\n" ++ usage
  | noFile => "A file is missing.\n\n" ++ usage
  | unknownArgument text => "The argument '" ++ text ++ "' was not expected."
  | noValue what => "A value for '" ++ what ++ "' is missing."
  | badValue what reason => "The value for '" ++ what ++ "' is wrong: " ++ reason
  | unwantedValue what => "No value was expected for '" ++ what ++ "'."
  | repeated what => "'" ++ what ++ "' was given more than once."

end Flowgraph.Request
