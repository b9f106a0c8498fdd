/-!
# Lines of a report

The marks and headings that all reports for readers share.

Main result: each line ends with a line break, and a title is underlined to forty columns at least.
-/
namespace Flowgraph.Report

def line (text : String) : String := text ++ "\n"

def gap : String := line ""

/-- A title with a line under it. -/
def title (text : String) : String :=
  line text ++ line (String.ofList (List.replicate (max text.length 40) '═'))

def heading (text : String) : String := gap ++ line (text ++ ":")

def bullet (text : String) : String := line ("  • " ++ text)

/-- Something that is as it should be. -/
def good (text : String) : String := line ("  ✓ " ++ text)

def bad (text : String) : String := line ("  ✗ " ++ text)

def doubtful (text : String) : String := line ("  ⚠ " ++ text)

/-- A part that is there only if there is something to list. -/
def part {α : Type} (text : String) (item : α → String) (items : List α) : String :=
  if items.isEmpty then "" else heading text ++ String.join (items.map item)

/-- A text filled up with blanks to so many columns. -/
def padded (columns : Nat) (text : String) : String :=
  text ++ String.ofList (List.replicate (columns - text.length) ' ')

def listed (names : List String) : String := ", ".intercalate names

end Flowgraph.Report
