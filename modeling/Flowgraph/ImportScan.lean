import Flowgraph.Ascending
import Flowgraph.Text.Pattern
import Flowgraph.Unicode.Blank

/-!
# Scanning for imports

The packages that Python source needs, as far as its import statements name them. A statement is
looked for at the start of each line, behind blanks; an import statement names several modules,
separated by commas, up to a semicolon, a comment or the end of the line, and a from statement
names one. What is installed for a module is named after its first part, with some exceptions.

Main result: `ImportScan.packages` is the set of what the statements name.
-/
namespace Flowgraph.ImportScan

/-- The modules that are installed under another name. -/
def aliases : List (String × String) := [
  ("PIL", "pillow"), ("cv2", "opencv-python"), ("sklearn", "scikit-learn"),
  ("skimage", "scikit-image"), ("yaml", "pyyaml"), ("bs4", "beautifulsoup4"),
  ("dateutil", "python-dateutil"), ("dotenv", "python-dotenv"), ("git", "GitPython"),
  ("Crypto", "pycryptodome"), ("fitz", "PyMuPDF"), ("jwt", "PyJWT"), ("magic", "python-magic"),
  ("docx", "python-docx"), ("serial", "pyserial"), ("zmq", "pyzmq"), ("OpenGL", "PyOpenGL"),
  ("attr", "attrs"), ("segment_anything", "segment-anything")]

/-- What is installed for a module. -/
def distribution (module : String) : String := (aliases.lookup module).getD module

/-- Whether a character separates words of a statement. -/
def isGap (c : Char) : Bool := c = ' ' || c = '\t'

/-- Whether a module's name can begin with a character. -/
def beginsName (c : Char) : Bool :=
  ('a' ≤ c && c ≤ 'z') || ('A' ≤ c && c ≤ 'Z') || c = '_'

/-- Whether a character can be part of a module's dotted name. -/
def inDottedName (c : Char) : Bool := Unicode.isWord c || c = '.'

/-- Whether a character can be part of the list of an import statement. -/
def inList (c : Char) : Bool := c != '\n' && c != '#' && c != ';'

/-- A from statement up to its second keyword; the first group is its module. -/
def fromPattern : Pattern := .inOrder [.word "from", .atLeastOne isGap,
  .group 1 (.inOrder [.one beginsName, .many inDottedName]), .atLeastOne isGap, .word "import",
  .wordEdge]

/-- An import statement; the second group is its list. -/
def importPattern : Pattern :=
  .inOrder [.word "import", .atLeastOne isGap, .group 2 (.atLeastOne inList)]

/-- A statement at the start of a line, behind blanks. -/
def statement : Pattern :=
  .inOrder [.lineStart, .many isGap, .either fromPattern importPattern]

/-- The parts of a text between commas. -/
def commaParts : List Char → List (List Char)
  | [] => [[]]
  | c :: rest =>
    if c = ',' then [] :: commaParts rest
    else
      match commaParts rest with
      | [] => [[c]]
      | part :: more => (c :: part) :: more

/-- A text without the backslashes at its end. -/
def dropBackslashes (text : List Char) : List Char := (text.reverse.dropWhile (· = '\\')).reverse

/-- The modules of the list of an import statement: the first word of each part. -/
def listedModules (list : List Char) : List (List Char) :=
  let bare := Unicode.trim (fun c => Unicode.isBlank c || c = '(' || c = ')') (dropBackslashes list)
  (commaParts bare).filterMap fun part => (Unicode.words part).head?

/-- The modules that a statement names. -/
def modules (groups : List (Nat × List Char)) : List (List Char) :=
  match groups.lookup 1 with
  | some name => [name]
  | none => ((groups.lookup 2).map listedModules).getD []

/-- The package of a module: what is installed for its first part, if that is not empty. -/
def package? (module : List Char) : Option String :=
  match module.takeWhile (· != '.') with
  | [] => none
  | top => some (distribution (String.ofList top))

/-- The packages that a source names, in the order of their characters. -/
def packages (source : String) : List String :=
  nameSet (((statement.found source.toList).flatMap modules).filterMap package?)

end Flowgraph.ImportScan
