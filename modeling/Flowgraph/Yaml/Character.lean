/-!
# Characters of YAML

The classes of characters that the grammar speaks of. Besides the usual ones, three more characters
end a line: the next-line control and the separators of lines and of paragraphs.
-/
namespace Flowgraph.Yaml

/-- Whether a character is a blank within a line. -/
def isSpace (c : Char) : Bool := c = ' ' || c = '\t'

/-- Whether a character ends a line. -/
def isBreak (c : Char) : Bool := ['\n', '\r', '\u0085', '\u2028', '\u2029'].contains c

/-- Whether a text is at its end or goes on with a blank or a line break. -/
def atGap : List Char → Bool
  | [] => true
  | c :: _ => isSpace c || isBreak c

/-- Whether a character may stand in the name of an anchor, a directive or a handle of tags. -/
def isNameChar (c : Char) : Bool := c.isAlphanum || c = '_' || c = '-'

/-- Whether a character separates the parts of a flow collection. -/
def isFlowMark (c : Char) : Bool := [',', '[', ']', '\x7b', '\x7d'].contains c

/-- Whether a character may stand in a document. -/
def isAllowed (c : Char) : Bool :=
  c = '\t' || c = '\n' || c = '\r' || (' ' ≤ c && c ≤ '~') || c = '\u0085'
    || ('\u00a0' ≤ c && c != '\uFFFE' && c != '\uFFFF')

end Flowgraph.Yaml
