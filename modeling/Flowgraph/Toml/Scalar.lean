import Flowgraph.Text.Scan
import Flowgraph.Toml

/-!
# TOML scalars

Texts in quotes or apostrophes, on one line or over several, whole numbers to four bases, floats,
and dates and times.

Main result: `Toml.scalar` reads any of them.
-/
namespace Flowgraph.Toml

open Text Text.Scan

def lineBreak : Scan Unit := exactly "\n" <|> exactly "\r\n"

/-- Whether a character is a blank within a line. -/
def isBlankChar (c : Char) : Bool := c = ' ' || c = '\t'

/-- The blanks that follow on the line. -/
def blanks : Scan Unit := discard (run isBlankChar)

/-- Whether a character may stand in a comment or a text without being escaped. -/
def isPlainChar (c : Char) : Bool := c = '\t' || (' ' ≤ c && c ≠ '\x7f')

/-- The character of a code point in so many hexadecimal digits. -/
def codePoint (count : Nat) : Scan Char := do
  let value ← hex count
  if value.isValidChar then pure (Char.ofNat value) else failure

/-- An escaped character. -/
def escape : Scan Char := do
  exactly "\\"
  match ← one fun _ => true with
  | 'b' => pure '\x08'
  | 't' => pure '\t'
  | 'n' => pure '\n'
  | 'f' => pure '\x0c'
  | 'r' => pure '\r'
  | '"' => pure '"'
  | '\\' => pure '\\'
  | 'u' => codePoint 4
  | 'U' => codePoint 8
  | _ => failure

/-- A line break behind a backslash, with all blanks and line breaks after it. -/
def joinedLines : Scan Unit := do
  exactly "\\"
  blanks
  lineBreak
  discard (many (lineBreak <|> discard (one isBlankChar)))

/-- A character that stands for itself between quotes. -/
def quotable : Scan Char := one fun c => isPlainChar c && c ≠ '"' && c ≠ '\\'

/-- A character that stands for itself between apostrophes. -/
def literal : Scan Char := one fun c => isPlainChar c && c ≠ '\''

def lineText : Scan String :=
  (do exactly "\""
      let chars ← many (quotable <|> escape)
      exactly "\""
      pure (String.ofList chars))
  <|> (do
      exactly "'"
      let chars ← many literal
      exactly "'"
      pure (String.ofList chars))

/-- One or two marks, of which three would end the text. -/
def fewMarks (mark : Char) : Scan (List Char) := do
  let marks ← run (· = mark)
  if marks.length = 1 || marks.length = 2 then pure marks else failure

/-- A text over several lines between three marks on each side, from its parts. The marks at its end
may be five, and those before the last three belong to it. -/
def blockText (mark : Char) (part : Scan (List Char)) : Scan String := do
  exactly (String.ofList [mark, mark, mark])
  discard (optional lineBreak)
  let parts ← many (part <|> fewMarks mark)
  let marks ← run (· = mark)
  if 3 ≤ marks.length && marks.length ≤ 5 then
    pure (String.ofList (parts.flatten ++ marks.drop 3))
  else failure

/-- A line break inside a text. -/
def innerBreak : Scan (List Char) := lineBreak *> pure ['\n']

def linesText : Scan String :=
  blockText '"' ((([·]) <$> quotable) <|> (joinedLines *> pure []) <|> (([·]) <$> escape)
    <|> innerBreak)
  <|> blockText '\'' ((([·]) <$> literal) <|> innerBreak)

/-- Digits, with single underscores between them. -/
def digitsBy (isDigit : Char → Bool) : Scan (List Char) := do
  return (← one isDigit) :: (← many (one isDigit <|> (exactly "_" *> one isDigit)))

/-- Digits without a leading zero. -/
def decimal : Scan (List Char) := do
  match ← one isDigit with
  | '0' => pure ['0']
  | first => return first :: (← many (one isDigit <|> (exactly "_" *> one isDigit)))

/-- Whether a sign is there, and it is a minus. -/
def sign : Scan Bool :=
  (exactly "-" *> pure true) <|> (exactly "+" *> pure false) <|> pure false

/-- An exponent behind its letter. -/
def exponent : Scan Int := do
  discard (oneOf ['e', 'E'])
  let negative ← sign
  let value := digitsValue (← digitsBy isDigit)
  pure (if negative then -value else value)

/-- The least decimal that is beyond the largest finite number. -/
def beyondFinite : Nat := 1 <<< 1024 - 1 <<< 970

/-- Whether digits times a power of ten are beyond the largest finite number. -/
def isBeyond (digits : List Char) (power : Int) : Bool :=
  let digits := digits.dropWhile (· = '0')
  let magnitude := digits.length + power
  if digits.isEmpty || magnitude < 309 then false
  else if 309 < magnitude then true
  else beyondFinite * Nat.pow 10 (-power).toNat ≤ digitsValue digits * Nat.pow 10 power.toNat

/-- A number with a point or an exponent; beyond the finite numbers it is refused unless
negative. -/
def spelledFloat : Scan Unit := do
  let negative ← sign
  let whole ← decimal
  let places ← (exactly "." *> digitsBy isDigit) <|> pure []
  let power ← optional exponent
  if places.isEmpty && power.isNone then failure
  if !negative && isBeyond (whole ++ places) (power.getD 0 - places.length) then failure

/-- A number with a point or an exponent, an infinity or no number. -/
def floatText : Scan String :=
  spelling (spelledFloat <|> (do discard sign; exactly "inf" <|> exactly "nan"))

/-- A whole number in digits to a base behind its mark. -/
def basedInteger (mark : String) (base : Nat) (isDigit : Char → Bool) : Scan Nat := do
  exactly mark
  let digits ← digitsBy isDigit
  pure (digits.foldl (fun n c => n * base + (hexDigit? c).getD 0) 0)

/-- A whole number that fits 64 bits with a sign. -/
def wholeNumber : Scan Int := do
  let value : Int ←
    (Int.ofNat <$> (basedInteger "0x" 16 (fun c => (hexDigit? c).isSome)
      <|> basedInteger "0o" 8 (fun c => '0' ≤ c && c ≤ '7')
      <|> basedInteger "0b" 2 (fun c => c = '0' || c = '1')))
    <|> (do
      let negative ← sign
      let value := digitsValue (← decimal)
      pure (if negative then -Int.ofNat value else Int.ofNat value))
  if Int64.minValue.toInt ≤ value && value ≤ Int64.maxValue.toInt then pure value else failure

/-- A number in so many decimal digits, within bounds. -/
def bounded (count least most : Nat) : Scan Nat := do
  let digits ← (List.replicate count (one isDigit)).mapM id
  let value := digitsValue digits
  if least ≤ value && value ≤ most then pure value else failure

/-- The number of days of a month. -/
def daysIn (year month : Nat) : Nat :=
  if month = 2 then if year % 4 = 0 && (year % 100 ≠ 0 || year % 400 = 0) then 29 else 28
  else if [4, 6, 9, 11].contains month then 30 else 31

/-- A date. -/
def date : Scan Unit := do
  let year ← bounded 4 0 9999
  exactly "-"
  let month ← bounded 2 1 12
  exactly "-"
  discard (bounded 2 1 (daysIn year month))

/-- A time of day. -/
def time : Scan Unit := do
  discard (bounded 2 0 23)
  exactly ":"
  discard (bounded 2 0 59)
  exactly ":"
  discard (bounded 2 0 60)
  discard (optional (do exactly "."; discard (one isDigit); discard (run isDigit)))

/-- How far local time is from universal time. -/
def offset : Scan Unit :=
  discard (oneOf ['Z', 'z'])
  <|> (do
    discard (oneOf ['+', '-'])
    discard (bounded 2 0 23)
    exactly ":"
    discard (bounded 2 0 59))

/-- A date, a time or both. -/
def momentText : Scan String :=
  spelling ((do
    date
    discard (optional (do
      discard (oneOf ['T', 't', ' '])
      time
      discard (optional offset))))
    <|> time)

/-- A value that is neither list nor table. -/
def scalar : Scan Toml :=
  (text <$> linesText) <|> (text <$> lineText)
  <|> (exactly "true" *> pure (truth true)) <|> (exactly "false" *> pure (truth false))
  <|> (moment <$> momentText) <|> (float <$> floatText) <|> (integer <$> wholeNumber)

end Flowgraph.Toml
