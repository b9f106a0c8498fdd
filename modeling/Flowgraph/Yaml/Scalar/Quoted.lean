import Flowgraph.Text.Numeral
import Flowgraph.Yaml.Scalar.Gap

/-!
# Quoted scalars

Within single quotes everything stands for itself, and a quote is written twice. Within double
quotes a backslash begins an escape, also one that lets the line go on.

Main result: `quoted?` reads a scalar behind its opening quote.
-/
namespace Flowgraph.Yaml

/-- How many hexadecimal digits an escape takes. -/
def hexDigits : Char → Option Nat
  | 'x' => some 2
  | 'u' => some 4
  | 'U' => some 8
  | _ => none

/-- The character that an escape without digits stands for. -/
def escapeChar : Char → Option Char
  | '0' => some '\x00'
  | 'a' => some '\x07'
  | 'b' => some '\x08'
  | 't' => some '\t'
  | '\t' => some '\t'
  | 'n' => some '\n'
  | 'v' => some '\x0b'
  | 'f' => some '\x0c'
  | 'r' => some '\r'
  | 'e' => some '\x1b'
  | ' ' => some ' '
  | '"' => some '"'
  | '/' => some '/'
  | '\\' => some '\\'
  | 'N' => some '\u0085'
  | '_' => some '\u00a0'
  | 'L' => some '\u2028'
  | 'P' => some '\u2029'
  | _ => none

/-- The character of an escape, given what follows the backslash, and how many characters spell
it. -/
def escaped? : List Char → Option (Char × Nat)
  | [] => none
  | c :: rest =>
    match hexDigits c with
    | some count => do
      let (value, _) ← Text.hexValue count 0 rest
      if value.isValidChar then some (Char.ofNat value, count + 1) else none
    | none => (escapeChar c).map (·, 1)

/-- A scalar behind its opening quote, from what was read so far in reverse, and the place behind
its closing one; no mark between documents stands in it. -/
def quoted? (quote : Char) : Nat → List Char → Place → Option (String × Place)
  | 0, _, _ => none
  | fuel + 1, done, place =>
    let goOn := fun (gap, after) =>
      if Place.atDocumentMark after then none
      else quoted? quote fuel ((Gap.text gap).reverse ++ done) after
    match place.rest with
    | [] => none
    | c :: rest =>
      if c = quote then
        if quote = '\'' && rest.head? = some quote then
          quoted? quote fuel (quote :: done) (place.skip 2)
        else some (String.ofList done.reverse, place.step)
      else if isSpace c || isBreak c then (Gap.at? 0 fuel place).bind goOn
      else if quote = '"' && c = '\\' then
        if rest.isEmpty || !place.step.atLineEnd then do
          let (char, length) ← escaped? rest
          quoted? quote fuel (char :: done) (place.skip (length + 1))
        else (Gap.goesOn? 0 fuel [] [] place.step.lineBreak.2).bind goOn
      else quoted? quote fuel (c :: done) place.step

end Flowgraph.Yaml
