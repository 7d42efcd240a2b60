import WorkflowDispatch.Text.Numeral
import WorkflowDispatch.Text.Printable
/-!
Quoted text, as it stands in messages.  Quoting leaves no line separator and no control character
in the text, so a quoted value cannot end the line that it stands in.
-/

namespace WorkflowDispatch
namespace Text

/-- Which characters are written as numbers: those that are not printable, or all beyond ASCII as
well. -/
inductive QuoteStyle where
  | printable
  | ascii

def QuoteStyle.shows : QuoteStyle → Char → Bool
  | .printable, c => isPrintable c
  | .ascii, c => c.toNat < 0x80 && isPrintable c

namespace Quoted

def singleQuote : Char := Char.ofNat 0x27

def doubleQuote : Char := Char.ofNat 0x22

/-- A text is put in single quotes unless that would force an escape which double quotes avoid. -/
def delimiter (cs : List Char) : Char :=
  if cs.contains singleQuote && !cs.contains doubleQuote then doubleQuote else singleQuote

/-- The number of a character in two, four or eight hexadecimal digits. -/
def numbered (c : Char) : List Char :=
  let n := c.toNat
  if n < 0x100 then '\\' :: 'x' :: hex 2 n
  else if n < 0x10000 then '\\' :: 'u' :: hex 4 n
  else '\\' :: 'U' :: hex 8 n

def escape (style : QuoteStyle) (delim c : Char) : List Char :=
  if c = delim || c = '\\' then ['\\', c]
  else if c = '\n' then ['\\', 'n']
  else if c = '\r' then ['\\', 'r']
  else if c = '\t' then ['\\', 't']
  else if style.shows c then [c]
  else numbered c

def encode (style : QuoteStyle) (cs : List Char) : List Char :=
  let delim := delimiter cs
  delim :: cs.flatMap (escape style delim) ++ [delim]

end Quoted

def quoteAs (style : QuoteStyle) (s : String) : String :=
  String.ofList (Quoted.encode style s.toList)

def quote (s : String) : String := quoteAs .printable s

/-- Bytes are quoted as the characters of the same number, with all beyond ASCII escaped, and
marked with a `b` in front. -/
def quoteBytes (bytes : List UInt8) : String :=
  String.ofList ('b' :: Quoted.encode .ascii (bytes.map (fun b => Char.ofNat b.toNat)))

end Text
end WorkflowDispatch
