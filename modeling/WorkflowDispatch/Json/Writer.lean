import WorkflowDispatch.Binary64.Shortest
import WorkflowDispatch.Json.Basic
/-!
Writing JSON: on one line, or indented with one value per line.  A written text has no character
below U+0020 other than the line breaks of the indented form.
-/

namespace WorkflowDispatch
namespace Json

/-- Which characters beyond ASCII are written as they are. -/
inductive Charset where
  | unicode
  | ascii

namespace Writer

/-- One UTF-16 unit as an escape. -/
def unitEscape (n : Nat) : List Char := '\\' :: 'u' :: Text.hex 4 n

/-- A character past U+FFFF takes two escapes. -/
def numbered (n : Nat) : List Char :=
  if n < 0x10000 then unitEscape n
  else unitEscape (0xD800 + (n - 0x10000) / 0x400) ++ unitEscape (0xDC00 + (n - 0x10000) % 0x400)

/-- In ASCII the delete character U+007F is escaped as well. -/
def shows : Charset → Char → Bool
  | .unicode, c => 0x20 ≤ c.toNat
  | .ascii, c => 0x20 ≤ c.toNat && c.toNat < 0x7F

def escape (charset : Charset) (c : Char) : List Char :=
  if c.toNat = 0x22 then ['\\', c]
  else if c = '\\' then ['\\', '\\']
  else if c = '\n' then ['\\', 'n']
  else if c = '\r' then ['\\', 'r']
  else if c = '\t' then ['\\', 't']
  else if c.toNat = 0x08 then ['\\', 'b']
  else if c.toNat = 0x0C then ['\\', 'f']
  else if shows charset c then [c]
  else numbered c.toNat

end Writer

def textBody (charset : Charset) (s : String) : String :=
  String.ofList (s.toList.flatMap (Writer.escape charset))

def writeText (charset : Charset) (s : String) : String :=
  "\"" ++ textBody charset s ++ "\""

mutual

/-- The document on one line. -/
def write (charset : Charset) : Json → String
  | .null => "null"
  | .bool b => if b then "true" else "false"
  | .int i => Text.decimal i
  | .float x => x.documentText
  | .text s => writeText charset s
  | .array items => "[" ++ ", ".intercalate (writeItems charset items) ++ "]"
  | .object members => "\x7b" ++ ", ".intercalate (writeMembers charset members) ++ "\x7d"

def writeItems (charset : Charset) : List Json → List String
  | [] => []
  | v :: rest => write charset v :: writeItems charset rest

def writeMembers (charset : Charset) : List (String × Json) → List String
  | [] => []
  | (name, v) :: rest =>
    (writeText charset name ++ ": " ++ write charset v) :: writeMembers charset rest

end

/-- The parts one to a line, two blanks further in than the brackets around them. -/
def writeBlock (indent : Nat) (opening closing : String) : List String → String
  | [] => opening ++ closing
  | parts =>
    let inner := "\n" ++ String.ofList (List.replicate (indent + 2) ' ')
    opening ++ inner ++ ("," ++ inner).intercalate parts ++ "\n"
      ++ String.ofList (List.replicate indent ' ') ++ closing

mutual

/-- The document with every item and member on a line of its own, in ASCII. -/
def writeIndented (indent : Nat) : Json → String
  | .array items => writeBlock indent "[" "]" (writeItemsIndented (indent + 2) items)
  | .object members =>
    writeBlock indent "\x7b" "\x7d" (writeMembersIndented (indent + 2) members)
  | .null => "null"
  | .bool b => if b then "true" else "false"
  | .int i => Text.decimal i
  | .float x => x.documentText
  | .text s => writeText .ascii s

def writeItemsIndented (indent : Nat) : List Json → List String
  | [] => []
  | v :: rest => writeIndented indent v :: writeItemsIndented indent rest

def writeMembersIndented (indent : Nat) : List (String × Json) → List String
  | [] => []
  | (name, v) :: rest =>
    (writeText .ascii name ++ ": " ++ writeIndented indent v)
      :: writeMembersIndented indent rest

end

end Json
end WorkflowDispatch
