import WorkflowDispatch.Binary64.Shortest
import WorkflowDispatch.Text.Quoted
import WorkflowDispatch.Value.Basic
/-!
The two texts of a value: the plain one, in which a text stands for itself, and the quoted one, in
which it stands in quotes.  Inside lists, tuples and maps every text is quoted.
-/

namespace WorkflowDispatch
namespace Value

/-- What is shown in place of a secret, unless it is empty. -/
def maskedSecret (s : String) : String := if s.isEmpty then "" else "**********"

def truthText (b : Bool) : String := if b then "True" else "False"

mutual

def quoted (style : Text.QuoteStyle) : Value → String
  | .none => "None"
  | .bool b => truthText b
  | .int i => Text.decimal i
  | .float x => x.text
  | .text s => Text.quoteAs style s
  | .list items => "[" ++ ", ".intercalate (quotedItems style items) ++ "]"
  | .tuple items =>
    match quotedItems style items with
    | [item] => "(" ++ item ++ ",)"
    | parts => "(" ++ ", ".intercalate parts ++ ")"
  | .map entries => "\x7b" ++ ", ".intercalate (quotedEntries style entries) ++ "\x7d"
  | .secret s => "SecretStr(" ++ Text.quote (maskedSecret s) ++ ")"
  | .path p => "PurePosixPath(" ++ Text.quoteAs style p ++ ")"
  | .bytes b => Text.quoteBytes b

def quotedItems (style : Text.QuoteStyle) : List Value → List String
  | [] => []
  | v :: rest => quoted style v :: quotedItems style rest

def quotedEntries (style : Text.QuoteStyle) : List (Value × Value) → List String
  | [] => []
  | (k, v) :: rest => (quoted style k ++ ": " ++ quoted style v) :: quotedEntries style rest

end

def plain : Value → String
  | .text s => s
  | .secret s => maskedSecret s
  | .path p => p
  | v => quoted .printable v

end Value
end WorkflowDispatch
