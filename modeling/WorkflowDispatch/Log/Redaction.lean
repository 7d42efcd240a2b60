import WorkflowDispatch.Bindings
import WorkflowDispatch.Text.Case
import WorkflowDispatch.Value.Text
/-!
Redaction: whatever stands under the name of a credential is replaced by a fixed mark before a log
record is written.  Names are looked at on every level of nested maps; lists are left alone.
-/

namespace WorkflowDispatch
namespace Log

/-- The `part` occurs somewhere in the text. -/
def occursIn (part : List Char) : List Char → Bool
  | [] => part.isEmpty
  | c :: cs => part.isPrefixOf (c :: cs) || occursIn part cs

/-- A name that contains one of these is the name of a credential. -/
def sensitiveParts : List String := ["authorization", "token", "secret", "password"]

/-- The name of a credential, in letters of any case.  The abbreviation for an access token counts
only as the whole name or as its last word. -/
def isSensitive (name : String) : Bool :=
  let lowered := (Text.lower name).toList
  lowered == "pat".toList || "_pat".toList.isSuffixOf lowered
    || sensitiveParts.any (fun part => occursIn part.toList lowered)

def redactedMark : String := "[REDACTED]"

/-- A map with the given names, where a later value for a name takes the place of the earlier
one. -/
def namedMap (entries : Bindings Value) : Value :=
  .map (entries.map (fun e => (.text e.1, e.2)))

mutual

/-- What may be shown of the value under a name. -/
def redact (name : String) (v : Value) : Value :=
  if isSensitive name then .text redactedMark
  else
    match v with
    | .map entries => namedMap (Bindings.ofPairs (redactEntries entries))
    | v => v

/-- The keys of a map count as names through their plain text. -/
def redactEntries : List (Value × Value) → List (String × Value)
  | [] => []
  | (k, v) :: rest => (k.plain, redact k.plain v) :: redactEntries rest

end

end Log
end WorkflowDispatch
