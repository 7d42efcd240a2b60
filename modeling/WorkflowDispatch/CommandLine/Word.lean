import WorkflowDispatch.Text.Digit
import WorkflowDispatch.Text.Quoted
/-!
The words of a command line: which of them are options, in a scope that knows certain options.
Long options may be shortened to any beginning that fits one of them only.
-/

namespace WorkflowDispatch
namespace CommandLine

inductive Command where
  | dispatch
  | showTarget
  deriving DecidableEq, Repr

def Command.name : Command → String
  | .dispatch => "dispatch"
  | .showTarget => "show-target"

inductive Switch where
  | help
  | version
  | dryRun
  deriving DecidableEq, Repr

/-- All spellings of a switch, as messages give them. -/
def Switch.title : Switch → String
  | .help => "-h/--help"
  | .version => "--version"
  | .dryRun => "--dry-run"

/-- The spellings of options in a scope. -/
abbrev Options := List (String × Switch)

def helpOptions : Options := [("-h", .help), ("--help", .help)]

/-- The options before the command. -/
def topOptions : Options := helpOptions ++ [("--version", .version)]

/-- The options behind a command. -/
def Command.options : Command → Options
  | .dispatch => helpOptions ++ [("--dry-run", .dryRun)]
  | .showTarget => helpOptions

inductive Misuse where
  | ambiguous (word : String) (options : List String)
  | unwantedValue (switch : Switch) (value : String)
  | unknownCommand (word : String)
  | commandMissing
  | unknownWords (words : List String)
  deriving DecidableEq, Repr

def Misuse.message : Misuse → String
  | .ambiguous word options =>
    "ambiguous option: " ++ word ++ " could match " ++ ", ".intercalate options
  | .unwantedValue switch value =>
    "argument " ++ switch.title ++ ": ignored explicit argument " ++ Text.quote value
  | .unknownCommand word =>
    "argument command: invalid choice: " ++ Text.quote word ++ " (choose from "
      ++ ", ".intercalate ([Command.dispatch, .showTarget].map (fun c => Text.quote c.name)) ++ ")"
  | .commandMissing => "the following arguments are required: command"
  | .unknownWords words => "unrecognized arguments: " ++ " ".intercalate words

/-! ## Classes of words -/

/-- A word in its scope.  A value is what was written behind an option in the same word; `short`
tells that the option was spelled with one letter. -/
inductive Word where
  | plain (text : String)
  | separator
  | option (switch : Switch) (short : Bool) (value : Option String)
  | unknown (text : String)
  deriving DecidableEq, Repr

/-- A negative number with or without a fraction; one line break at the end is overlooked. -/
def isNegativeNumber (word : String) : Bool :=
  match word.toList with
  | '-' :: cs =>
    let cs := if cs.getLast? = some '\n' then cs.dropLast else cs
    let rest := cs.dropWhile Text.isDigit
    match rest with
    | [] => !cs.isEmpty
    | '.' :: fraction => !fraction.isEmpty && fraction.all Text.isDigit
    | _ => false
  | _ => false

/-- The word before its first equals sign, and the value behind it. -/
def splitValue (word : String) : String × Option String :=
  let name := word.toList.takeWhile (· != '=')
  match word.toList.dropWhile (· != '=') with
  | _ :: value => (String.ofList name, some (String.ofList value))
  | [] => (word, none)

def startsWith (beginning word : String) : Bool := beginning.toList.isPrefixOf word.toList

/-- The options that a word with two dashes may be short for. -/
def expansions (options : Options) (name : String) : Options :=
  options.filter (fun o => startsWith name o.1)

/-- A word that is no option of the scope: a number, or with a blank inside, it is an ordinary
word. -/
def otherWord (word : String) : Word :=
  if isNegativeNumber word || word.toList.contains ' ' then .plain word else .unknown word

def classifyLong (options : Options) (word : String) : Except Misuse Word :=
  let (name, value) := splitValue word
  match expansions options name with
  | [] => .ok (otherWord word)
  | [o] => .ok (.option o.2 false value)
  | several => .error (.ambiguous word (several.map Prod.fst))

/-- An option of one letter may have its value directly behind the letter. -/
def classifyShort (options : Options) (word : String) : Word :=
  match options.lookup (String.ofList (word.toList.take 2)) with
  | some switch => .option switch true (some (String.ofList (word.toList.drop 2)))
  | none => otherWord word

def isShort (name : String) : Bool := name.length == 2

/-- The class of a word other than the separator. -/
def classify (options : Options) (word : String) : Except Misuse Word :=
  match word.toList with
  | '-' :: second :: _ =>
    match options.lookup word with
    | some switch => .ok (.option switch (isShort word) none)
    | none =>
      let (name, value) := splitValue word
      match value, options.lookup name with
      | some v, some switch => .ok (.option switch (isShort name) (some v))
      | _, _ =>
        if second = '-' then classifyLong options word else .ok (classifyShort options word)
  | _ => .ok (.plain word)

/-- The classes of all words.  Behind the separator every word is an ordinary one. -/
def classifyAll (options : Options) : List String → Except Misuse (List Word)
  | [] => .ok []
  | word :: rest =>
    if word = "--" then .ok (.separator :: rest.map .plain)
    else do
      let first ← classify options word
      let others ← classifyAll options rest
      return first :: others

/-- A switch takes no value.  Behind a single letter, further letters `h` repeat the option, and any
other letter makes the word a misuse, so that not even the help before it is given.  That is how
the standard parser of arguments reads a word up to version 3.11.8; later ones give the help. -/
def switchMisuse (switch : Switch) (short : Bool) (value : Option String) : Option Misuse :=
  match value with
  | none => none
  | some v =>
    let rest := if short then String.ofList (v.toList.dropWhile (· == 'h')) else v
    if short && rest.isEmpty && !v.isEmpty then none else some (.unwantedValue switch rest)

end CommandLine
end WorkflowDispatch
