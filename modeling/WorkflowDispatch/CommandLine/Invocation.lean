import WorkflowDispatch.Client
import WorkflowDispatch.CommandLine.Word
/-!
What a command line asks for, and the texts that answer it when nothing is to be run.
-/

namespace WorkflowDispatch
namespace CommandLine

/-- The scope of help and of a misuse is a command, or the program as a whole. -/
inductive Invocation where
  | run (command : Command) (dryRun : Bool)
  | help (scope : Option Command)
  | version
  | misuse (scope : Option Command) (cause : Misuse)
  deriving DecidableEq, Repr

/-! ## Reading -/

/-- The words behind a command that were understood: whether the dry run was asked for, and the
words that were not understood. -/
structure Tail where
  dryRun : Bool
  unknown : List String

def Tail.withUnknown (t : Tail) (word : String) : Tail := { t with unknown := word :: t.unknown }

def Tail.withDryRun (t : Tail) : Tail := { t with dryRun := true }

/-- Help ends the reading at once. -/
def readTail (command : Command) : List Word → Except Invocation Tail
  | [] => .ok ⟨false, []⟩
  | .plain text :: rest => (readTail command rest).map (·.withUnknown text)
  | .unknown text :: rest => (readTail command rest).map (·.withUnknown text)
  | .separator :: rest => (readTail command rest).map (·.withUnknown "--")
  | .option switch short value :: rest =>
    match switchMisuse switch short value with
    | some m => .error (.misuse (some command) m)
    | none =>
      match switch with
      | .dryRun => (readTail command rest).map Tail.withDryRun
      | .help => .error (.help (some command))
      | .version => .error .version

/-- The command with the words behind it.  Words that were not understood, before the command or
behind it, are reported together. -/
def readCommand (unknown : List String) (name : String) (words : List String) : Invocation :=
  match [Command.dispatch, .showTarget].find? (·.name == name) with
  | none => .misuse none (.unknownCommand name)
  | some command =>
    match classifyAll command.options words with
    | .error m => .misuse (some command) m
    | .ok classified =>
      match readTail command classified with
      | .error invocation => invocation
      | .ok tail =>
        match unknown ++ tail.unknown with
        | [] => .run command tail.dryRun
        | all => .misuse none (.unknownWords all)

/-- Walks to the command, `words` being the words themselves and the list their classes.  A
separator with words behind it is taken for the command. -/
def readHead (unknown : List String) : List Word → List String → Invocation
  | .plain _ :: _, word :: words => readCommand unknown word words
  | .separator :: .plain _ :: _, word :: words => readCommand unknown word words
  | .unknown text :: rest, _ :: words => readHead (unknown ++ [text]) rest words
  | .option switch short value :: rest, _ :: words =>
    match switchMisuse switch short value with
    | some m => .misuse none m
    | none =>
      match switch with
      | .help => .help none
      | .version => .version
      | .dryRun => readHead unknown rest words
  | _, _ => .misuse none .commandMissing

/-- What the words ask for.  All words are classified in the scope of the program first, so a word
that could be short for several options is a misuse wherever it stands. -/
def read (words : List String) : Invocation :=
  match classifyAll topOptions words with
  | .error m => .misuse none m
  | .ok classified => readHead [] classified words

/-! ## Texts -/

/-- The name under which a scope reports misuse. -/
def scopeName : Option Command → String
  | none => Client.programName
  | some command => Client.programName ++ " " ++ command.name

def usage : Option Command → String
  | none => "usage: docs-changelog-trigger [-h] [--version] \x7bdispatch,show-target\x7d ...\n"
  | some .dispatch => "usage: docs-changelog-trigger dispatch [-h] [--dry-run]\n"
  | some .showTarget => "usage: docs-changelog-trigger show-target [-h]\n"

def helpText : Option Command → String
  | none =>
    usage none ++ "\nDispatch the docs changelog workflow in the target repository\n"
      ++ "\npositional arguments:\n"
      ++ "  \x7bdispatch,show-target\x7d\n"
      ++ "    dispatch            Authenticate, then send one workflow_dispatch request\n"
      ++ "    show-target         Print the resolved dispatch endpoint and payload as\n"
      ++ "                        JSON\n"
      ++ "\noptions:\n"
      ++ "  -h, --help            show this help message and exit\n"
      ++ "  --version             show program's version number and exit\n"
  | some .dispatch =>
    usage (some .dispatch) ++ "\noptions:\n"
      ++ "  -h, --help  show this help message and exit\n"
      ++ "  --dry-run   Print the request that would be sent without contacting GitHub\n"
  | some .showTarget =>
    usage (some .showTarget) ++ "\noptions:\n"
      ++ "  -h, --help  show this help message and exit\n"

def versionText : String := Client.programName ++ " " ++ Client.programVersion ++ "\n"

def misuseText (scope : Option Command) (m : Misuse) : String :=
  usage scope ++ scopeName scope ++ ": error: " ++ m.message ++ "\n"

end CommandLine
end WorkflowDispatch
