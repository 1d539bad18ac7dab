import BulkSweep.Command.Basic
import BulkSweep.Numeric.Reading

/-!
# Command lines

A command line is a list of words: options of the program, the name of a command, and the options and
words of that command.  An option has a long name after two dashes, and perhaps a letter after one.
Its value stands behind an equals sign, right after the letter, or in the next word.  Two dashes alone
end the options.
-/

set_option autoImplicit false

namespace BulkSweep.Arguments

open BulkSweep.Numeric

/-! ## Options -/

/-- The options. -/
inductive Flag where
  /-- the file of settings -/
  | config
  /-- the folder of the collections -/
  | dataFolder
  /-- the collection -/
  | collection
  /-- the filter -/
  | filter
  /-- the size of a batch -/
  | batchSize
  /-- the pause between batches -/
  | pauseMs
  /-- whether matches are only counted -/
  | dryRun
  /-- the file for events -/
  | auditLog
  /-- the update -/
  | update
  /-- asks for the usage -/
  | help
  /-- asks for the version -/
  | version
  deriving DecidableEq, Repr, Inhabited

namespace Flag

/-- The long name of an option. -/
def long : Flag → String
  | config => "config"
  | dataFolder => "data-dir"
  | collection => "collection"
  | filter => "filter"
  | batchSize => "batch-size"
  | pauseMs => "pause-ms"
  | dryRun => "dry-run"
  | auditLog => "output"
  | update => "update"
  | help => "help"
  | version => "version"

/-- The letter of an option. -/
def letter? : Flag → Option Char
  | dataFolder => some 'd'
  | collection => some 'c'
  | filter => some 'f'
  | batchSize => some 'b'
  | auditLog => some 'o'
  | help => some 'h'
  | version => some 'V'
  | config | pauseMs | dryRun | update => none

/-- Whether an option has a value. -/
def hasValue : Flag → Bool
  | dryRun | help | version => false
  | _ => true

/-- Whether the value of an option is a number, which may begin with a dash. -/
def isNumber : Flag → Bool
  | batchSize | pauseMs => true
  | _ => false

/-- Whether the value of an option is a path, which is not empty. -/
def isPath : Flag → Bool
  | config | dataFolder | auditLog => true
  | _ => false

end Flag

/-- The options before a command. -/
def programFlags : List Flag :=
  [.config, .help, .version]

/-- The options of a command that only prints. -/
def printFlags : List Flag :=
  [.config, .help]

/-- The options of a bulk deletion. -/
def deleteFlags : List Flag :=
  [.dataFolder, .collection, .filter, .batchSize, .pauseMs, .dryRun, .auditLog, .config, .help]

/-- The options of a bulk update. -/
def updateFlags : List Flag :=
  .update :: deleteFlags

/-! ## Errors -/

/-- Why words are no command line. -/
inductive UsageError where
  /-- no command is named -/
  | noCommand
  /-- there is no such command -/
  | unknownCommand (name : String)
  /-- a word that has no place here -/
  | unexpected (word : String)
  /-- an option without its value -/
  | missingValue (flag : Flag)
  /-- a value for an option that has none -/
  | needlessValue (flag : Flag)
  /-- an option that is given twice -/
  | repeated (flag : Flag)
  /-- a value that an option does not take -/
  | badValue (flag : Flag) (value : String)
  /-- an option that is needed -/
  | missing (flag : Flag)
  /-- no expression is given -/
  | noExpression
  deriving DecidableEq, Repr, Inhabited

/-- The message of an error. -/
def UsageError.message : UsageError → String
  | noCommand => "a command is needed"
  | unknownCommand name => "there is no command '" ++ name ++ "'"
  | unexpected word => "unexpected argument '" ++ word ++ "'"
  | missingValue flag => "a value is needed for '--" ++ flag.long ++ "'"
  | needlessValue flag => "'--" ++ flag.long ++ "' takes no value"
  | repeated flag => "'--" ++ flag.long ++ "' is given more than once"
  | badValue flag value => "'" ++ value ++ "' is no value for '--" ++ flag.long ++ "'"
  | missing flag => "'--" ++ flag.long ++ "' is needed"
  | noExpression => "an expression is needed"

/-! ## Words -/

/-- What a word is. -/
inductive Word where
  /-- two dashes alone -/
  | ending
  /-- a long name, with a value behind an equals sign or without -/
  | long (name : String) (value : Option String)
  /-- a letter after one dash, with what follows it -/
  | letter (c : Char) (rest : List Char)
  /-- anything else -/
  | plain
  deriving DecidableEq, Repr, Inhabited

/-- What a word is. -/
def Word.of (word : String) : Word :=
  match word.toList with
  | ['-', '-'] => ending
  | '-' :: '-' :: cs =>
    let (name, value) := splitAtFirst (· == '=') cs
    long (String.ofList name) (value.map String.ofList)
  | '-' :: c :: rest => letter c rest
  | _ => plain

/-- The option of a long name. -/
def ofLong? (flags : List Flag) (name : String) : Option Flag :=
  flags.find? fun flag => flag.long == name

/-- The option of a letter. -/
def ofLetter? (flags : List Flag) (c : Char) : Option Flag :=
  flags.find? fun flag => flag.letter? == some c

/-- Whether a word can be the value of the option before it: it does not look like an option, unless
it is a number and a number is due. -/
def canFollow (flag : Flag) (word : String) : Bool :=
  match Word.of word with
  | .plain => true
  | .letter c rest => flag.isNumber && (c :: rest).all Char.isDigit
  | _ => false

/-! ## Scanning -/

/-- The options given, with their values. -/
abbrev Given : Type :=
  List (Flag × String)

/-- Why scanning ends early. -/
inductive Halt where
  /-- the usage is asked for -/
  | help
  /-- the version is asked for -/
  | version
  /-- the words are no command line -/
  | usage (cause : UsageError)
  deriving DecidableEq, Repr, Inhabited

/-- Notes an option with its value. -/
def give (given : Given) (flag : Flag) (value : String) : Except Halt Given :=
  if (given.lookup flag).isSome then .error (.usage (.repeated flag))
  else if flag.isNumber && (readSized 64 value.toList).isNone then
    .error (.usage (.badValue flag value))
  else if flag.isPath && value.isEmpty then .error (.usage (.missingValue flag))
  else .ok ((flag, value) :: given)

/-- Notes an option without value. -/
def raise (given : Given) : Flag → Except Halt Given
  | .help => .error .help
  | .version => .error .version
  | flag => give given flag ""

/-- What was scanned. -/
structure Scanned where
  /-- the options -/
  given : Given
  /-- the words that belong to no option -/
  words : List String
  /-- the words after the first of them, when scanning ends there -/
  rest : List String
  deriving Repr, Inhabited

/-- Scans words.  With `atWord`, scanning ends at the first word that belongs to no option. -/
def scan (flags : List Flag) (atWord : Bool) (given : Given) (words : List String) :
    List String → Except Halt Scanned
  | [] => .ok ⟨given, words.reverse, []⟩
  | word :: rest =>
    match Word.of word with
    | .ending => .ok ⟨given, words.reverse ++ rest, []⟩
    | .plain =>
      if atWord then .ok ⟨given, [], word :: rest⟩ else scan flags atWord given (word :: words) rest
    | .long name attached =>
      match ofLong? flags name with
      | none => .error (.usage (.unexpected word))
      | some flag =>
        match flag.hasValue, attached with
        | false, some _ => .error (.usage (.needlessValue flag))
        | false, none => do scan flags atWord (← raise given flag) words rest
        | true, some value => do scan flags atWord (← give given flag value) words rest
        | true, none =>
          match rest with
          | [] => .error (.usage (.missingValue flag))
          | value :: rest =>
            if canFollow flag value then do scan flags atWord (← give given flag value) words rest
            else .error (.usage (.missingValue flag))
    | .letter c attached =>
      match ofLetter? flags c with
      | none => .error (.usage (.unexpected word))
      | some flag =>
        match flag.hasValue, attached with
        | false, [] => do scan flags atWord (← raise given flag) words rest
        | false, _ => do
          let _ ← raise given flag
          .error (.usage (.unexpected word))
        | true, '=' :: value => do
          scan flags atWord (← give given flag (String.ofList value)) words rest
        | true, c :: value => do
          scan flags atWord (← give given flag (String.ofList (c :: value))) words rest
        | true, [] =>
          match rest with
          | [] => .error (.usage (.missingValue flag))
          | value :: rest =>
            if canFollow flag value then do scan flags atWord (← give given flag value) words rest
            else .error (.usage (.missingValue flag))

/-! ## Commands -/

/-- A command with the file of settings that goes with it. -/
structure Invocation where
  /-- the file of settings -/
  config : Option String
  /-- the command -/
  command : Command
  deriving DecidableEq, Repr, Inhabited

/-- The number of an option. -/
def numberOf (given : Given) (flag : Flag) : Option Int :=
  (given.lookup flag).bind fun value => readSized 64 value.toList

/-- The options of a bulk operation; the collection is needed. -/
def bulkOptions (given : Given) : Except Halt BulkOptions :=
  match given.lookup .collection with
  | none => .error (.usage (.missing .collection))
  | some collection =>
    .ok {
      dataFolder := given.lookup .dataFolder
      collection := collection
      filter := (given.lookup .filter).getD "\x7b\x7d"
      batchSize := numberOf given .batchSize
      pauseMs := numberOf given .pauseMs
      dryRun := (given.lookup .dryRun).isSome
      auditLog := given.lookup .auditLog }

/-- The single word of a command that prints an expression. -/
def expression : List String → Except Halt String
  | [] => .error (.usage .noExpression)
  | [word] => .ok word
  | _ :: word :: _ => .error (.usage (.unexpected word))

/-- Refuses words that belong to no option. -/
def noWords : List String → Except Halt Unit
  | [] => .ok ()
  | word :: _ => .error (.usage (.unexpected word))

/-- The names of the commands. -/
def commandNames : List String :=
  ["bulk-delete", "bulk-update", "normalize", "parse", "help"]

/-- What the words after `help` ask for: the usage, perhaps with the name of one command. -/
def helpOn : List String → Halt
  | [] => .help
  | [word] => if commandNames.contains word then .help else .usage (.unknownCommand word)
  | word :: next :: _ =>
    .usage (.unknownCommand (if commandNames.contains word then next else word))

/-- Reads the words after the name of a command. -/
def readCommand (name : String) (rest : List String) : Except Halt (Given × Command) := do
  match name with
  | "bulk-delete" =>
    let s ← scan deleteFlags false [] [] rest
    noWords s.words
    return (s.given, .delete (← bulkOptions s.given))
  | "bulk-update" =>
    let s ← scan updateFlags false [] [] rest
    noWords s.words
    return (s.given, .update (← bulkOptions s.given) (s.given.lookup .update))
  | "normalize" =>
    let s ← scan printFlags false [] [] rest
    return (s.given, .normalize (← expression s.words))
  | "parse" =>
    let s ← scan printFlags false [] [] rest
    return (s.given, .parse (← expression s.words))
  | "help" => .error (helpOn rest)
  | other => .error (.usage (.unknownCommand other))

/-- Reads a command line.  The file of settings may be named before the command and after it; the
later one counts. -/
def read (args : List String) : Except Halt Invocation := do
  let s ← scan programFlags true [] [] args
  noWords s.words
  match s.rest with
  | [] => .error (.usage .noCommand)
  | name :: rest =>
    let (given, command) ← readCommand name rest
    return ⟨(given.lookup .config).or (s.given.lookup .config), command⟩

/-! ## Usage -/

/-- A short description of the command line. -/
def usage : String :=
  "Throttled bulk delete/update over NDJSON collections\n\n"
  ++ "Usage: docbulk [--config PATH] COMMAND\n\n"
  ++ "Commands:\n"
  ++ "  bulk-delete -c NAME [-d PATH] [-f FILTER] [-b SIZE] [--pause-ms MS] [--dry-run] [-o PATH]\n"
  ++ "  bulk-update -c NAME --update UPDATE [and the options of bulk-delete]\n"
  ++ "  normalize EXPRESSION\n"
  ++ "  parse EXPRESSION\n"

/-- The name of the program with its version. -/
def versionLine : String :=
  "docbulk 0.1.0"

end BulkSweep.Arguments
