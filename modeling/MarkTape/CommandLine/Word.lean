import MarkTape.Text.Written

/-!
# Words of a command line

The options of the command line, what can be wrong with one, and how its arguments are told apart.

* `Flag`: the options;
* `Flag.spellings`: how each is written, in the order in which they are listed;
* `Flag.takesValue`: whether a value belongs to it;
* `Flag.title`: how it is named in a complaint;
* `usage`, `help`: what the program says about itself;
* `UsageError`: what is wrong with a command line;
* `UsageError.report`: the complaint, after the usage;
* `Word`: the classes of arguments;
* `candidates`: the options that an argument may mean;
* `Word.ofArg`, `words`: one argument and all of them.
-/

namespace MarkTape.CommandLine

/-! ### Options -/

/-- The options. -/
inductive Flag
  | help
  | expr
  | markers
  | maxSteps
  | trace
  deriving DecidableEq

namespace Flag

/-- Every spelling of every option. -/
def spellings : List (String × Flag) :=
  [("-h", .help), ("--help", .help), ("-e", .expr), ("--expr", .expr), ("--markers", .markers),
   ("--max-steps", .maxSteps), ("--trace", .trace)]

/-- The option with a given spelling. -/
def ofSpelling? (s : String) : Option Flag := spellings.lookup s

/-- The option needs a value. -/
def takesValue : Flag → Bool
  | .expr | .maxSteps => true
  | _ => false

/-- The option as it is named in a complaint: all its spellings. -/
def title (f : Flag) : String :=
  "/".intercalate ((spellings.filter (·.2 = f)).map (·.1))

end Flag

/-! ### Usage -/

/-- The shape of a command line. -/
def usage : String :=
  "usage: bfrw [-h] [-e EXPR] [--markers] [--max-steps MAX_STEPS] [--trace]\n" ++
  "            [file]\n"

/-- The full help. -/
def help : String :=
  usage ++
  "\n" ++
  "Run a < > + - tape program and print the final tape.\n" ++
  "\n" ++
  "positional arguments:\n" ++
  "  file                  Program file (default: stdin)\n" ++
  "\n" ++
  "options:\n" ++
  "  -h, --help            show this help message and exit\n" ++
  "  -e EXPR, --expr EXPR  Program text given on the command line\n" ++
  "  --markers             Show cells as bracketed markers instead of integers\n" ++
  "  --max-steps MAX_STEPS\n" ++
  "                        Abort after this many instructions\n" ++
  "  --trace               Print one line per executed instruction to stderr\n"

/-- What is wrong with a command line. -/
inductive UsageError
  /-- An abbreviation fits several options. -/
  | ambiguous (arg : String) (fits : List String)
  /-- A value was attached to an option that takes none. -/
  | ignoredValue (flag : Flag) (value : String)
  /-- An option that needs a value has none. -/
  | missingValue (flag : Flag)
  /-- The step limit is no integer. -/
  | notInteger (text : String)
  /-- A program text was given after a file. -/
  | exprAfterFile
  /-- A file was given after a program text. -/
  | fileAfterExpr
  /-- Some arguments have no place. -/
  | leftOver (args : List String)
  /-- The settings were refused. -/
  | refused (message : String)
  deriving DecidableEq

namespace UsageError

/-- What is said about it. -/
def message : UsageError → String
  | .ambiguous arg fits => "ambiguous option: " ++ arg ++ " could match " ++ ", ".intercalate fits
  | .ignoredValue flag value =>
    "argument " ++ flag.title ++ ": ignored explicit argument " ++ Text.quote value
  | .missingValue flag => "argument " ++ flag.title ++ ": expected one argument"
  | .notInteger text =>
    "argument " ++ Flag.maxSteps.title ++ ": invalid int value: " ++ Text.quote text
  | .exprAfterFile => "argument " ++ Flag.expr.title ++ ": not allowed with argument file"
  | .fileAfterExpr => "argument file: not allowed with argument " ++ Flag.expr.title
  | .leftOver args => "unrecognized arguments: " ++ " ".intercalate args
  | .refused message => message

/-- The complaint as it is printed. -/
def report (e : UsageError) : String := usage ++ "bfrw: error: " ++ e.message ++ "\n"

end UsageError

/-! ### Arguments by their shape

Before anything is acted on, every argument is told apart by its shape. An argument that begins
with a dash is an option if it is spelled like one, in full or abbreviated, with or without an
attached value; it is plain if it looks like a negative number or holds a space; and otherwise
it is an unknown option. After the first `--` every argument is plain.
-/

/-- An argument, told apart by its shape. -/
inductive Word
  /-- A value, or the program file. -/
  | plain (text : String)
  /-- The first `--`. -/
  | separator
  /-- An option as spelled, with the value attached to it, if any. -/
  | option (spelling : String) (flag : Flag) (attached : Option String)
  /-- Something spelled like an option that is none. -/
  | unknown (text : String)
  deriving DecidableEq

/-- What stands before and after the first `=`. -/
def splitEquals? (arg : String) : Option (String × String) :=
  let cs := arg.toList
  match cs.dropWhile (· ≠ '=') with
  | [] => none
  | _ :: value => some (String.ofList (cs.takeWhile (· ≠ '=')), String.ofList value)

/-- The argument is a dash, digits of any script, and possibly a point among them with a digit
after it; one newline may follow. -/
def looksNegative (arg : String) : Bool :=
  match arg.toList with
  | '-' :: cs =>
    let body := if cs.getLast? = some '\n' then cs.dropLast else cs
    match body.dropWhile Text.isDecimalDigit with
    | [] => !body.isEmpty
    | '.' :: fraction => !fraction.isEmpty && fraction.all Text.isDecimalDigit
    | _ => false
  | _ => false

/-- The options that `arg` may stand for. After two dashes it may be an abbreviation, with a value
after an equals sign; after one dash its first letter may be an option and the rest its value. -/
def candidates (arg : String) : List (String × Flag × Option String) :=
  match arg.toList with
  | '-' :: '-' :: _ =>
    let (short, attached) := match splitEquals? arg with
      | some (name, value) => (name, some value)
      | none => (arg, none)
    (Flag.spellings.filter fun (s, _) => short.toList.isPrefixOf s.toList).map
      fun (s, f) => (s, f, attached)
  | '-' :: c :: value =>
    (Flag.spellings.filter fun (s, _) => s.toList = ['-', c]).map
      fun (s, f) => (s, f, some (String.ofList value))
  | _ => []

/-- An argument that begins with a dash and is not spelled like an option in full. -/
def Word.ofDashed (arg : String) : Except UsageError Word :=
  match candidates arg with
  | [(s, f, attached)] => .ok (.option s f attached)
  | [] =>
    if looksNegative arg || arg.toList.contains ' ' then .ok (.plain arg) else .ok (.unknown arg)
  | many => .error (.ambiguous arg (many.map (·.1)))

/-- The class of an argument. -/
def Word.ofArg (arg : String) : Except UsageError Word :=
  if arg.toList.head? ≠ some '-' || arg = "-" then .ok (.plain arg)
  else
    match Flag.ofSpelling? arg with
    | some f => .ok (.option arg f none)
    | none =>
      match splitEquals? arg with
      | none => Word.ofDashed arg
      | some (s, value) =>
        match Flag.ofSpelling? s with
        | some f => .ok (.option s f (some value))
        | none => Word.ofDashed arg

/-- The classes of all arguments; the first ambiguous one is refused. -/
def words : List String → Except UsageError (List Word)
  | [] => .ok []
  | arg :: args =>
    if arg = "--" then .ok (.separator :: args.map .plain)
    else do
      let w ← Word.ofArg arg
      let ws ← words args
      return w :: ws

end MarkTape.CommandLine
