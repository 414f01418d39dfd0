import MarkTape.CommandLine.Word
import MarkTape.Text.Numbers

/-!
# Settings from a command line

The words are acted on from left to right. The first plain word that is not the value of an
option is the program file; whatever has no place is collected and refused at the end. Asking
for help ends everything at once.

* `Settings`: what a command line asks for;
* `Stop`: why there are none;
* `Occurrence.ofWord`: the options that one word holds;
* `Reading.take`: the effect of one option;
* `Settings.ofArgs`: the whole.
-/

namespace MarkTape.CommandLine

/-- What a command line asks for. An option whose attached value is `--` counts as given without
a value, because the first `--` among the values of anything is dropped. -/
structure Settings where
  file : Option String := none
  expr : Option (Option String) := none
  markers : Bool := false
  limit : Option (Option Int) := none
  trace : Bool := false
  deriving DecidableEq

/-- Why a command line gives no settings. -/
inductive Stop
  /-- Help was asked for. -/
  | help
  /-- The command line is wrong. -/
  | wrong (error : UsageError)
  deriving DecidableEq

/-- An option that was met, with the value attached to it. -/
structure Occurrence where
  flag : Flag
  attached : Option String
  deriving DecidableEq

/-- The occurrence still needs a value from the next word. -/
def Occurrence.isOpen (o : Occurrence) : Bool := o.flag.takesValue && o.attached.isNone

/-- The options held by one word in which `value` is attached to `flag`. An option of a single
letter that takes no value may be followed by further letters. -/
def Occurrence.ofAttached (flag : Flag) (single : Bool) :
    List Char → Except UsageError (List Occurrence)
  | [] =>
    if flag.takesValue then .ok [⟨flag, some ""⟩] else .error (.ignoredValue flag "")
  | c :: cs =>
    if flag.takesValue then .ok [⟨flag, some (String.ofList (c :: cs))⟩]
    else if !single then .error (.ignoredValue flag (String.ofList (c :: cs)))
    else
      match Flag.ofSpelling? (String.ofList ['-', c]) with
      | none => .error (.ignoredValue flag (String.ofList (c :: cs)))
      | some next =>
        if cs.isEmpty then .ok [⟨flag, none⟩, ⟨next, none⟩]
        else (Occurrence.ofAttached next true cs).map (⟨flag, none⟩ :: ·)

/-- The options held by one word. -/
def Occurrence.ofWord (spelling : String) (flag : Flag) :
    Option String → Except UsageError (List Occurrence)
  | none => .ok [⟨flag, none⟩]
  | some value => Occurrence.ofAttached flag (spelling.length = 2) value.toList

/-- The settings so far, whether the program file may still come, and what has had no place. -/
structure Reading where
  settings : Settings
  fileOpen : Bool
  leftOver : List String

namespace Reading

/-- Nothing has been read. -/
def start : Reading := ⟨{}, true, []⟩

/-- The argument has no place. -/
def leave (r : Reading) (arg : String) : Reading := { r with leftOver := r.leftOver ++ [arg] }

/-- The value of an option; `--` is dropped. -/
def keepValue (value : String) : Option String := if value = "--" then none else some value

/-- The effect of an option with its value. A value is read before it is held against what was
given earlier, and the last of several values counts. -/
def take (r : Reading) (flag : Flag) (value : String) : Except Stop Reading :=
  let s := r.settings
  match flag with
  | .help => .error .help
  | .markers => .ok { r with settings := { s with markers := true } }
  | .trace => .ok { r with settings := { s with trace := true } }
  | .expr =>
    if s.file.isSome then .error (.wrong .exprAfterFile)
    else .ok { r with settings := { s with expr := some (keepValue value) } }
  | .maxSteps =>
    match keepValue value with
    | none => .ok { r with settings := { s with limit := some none } }
    | some text =>
      match Text.readInteger? text with
      | none => .error (.wrong (.notInteger text))
      | some n => .ok { r with settings := { s with limit := some (some n) } }

/-- The effect of the options held by one word; `value` is for the one that needs it. -/
def takeAll (r : Reading) (os : List Occurrence) (value : String) : Except Stop Reading :=
  os.foldlM (fun r o => r.take o.flag (o.attached.getD value)) r

/-- The program file. -/
def takeFile (r : Reading) (path : String) : Except Stop Reading :=
  if r.settings.expr.isSome then .error (.wrong .fileAfterExpr)
  else .ok { r with settings := { r.settings with file := some path }, fileOpen := false }

/-- The words after a `--` at the front. -/
def dropSeparator : List Word → List Word
  | .separator :: ws => ws
  | ws => ws

theorem length_dropSeparator_le (ws : List Word) : (dropSeparator ws).length ≤ ws.length := by
  unfold dropSeparator
  split
  · exact Nat.le_succ _
  · exact Nat.le_refl _

/-- Act on the words from left to right. A `--` right before or right after the program file is
dropped; one that comes later has no place. -/
def consume (r : Reading) : List Word → Except Stop Reading
  | [] => .ok r
  | .unknown arg :: ws => (r.leave arg).consume ws
  | .option spelling flag attached :: ws => do
    let os ← (Occurrence.ofWord spelling flag attached).mapError .wrong
    match os.find? (·.isOpen) with
    | none => (← r.takeAll os "").consume ws
    | some o =>
      match ws with
      | .plain value :: ws => (← r.takeAll os value).consume ws
      | _ => throw (.wrong (.missingValue o.flag))
  | .plain arg :: ws =>
    if r.fileOpen then do (← r.takeFile arg).consume (dropSeparator ws)
    else (r.leave arg).consume ws
  | .separator :: ws => if r.fileOpen then r.consume ws else (r.leave "--").consume ws
termination_by ws => ws.length
decreasing_by
  all_goals have := length_dropSeparator_le ws
  all_goals simp only [List.length_cons]
  all_goals omega

end Reading

/-- The settings of a command line. -/
def Settings.ofArgs (args : List String) : Except Stop Settings := do
  let ws ← (words args).mapError .wrong
  let r ← Reading.start.consume ws
  if r.leftOver.isEmpty then return r.settings else throw (.wrong (.leftOver r.leftOver))

end MarkTape.CommandLine
