import Mathlib.Algebra.Group.Nat.Defs
import MarkTape.CommandLine.Settings
import MarkTape.Run

/-!
# Arguments that ask for a run

The options that say how a program is run may stand on a command line in any number and in any
order, before and after what says where the program is. Together they ask for certain options of
a run, and reading the command line gives the settings that ask for these.

* `Text.Numeral`: a number in decimal digits, and `Text.Numeral.readInteger?_text`, how it is read;
* `Switch`, `argsOf`, `optionsOf`: the options, the arguments they are given by, and what they ask
  for together;
* `Settings.asking`: the settings that ask for given options;
* `Reading.consume_switches`: acting on options;
* `Settings.ofArgs_around`: a whole command line, and its cases `Settings.ofArgs_file`,
  `Settings.ofArgs_marked`, `Settings.ofArgs_argsOf` and `Settings.ofArgs_expr`.
-/

namespace MarkTape

/-! ### Numbers -/

namespace Text

/-- A number written in decimal digits. -/
structure Numeral where
  digits : List Char
  ne_nil : digits ≠ []
  isDigit : ∀ c ∈ digits, c.isDigit = true

namespace Numeral

/-- The numeral as text. -/
def text (n : Numeral) : String := String.ofList n.digits

/-- The number that is written. -/
def value (n : Numeral) : Nat := Nat.ofDigitChars 10 n.digits 0

/-- A number without leading zeros. -/
def ofNat (n : Nat) : Numeral where
  digits := Nat.toDigits 10 n
  ne_nil := Nat.toDigits_ne_nil
  isDigit := fun _ hc => Nat.isDigit_of_mem_toDigits (by decide) (by decide) hc

@[simp] theorem value_ofNat (n : Nat) : (ofNat n).value = n := Nat.ofDigitChars_ten_toDigits

theorem length_digits_ofNat_le_iff (n : Nat) :
    (ofNat n).digits.length ≤ maxDigits ↔ n < 10 ^ maxDigits :=
  Nat.length_toDigits_le_iff (by decide) (by decide)

end Numeral

/-- There are ten digits, so what is said about a digit can be looked up for each of them. -/
theorem exists_digit {c : Char} (h : c.isDigit = true) :
    ∃ d : Fin 10, c = Char.ofNat ('0'.toNat + d) := by
  obtain ⟨hlow, hhigh⟩ := Char.isDigit_iff_toNat.1 h
  have hlt : c.toNat - '0'.toNat < 10 := Nat.sub_lt_left_of_lt_add hlow (Nat.lt_succ_of_le hhigh)
  refine ⟨⟨c.toNat - '0'.toNat, hlt⟩, ?_⟩
  rw [Nat.add_sub_cancel' hlow, Char.ofNat_toNat]

theorem digitValue?_of_isDigit {c : Char} (h : c.isDigit = true) :
    digitValue? c = some (c.toNat - '0'.toNat) := by
  obtain ⟨d, rfl⟩ := exists_digit h
  revert d
  decide

theorem isMargin_of_isDigit {c : Char} (h : c.isDigit = true) : isMargin c = false := by
  obtain ⟨d, rfl⟩ := exists_digit h
  revert d
  decide

theorem trimMargin_eq_self {cs : List Char} (h : ∀ c ∈ cs, isMargin c = false) :
    trimMargin cs = cs := by
  have hdrop : ∀ ds : List Char, (∀ c ∈ ds, isMargin c = false) → ds.dropWhile isMargin = ds := by
    intro ds hds
    cases ds with
    | nil => rfl
    | cons c ds => exact List.dropWhile_cons_of_neg (by simp [hds c List.mem_cons_self])
  rw [trimMargin, hdrop cs h, hdrop _ fun c hc => h c (List.mem_reverse.1 hc),
    List.reverse_reverse]

theorem digits?_of_isDigit {cs : List Char} (hne : cs ≠ []) (h : ∀ c ∈ cs, c.isDigit = true) :
    digits? cs = some (cs.map fun c => c.toNat - '0'.toNat) := by
  induction cs with
  | nil => exact absurd rfl hne
  | cons c cs ih =>
    have hc := digitValue?_of_isDigit (h c List.mem_cons_self)
    cases cs with
    | nil =>
      rw [digits?, hc]
      rfl
    | cons d ds =>
      have hd : d ≠ '_' := by
        rintro rfl
        cases h '_' (by simp)
      have ih := ih (List.cons_ne_nil d ds) fun c hc => h c (List.mem_cons_of_mem _ hc)
      rw [digits?, hc, ih]
      · rfl
      · simp
      · simpa using hd

/-- A sign may be left out. -/
theorem readInteger?_of_isDigit {cs : List Char} (hne : cs ≠ [])
    (h : ∀ c ∈ cs, c.isDigit = true) :
    readInteger? (String.ofList cs) = (readNatural? cs).map fun n => (n : Int) := by
  unfold readInteger?
  rw [String.toList_ofList, trimMargin_eq_self fun c hc => isMargin_of_isDigit (h c hc)]
  split
  · cases h '-' List.mem_cons_self
  · cases h '+' List.mem_cons_self
  · rfl

/-- A numeral is read as the number that it writes, unless it is too long. -/
theorem Numeral.readInteger?_text (n : Numeral) :
    Text.readInteger? n.text =
      if n.digits.length ≤ maxDigits then some (n.value : Int) else none := by
  rw [text, readInteger?_of_isDigit n.ne_nil n.isDigit, readNatural?,
    digits?_of_isDigit n.ne_nil n.isDigit]
  have hvalue : ofDigits (n.digits.map fun c => c.toNat - '0'.toNat) = n.value := by
    rw [ofDigits, value, List.foldl_map, Nat.ofDigitChars_eq_foldl]
  simp only [Option.bind_eq_bind, Option.bind_some, List.length_map, hvalue]
  split <;> rfl

end Text

/-! ### Arguments -/

namespace CommandLine

/-- An option that says how a program is to be run. -/
inductive Switch
  | markers
  | trace
  | maxSteps (n : Text.Numeral)

namespace Switch

/-- The arguments by which the option is given. -/
def args : Switch → List String
  | .markers => ["--markers"]
  | .trace => ["--trace"]
  | .maxSteps n => ["--max-steps", n.text]

/-- The words that these arguments are. -/
def words : Switch → List Word
  | .markers => [.option "--markers" .markers none]
  | .trace => [.option "--trace" .trace none]
  | .maxSteps n => [.option "--max-steps" .maxSteps none, .plain n.text]

/-- What the option asks for, on top of `o`; the last limit counts. -/
def apply (o : Options) : Switch → Options
  | .markers => { o with display := .markers }
  | .trace => { o with trace := true }
  | .maxSteps n => { o with limit := some n.value }

/-- A limit is not too long to be read. -/
def IsShort : Switch → Prop
  | .maxSteps n => n.digits.length ≤ Text.maxDigits
  | _ => True

end Switch

/-- What the options ask for together. -/
def optionsOf (switches : List Switch) : Options := switches.foldl Switch.apply .default

/-- The arguments by which the options are given, in order. -/
def argsOf (switches : List Switch) : List String := switches.flatMap Switch.args

/-- The words that these arguments are. -/
def wordsOf (switches : List Switch) : List Word := switches.flatMap Switch.words

theorem words_cons {arg : String} {w : Word} (h : Word.ofArg arg = .ok w) (hsep : arg ≠ "--")
    (args : List String) : words (arg :: args) = (words args).map (w :: ·) := by
  rw [words, if_neg hsep, h]
  cases words args <;> rfl

theorem ofArg_of_head? {arg : String} (h : arg.toList.head? ≠ some '-') :
    Word.ofArg arg = .ok (.plain arg) := by
  rw [Word.ofArg, if_pos (by simp [h])]

theorem ofArg_numeral (n : Text.Numeral) : Word.ofArg n.text = .ok (.plain n.text) := by
  apply ofArg_of_head?
  intro h
  rw [Text.Numeral.text, String.toList_ofList] at h
  cases n.isDigit '-' (List.mem_of_mem_head? h)

theorem ne_separator {arg text : String} (h : Word.ofArg arg = .ok (.plain text)) : arg ≠ "--" := by
  rintro rfl
  cases h

theorem words_switch (x : Switch) (args : List String) :
    words (x.args ++ args) = (words args).map (x.words ++ ·) := by
  cases x with
  | markers =>
    have hw : Word.ofArg "--markers" = .ok (.option "--markers" .markers none) := rfl
    exact words_cons hw (by decide) args
  | trace =>
    have hw : Word.ofArg "--trace" = .ok (.option "--trace" .trace none) := rfl
    exact words_cons hw (by decide) args
  | maxSteps n =>
    have hw : Word.ofArg "--max-steps" = .ok (.option "--max-steps" .maxSteps none) := rfl
    have hn := ofArg_numeral n
    rw [Switch.args, List.cons_append, List.singleton_append, words_cons hw (by decide),
      words_cons hn (ne_separator hn)]
    cases words args <;> rfl

theorem words_argsOf_append (switches : List Switch) (args : List String) :
    words (argsOf switches ++ args) = (words args).map (wordsOf switches ++ ·) := by
  induction switches with
  | nil =>
    rw [argsOf, List.flatMap_nil, List.nil_append]
    cases words args <;> rfl
  | cons x switches ih =>
    rw [argsOf, List.flatMap_cons, List.append_assoc, words_switch, ← argsOf, ih]
    cases words args with
    | error e => rfl
    | ok ws => exact congrArg Except.ok (List.append_assoc _ _ _).symm

theorem words_argsOf (switches : List Switch) :
    words (argsOf switches) = .ok (wordsOf switches) := by
  have h := words_argsOf_append switches []
  rw [List.append_nil] at h
  rw [h]
  exact congrArg Except.ok (List.append_nil _)

theorem words_file {path : String} (hplain : Word.ofArg path = .ok (.plain path))
    (switches : List Switch) :
    words (path :: argsOf switches) = .ok (.plain path :: wordsOf switches) := by
  rw [words_cons hplain (ne_separator hplain), words_argsOf]
  rfl

theorem words_expr {s : String} (hdash : s.toList.head? ≠ some '-') (switches : List Switch) :
    words ("-e" :: s :: argsOf switches) =
      .ok (.option "-e" .expr none :: .plain s :: wordsOf switches) := by
  have hoption : Word.ofArg "-e" = .ok (.option "-e" .expr none) := rfl
  rw [words_cons hoption (by decide), words_file (ofArg_of_head? hdash)]
  rfl

theorem dropSeparator_wordsOf (switches : List Switch) :
    Reading.dropSeparator (wordsOf switches) = wordsOf switches := by
  cases switches with
  | nil => rfl
  | cons x switches => cases x <;> rfl

/-! ### Acting on words -/

/-- The settings that ask for `o`, with what else is known. -/
def Settings.asking (o : Options) (file : Option String) (expr : Option (Option String)) :
    Settings :=
  { file, expr
    markers := o.display = .markers
    limit := o.limit.map fun n => some (n : Int)
    trace := o.trace }

namespace Reading

/-- Everything so far has had its place, and asks for `o`. -/
def asking (o : Options) (file : Option String) (expr : Option (Option String)) : Reading :=
  ⟨.asking o file expr, file.isNone, []⟩

theorem start_eq : start = asking .default none none := rfl

theorem takeAll_singleton (r : Reading) (flag : Flag) (value : String) :
    r.takeAll [⟨flag, none⟩] value = r.take flag value := by
  show r.take flag value >>= pure = _
  exact bind_pure _

/-- An option is acted on with the word that follows it. -/
theorem consume_option_plain {flag : Flag} (h : flag.takesValue = true) (r : Reading)
    (spelling value : String) (ws : List Word) :
    r.consume (.option spelling flag none :: .plain value :: ws) =
      r.take flag value >>= (·.consume ws) := by
  -- which occurrence is open is decided by the flag, so the flag has to be known
  cases flag with
  | expr =>
    rw [consume, ← takeAll_singleton]
    rfl
  | maxSteps =>
    rw [consume, ← takeAll_singleton]
    rfl
  | _ => cases h

theorem keepValue_text (n : Text.Numeral) : keepValue n.text = some n.text :=
  if_neg (ne_separator (ofArg_numeral n))

/-- A limit is taken unless it is too long. -/
theorem take_maxSteps (o : Options) (file : Option String) (expr : Option (Option String))
    (n : Text.Numeral) :
    (asking o file expr).take .maxSteps n.text =
      if n.digits.length ≤ Text.maxDigits then
        .ok (asking (Switch.apply o (.maxSteps n)) file expr)
      else .error (.wrong (.notInteger n.text)) := by
  unfold take
  simp only [keepValue_text, n.readInteger?_text]
  by_cases h : n.digits.length ≤ Text.maxDigits
  · simp only [if_pos h]
    rfl
  · simp only [if_neg h]

theorem consume_switch {x : Switch} (hx : x.IsShort) (o : Options) (file : Option String)
    (expr : Option (Option String)) (ws : List Word) :
    (asking o file expr).consume (x.words ++ ws) = (asking (x.apply o) file expr).consume ws := by
  cases x with
  | markers =>
    rw [Switch.words, List.singleton_append, consume]
    rfl
  | trace =>
    rw [Switch.words, List.singleton_append, consume]
    rfl
  | maxSteps n =>
    have hn : n.digits.length ≤ Text.maxDigits := hx
    rw [Switch.words, List.cons_append, List.singleton_append, consume_option_plain rfl,
      take_maxSteps, if_pos hn]
    rfl

theorem consume_switches {switches : List Switch} (h : ∀ x ∈ switches, x.IsShort) (o : Options)
    (file : Option String) (expr : Option (Option String)) (ws : List Word) :
    (asking o file expr).consume (wordsOf switches ++ ws) =
      (asking (switches.foldl Switch.apply o) file expr).consume ws := by
  induction switches generalizing o with
  | nil => rfl
  | cons x switches ih =>
    rw [wordsOf, List.flatMap_cons, List.append_assoc, consume_switch (h x List.mem_cons_self),
      ← wordsOf, ih fun y hy => h y (List.mem_cons_of_mem x hy), List.foldl_cons]

/-- A limit that is too long is no integer. -/
theorem consume_long {n : Text.Numeral} (hn : Text.maxDigits < n.digits.length) (o : Options)
    (file : Option String) (expr : Option (Option String)) (ws : List Word) :
    (asking o file expr).consume ((Switch.maxSteps n).words ++ ws) =
      .error (.wrong (.notInteger n.text)) := by
  rw [Switch.words, List.cons_append, List.singleton_append, consume_option_plain rfl,
    take_maxSteps, if_neg (Nat.not_le.2 hn)]
  rfl

theorem consume_file (o : Options) (path : String) {ws : List Word} (hws : dropSeparator ws = ws) :
    (asking o none none).consume (.plain path :: ws) = (asking o (some path) none).consume ws := by
  rw [consume, hws]
  rfl

theorem consume_expr (o : Options) {s : String} (hs : s ≠ "--") (ws : List Word) :
    (asking o none none).consume (.option "-e" .expr none :: .plain s :: ws) =
      (asking o none (some (some s))).consume ws := by
  have hkeep : keepValue s = some s := if_neg hs
  rw [consume_option_plain rfl]
  show (asking o none (some (keepValue s))).consume ws = _
  rw [hkeep]

end Reading

/-! ### Settings -/

namespace Settings

theorem ofArgs_of_consume {args : List String} {ws : List Word} {o : Options}
    {file : Option String} {expr : Option (Option String)} (hws : words args = .ok ws)
    (h : Reading.start.consume ws = .ok (.asking o file expr)) :
    ofArgs args = .ok (asking o file expr) := by
  rw [ofArgs, hws]
  show (Reading.start.consume ws >>= _) = _
  rw [h]
  rfl

/-- Options before and after what says where the program is. -/
theorem ofArgs_around {before after : List Switch} (hshort : ∀ x ∈ before ++ after, x.IsShort)
    {rest : List String} {ws : List Word} {file : Option String} {expr : Option (Option String)}
    (hws : words rest = .ok ws)
    (h : ∀ o, (Reading.asking o none none).consume ws =
      (Reading.asking o file expr).consume (wordsOf after)) :
    ofArgs (argsOf before ++ rest) = .ok (asking (optionsOf (before ++ after)) file expr) := by
  refine ofArgs_of_consume (by rw [words_argsOf_append, hws]; rfl) ?_
  have hbefore : ∀ x ∈ before, x.IsShort := fun x hx => hshort x (List.mem_append_left after hx)
  have hafter : ∀ x ∈ after, x.IsShort := fun x hx => hshort x (List.mem_append_right before hx)
  have hend := Reading.consume_switches hafter (before.foldl Switch.apply .default) file expr []
  rw [List.append_nil] at hend
  rw [Reading.start_eq, Reading.consume_switches hbefore, h, hend, Reading.consume,
    optionsOf, List.foldl_append]

theorem ofArgs_file {before after : List Switch} (hshort : ∀ x ∈ before ++ after, x.IsShort)
    {path : String} (hplain : Word.ofArg path = .ok (.plain path)) :
    ofArgs (argsOf before ++ path :: argsOf after) =
      .ok (asking (optionsOf (before ++ after)) (some path) none) :=
  ofArgs_around hshort (words_file hplain after) fun o =>
    Reading.consume_file o path (dropSeparator_wordsOf after)

theorem ofArgs_marked {switches : List Switch} (hshort : ∀ x ∈ switches, x.IsShort)
    (path : String) :
    ofArgs (argsOf switches ++ ["--", path]) =
      .ok (asking (optionsOf switches) (some path) none) := by
  rw [← List.append_nil switches] at hshort
  have hws : words ["--", path] = .ok [.separator, .plain path] := rfl
  have h := ofArgs_around hshort hws fun o => by
    rw [Reading.consume]
    exact Reading.consume_file o path rfl
  rwa [List.append_nil] at h

theorem ofArgs_argsOf {switches : List Switch} (hshort : ∀ x ∈ switches, x.IsShort) :
    ofArgs (argsOf switches) = .ok (asking (optionsOf switches) none none) := by
  rw [← List.append_nil switches] at hshort
  have hws : words [] = .ok [] := rfl
  have h := ofArgs_around hshort hws fun o => rfl
  rwa [List.append_nil, List.append_nil] at h

theorem ofArgs_expr {before after : List Switch} (hshort : ∀ x ∈ before ++ after, x.IsShort)
    {s : String} (hdash : s.toList.head? ≠ some '-') :
    ofArgs (argsOf before ++ "-e" :: s :: argsOf after) =
      .ok (asking (optionsOf (before ++ after)) none (some (some s))) :=
  ofArgs_around hshort (words_expr hdash after) fun o =>
    Reading.consume_expr o (ne_separator (ofArg_of_head? hdash)) (wordsOf after)

end Settings

end CommandLine

end MarkTape
