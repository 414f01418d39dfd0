import MarkTape.CommandLine.Invocation
import MarkTape.Proofs.Arguments
import MarkTape.Proofs.Failures
import MarkTape.Proofs.Files

/-!
# Ways to hand a program over

A program text can be put into a file that is named on the command line, written to standard
input, or given on the command line itself. All come to the same: the text is run with the options
that are asked for, and what is printed says how the run ended, and nothing else.

* `Delivers`: the ways;
* `invoke_eq_outcomeOfRun`: in each the text is run;
* `Reports`: what an invocation prints about a run;
* `exists_reports`: it always has something to print;
* `invoke_reports`: both together;
* `invoke_long_limit`: a limit of too many digits is refused instead.
-/

namespace MarkTape

/-! ### Runs without a log -/

theorem Machine.exists_advance_of_perform {m : Machine} {s s' : State} {x : Token}
    (h : m.perform s x = .ok s') : ∃ v, s' = s.advance x v := by
  obtain ⟨-, -, h⟩ := bind_eq_ok_iff.1 h
  unfold State.execute at h
  split at h
  · cases h
  split at h
  · cases h
  · next v _ =>
    cases h
    exact ⟨v, rfl⟩

/-- Steps of a run that keeps no log leave the log alone. -/
theorem Machine.trace_of_foldlM_perform {m : Machine} {s s' : State} {r : List Token}
    (hs : s.isTracing = false) (h : r.foldlM m.perform s = .ok s') : s'.trace = s.trace := by
  induction r generalizing s with
  | nil =>
    cases h
    rfl
  | cons x r ih =>
    rw [List.foldlM_cons] at h
    obtain ⟨next, hnext, h⟩ := bind_eq_ok_iff.1 h
    obtain ⟨v, rfl⟩ := exists_advance_of_perform hnext
    have hsame : s.advance x v = { s with tape := v, pc := s.pc + 1 } := by
      rw [State.advance, State.note, if_neg (by simp [hs])]
    have htracing : (s.advance x v).isTracing = false := by rw [hsame, hs]
    rw [ih htracing h, hsame]

theorem trace_of_runText {o : Options} {source : String} {t : Tape} {r : Report}
    (ho : o.trace = false) (h : runText o source t = .ok r) : r.trace = #[] := by
  cases hts : Source.tokenize source with
  | error e =>
    rw [runText_of_error hts] at h
    cases h
  | ok ts =>
    have hmark := Source.mark_notMem_of_tokenize hts
    rw [runText_of_ok hts, runTokens, Machine.run_eq_foldlM hmark] at h
    cases hrun : ts.foldlM o.machine.perform (o.machine.opening ts t) with
    | error e =>
      rw [hrun] at h
      cases h
    | ok s =>
      rw [hrun] at h
      cases h
      exact Machine.trace_of_foldlM_perform ho hrun

namespace CommandLine

/-! ### What is run -/

/-- The program text `s` is handed over by the arguments, the files and standard input: in a file,
whose path may be marked by `--`, on standard input, or after `-e`. The options stand around it. -/
inductive Delivers (files : FileSystem) (stdin s : String) : List Switch → List String → Prop
  | file (before after : List Switch) {path : String} (hplain : Word.ofArg path = .ok (.plain path))
      (hfile : files.find path = .ok s.toUTF8.data.toList) :
      Delivers files stdin s (before ++ after) (argsOf before ++ path :: argsOf after)
  | marked (switches : List Switch) {path : String}
      (hfile : files.find path = .ok s.toUTF8.data.toList) :
      Delivers files stdin s switches (argsOf switches ++ ["--", path])
  | input (switches : List Switch) (hinput : stdin = s) :
      Delivers files stdin s switches (argsOf switches)
  | expr (before after : List Switch) (hdash : s.toList.head? ≠ some '-') :
      Delivers files stdin s (before ++ after) (argsOf before ++ "-e" :: s :: argsOf after)

namespace Settings

theorem display_asking (o : Options) (file : Option String) (expr : Option (Option String)) :
    (asking o file expr).display = o.display := by
  unfold display asking
  cases o.display <;> rfl

/-- Settings that ask for `o` have the program run with `o`. -/
theorem finish_asking (o : Options) (file : Option String) (expr : Option (Option String))
    (source : String) :
    (asking o file expr).finish (some source) =
      outcomeOfRun o.display (runText o source .initial) := by
  have hlimit : (asking o file expr).limit ≠ some none := by
    unfold asking
    cases o.limit <;> simp
  have hfields : Options.ofFields o.display.name (asking o file expr).limit.join
      (asking o file expr).trace = .ok o := by
    obtain ⟨display, limit, trace⟩ := o
    unfold Options.ofFields
    rw [Display.ofName?_name]
    cases limit <;> rfl
  rw [finish, if_neg hlimit, display_asking, hfields]

end Settings

section

variable {files : FileSystem} {stdin s : String} {args : List String} {o : Options}

theorem invoke_of_file {path : String} (hs : '\r' ∉ s.toList)
    (hargs : Settings.ofArgs args = .ok (.asking o (some path) none))
    (hfile : files.find path = .ok s.toUTF8.data.toList) :
    invoke files stdin args = outcomeOfRun o.display (runText o s .initial) := by
  have hpath : path ≠ "" := by
    rintro rfl
    cases hfile
  have hplan : Plan.ofArgs args = .file (.asking o (some path) none) path := by
    rw [Plan.ofArgs, hargs]
    exact if_neg hpath
  have hread := FileSystem.readText_of_find hs hfile
  simp only [invoke, hplan, hread]
  exact Settings.finish_asking o _ _ s

theorem invoke_of_input (hs : '\r' ∉ s.toList)
    (hargs : Settings.ofArgs args = .ok (.asking o none none)) :
    invoke files s args = outcomeOfRun o.display (runText o s .initial) := by
  have hplan : Plan.ofArgs args = .stdin (.asking o none none) := by
    rw [Plan.ofArgs, hargs]
    rfl
  have hinput : inputText s = s := by
    rw [inputText, Text.unifyNewlines_eq_self hs, String.ofList_toList]
  simp only [invoke, hplan, hinput]
  exact Settings.finish_asking o _ _ s

theorem invoke_of_expr (hargs : Settings.ofArgs args = .ok (.asking o none (some (some s)))) :
    invoke files stdin args = outcomeOfRun o.display (runText o s .initial) := by
  have hplan : Plan.ofArgs args = .text (.asking o none (some (some s))) (some s) := by
    rw [Plan.ofArgs, hargs]
    rfl
  simp only [invoke, hplan]
  exact Settings.finish_asking o _ _ s

/-- Whichever way a program is handed over, it is run with the options that are asked for. -/
theorem invoke_eq_outcomeOfRun {switches : List Switch} (hs : '\r' ∉ s.toList)
    (hshort : ∀ x ∈ switches, x.IsShort) (h : Delivers files stdin s switches args) :
    invoke files stdin args =
      outcomeOfRun (optionsOf switches).display (runText (optionsOf switches) s .initial) := by
  cases h with
  | file before after hplain hfile =>
    exact invoke_of_file hs (Settings.ofArgs_file hshort hplain) hfile
  | marked _ hfile => exact invoke_of_file hs (Settings.ofArgs_marked hshort _) hfile
  | input _ hinput =>
    rw [hinput]
    exact invoke_of_input hs (Settings.ofArgs_argsOf hshort)
  | expr before after hdash => exact invoke_of_expr (Settings.ofArgs_expr hshort hdash)

end

/-! ### What is reported -/

/-- What is printed when `o` was asked for, from what running the program gives: the picture of the
tape and the log, which is empty unless it was asked for; the rejection of the text; or all that is
known about the failure. -/
inductive Reports (o : Options) : Except Error Report → Outcome → Prop
  | result (r : Report) (hlog : o.trace = false → r.trace = #[]) :
      Reports o (.ok r) ⟨0, r.text, String.join (r.trace.toList.map (· ++ "\n"))⟩
  | rejection (r : Source.Rejection) :
      Reports o (.error (.rejected r)) ⟨1, "", r.message ++ "\n"⟩
  | failure (f : Failure) (u : Tape) (htape : f.tape = some u) :
      Reports o (.error (.failed f)) ⟨1, "", f.message ++ "\n" ++
        "Remaining program: " ++ Token.symbols f.remaining ++ "\n" ++
        ("Last tape:\n" ++ u.render o.display)⟩

theorem exists_reports (o : Options) (s : String) :
    ∃ out, outcomeOfRun o.display (runText o s .initial) = .ok out ∧
      Reports o (runText o s .initial) out := by
  cases hrun : runText o s .initial with
  | ok r => exact ⟨_, rfl, .result r fun ho => trace_of_runText ho hrun⟩
  | error e =>
    cases hts : Source.tokenize s with
    | error r =>
      rw [runText_of_error hts] at hrun
      cases hrun
      exact ⟨_, rfl, .rejection r⟩
    | ok ts =>
      obtain ⟨f, rfl, hstops⟩ := stopsIn_of_runText hts hrun
      obtain ⟨u, hu⟩ := hstops.tape
      refine ⟨_, rfl, ?_⟩
      rw [failureText, hu]
      exact .failure f u hu

/-- **A program may be handed over in any way.** Let a text without returns be given, and options in
any order, none with a limit of too many digits. However the text is handed over, the exit code and
both outputs are the same, and they report on the run of this text with these options: success with
the picture of the tape and the log, or else nothing on standard output, with the rejection of the
text, or the failure with the instructions left and the last tape. Running the file is running the
text, too. -/
theorem invoke_reports {s : String} (hs : '\r' ∉ s.toList) {switches : List Switch}
    (hshort : ∀ x ∈ switches, x.IsShort) :
    (∃ out, Reports (optionsOf switches) (runText (optionsOf switches) s .initial) out ∧
      ∀ files stdin args, Delivers files stdin s switches args →
        invoke files stdin args = .ok out) ∧
    ∀ o files path t, files.find path = .ok s.toUTF8.data.toList →
      runFile o files path defaultEncoding t = runText o s t := by
  obtain ⟨out, hout, hreports⟩ := exists_reports (optionsOf switches) s
  refine ⟨⟨out, hreports, fun files stdin args h => ?_⟩,
    fun o files path t h => runFile_of_find hs h o t⟩
  rw [invoke_eq_outcomeOfRun hs hshort h, hout]

/-- A program that leads off the tape, in a file two folders below the top, and handed over in five
ways: by a path from the folder above it, by one from the top that goes up and down again, on
standard input, as an argument, and to be run from its file. -/
theorem invoke_reports_underflow :
    let files : FileSystem := {
      entry?
        | ["home"] | ["home", "src"] => some .folder
        | ["home", "src", "a.bf"] => some (.file "+<".toUTF8.data.toList)
        | _ => none
      current := ["home"] }
    let out : Outcome := ⟨1, "", "TapeUnderflow: no cell to the left of the head " ++
      "(step 1, instruction '<')\nRemaining program: <\nLast tape:\nBack:\n[*]\nFront:\n\n"⟩
    invoke files "" ["--markers", "src/./a.bf", "--max-steps", "5"] = .ok out ∧
    invoke files "" ["--markers", "--max-steps", "5", "--", "/home/../home//src/a.bf"] = .ok out ∧
    invoke files "+<" ["--markers", "--max-steps", "5"] = .ok out ∧
    invoke files "+" ["--markers", "-e", "+<", "--max-steps", "5"] = .ok out ∧
    runFile .default files "//home/src/a.bf" defaultEncoding .initial =
      runText .default "+<" .initial := by
  intro files out
  have htokens : Source.tokenize "+<" = .ok [.inc, .left] :=
    Source.tokenize_of_symbols (by decide) (by decide)
  have hrun : runText (optionsOf [.markers, .maxSteps (.ofNat 5)]) "+<" .initial =
      .error (.failed (Fault.underflow.failureAt .left 1 [.left] ⟨⟨1⟩, [], []⟩)) := by
    rw [runText_of_ok htokens]
    rfl
  have hshort : ∀ x ∈ [Switch.markers, .maxSteps (.ofNat 5)], x.IsShort := by
    simp only [List.forall_mem_cons]
    exact ⟨trivial, show (Text.Numeral.ofNat 5).digits.length ≤ Text.maxDigits by decide, nofun⟩
  obtain ⟨⟨out', hreports, hout⟩, hrunFile⟩ := invoke_reports (s := "+<") (by decide) hshort
  have hsame : out' = out := by
    rw [hrun] at hreports
    cases hreports with
    | failure f u hu =>
      cases hu
      decide +kernel
  subst hsame
  exact ⟨hout _ _ _ (.file [.markers] [.maxSteps (.ofNat 5)] rfl rfl),
    hout _ _ _ (.marked [.markers, .maxSteps (.ofNat 5)] rfl),
    hout _ _ _ (.input [.markers, .maxSteps (.ofNat 5)] rfl),
    hout _ _ _ (.expr [.markers] [.maxSteps (.ofNat 5)] (by decide)),
    hrunFile _ _ _ _ rfl⟩

/-! ### Limits of too many digits -/

theorem invoke_expr_long {s : String} {n : Text.Numeral} (hn : Text.maxDigits < n.digits.length)
    (hdash : s.toList.head? ≠ some '-') (files : FileSystem) (stdin : String) :
    invoke files stdin ("-e" :: s :: argsOf [.maxSteps n]) =
      .ok (UsageError.notInteger n.text).outcome := by
  have hargs : Settings.ofArgs ("-e" :: s :: argsOf [.maxSteps n]) =
      .error (.wrong (.notInteger n.text)) := by
    rw [Settings.ofArgs, words_expr hdash]
    show (Reading.start.consume _ >>= _) = _
    rw [Reading.start_eq, Reading.consume_expr _ (ne_separator (ofArg_of_head? hdash))]
    show ((Reading.asking _ _ _).consume ((Switch.maxSteps n).words ++ []) >>= _) = _
    rw [Reading.consume_long hn]
    rfl
  rw [invoke, Plan.ofArgs, hargs]

theorem runText_empty (o : Options) (t : Tape) :
    runText o "" t = .ok ⟨t, t.render o.display, 0, #[]⟩ := by
  have htokens : Source.tokenize "" = .ok [] := Source.tokenize_of_symbols (by decide) (by decide)
  rw [runText_of_ok htokens]
  rfl

/-- The least limit that is too long to be read is refused as a mistake in the command line. The
empty program can be run with it, but there is no report on this run. -/
theorem invoke_long_limit :
    let files : FileSystem := ⟨fun _ => none, []⟩
    let switches := [Switch.maxSteps (.ofNat (10 ^ Text.maxDigits))]
    Delivers files "" "" switches ("-e" :: "" :: argsOf switches) ∧
    optionsOf switches = ⟨.int, some (10 ^ Text.maxDigits), false⟩ ∧
    (∃ r, runText (optionsOf switches) "" .initial = .ok r) ∧
    (∃ out, invoke files "" ("-e" :: "" :: argsOf switches) = .ok out ∧ out.exit = 2) ∧
    ∀ out, Reports (optionsOf switches) (runText (optionsOf switches) "" .initial) out →
      invoke files "" ("-e" :: "" :: argsOf switches) ≠ .ok out := by
  -- the limit is never written out: its digits are only counted
  generalize hn : Text.Numeral.ofNat (10 ^ Text.maxDigits) = n
  intro files switches
  have hvalue : n.value = 10 ^ Text.maxDigits := by rw [← hn, Text.Numeral.value_ofNat]
  have hlong : Text.maxDigits < n.digits.length := by
    rw [← hn, ← Nat.not_le, Text.Numeral.length_digits_ofNat_le_iff]
    exact Nat.lt_irrefl _
  have hdash : "".toList.head? ≠ some '-' := by decide
  have hrefused := invoke_expr_long hlong hdash files ""
  refine ⟨.expr [] switches hdash, ?_, ⟨_, runText_empty _ _⟩, ⟨_, hrefused, rfl⟩, fun out h => ?_⟩
  · rw [← hvalue]
    rfl
  · rw [runText_empty] at h
    cases h
    rw [hrefused]
    intro hsame
    have hexit : 2 = 0 := congrArg Outcome.exit (Except.ok.inj hsame)
    cases hexit

end CommandLine

end MarkTape
