import MarkTape.Proofs.Delivery

/-!
# What escapes from an invocation

An invocation is meant to end with an exit code, whatever the arguments are: success, a complaint
about the program or the file, or a complaint about the command line. Trouble with reading the
program file is passed on. Nothing else should be, but something is: where `--` is attached to an
option as its value, as in `-e--` and `--max-steps=--`, the value is dropped, the settings go
without it, and it is missed only when it is needed.

* `Outcome.IsPlanned`, `Contained`: how an invocation is meant to end;
* `Dropped`: a value that is needed was dropped;
* `Settings.finish_cases`: what can happen once the program text is there;
* `contained_or_dropped`, `invoke_of_dropped`: an invocation ends as it is meant to unless a value
  was dropped, and what happens then;
* `Word.attached_suffix`, `Occurrence.ofWord_suffix`: an attached value is the end of its argument;
* `Tidy`, `Settings.Valued`, `Reading.valued_consume`: no value is dropped without an attached `--`;
* `invoke_contained_iff`: exactly when an invocation ends as it is meant to.
-/

namespace MarkTape.CommandLine

/-! ### How an invocation is meant to end -/

/-- The exit code is that of success, of a complaint, or of a wrong command line, and only on
success is there anything on standard output. -/
def Outcome.IsPlanned (out : Outcome) : Prop :=
  out.exit = 0 ∨ (out.exit = 1 ∧ out.stdout = "") ∨ ∃ e : UsageError, out = ⟨2, "", e.report⟩

/-- The invocation has a planned outcome, or the program file that it names cannot be read, and it
passes on why. -/
def Contained (files : FileSystem) (stdin : String) (args : List String) : Prop :=
  (∃ out, invoke files stdin args = .ok out ∧ out.IsPlanned) ∨
    ∃ s path cause, Plan.ofArgs args = .file s path ∧
      files.readText path defaultEncoding = .error cause ∧
      invoke files stdin args = .error (.unreadable cause)

/-- A value that is needed was dropped: the limit, which is looked at as soon as the program text is
there, or the program text itself, which is looked at unless a negative limit is refused first. -/
inductive Dropped (files : FileSystem) (args : List String) : Misuse → Prop
  | limit {s : Settings} (hs : Settings.ofArgs args = .ok s) (hlimit : s.limit = some none)
      (hread : ∀ path, Plan.ofArgs args = .file s path →
        ∃ text, files.readText path defaultEncoding = .ok text) :
      Dropped files args .missingLimit
  | text {s : Settings} (hs : Settings.ofArgs args = .ok s) (hexpr : s.expr = some none)
      (hlimit : s.limit ≠ some none) (hnonneg : ∀ n, s.limit = some (some n) → 0 ≤ n) :
      Dropped files args .missingText

/-! ### Once the settings are there -/

theorem Plan.ofArgs_cases {args : List String} {s : Settings} (hs : Settings.ofArgs args = .ok s) :
    (∃ source, s.expr = some source ∧ Plan.ofArgs args = .text s source) ∨
      (s.expr = none ∧
        ((∃ path, Plan.ofArgs args = .file s path) ∨ Plan.ofArgs args = .stdin s)) := by
  cases hexpr : s.expr with
  | some source => exact .inl ⟨source, rfl, by simp only [Plan.ofArgs, hs, hexpr]⟩
  | none =>
    refine .inr ⟨rfl, ?_⟩
    cases hfile : s.file with
    | none => exact .inr (by simp only [Plan.ofArgs, hs, hexpr, hfile])
    | some path =>
      by_cases hpath : path = ""
      · exact .inr (by simp only [Plan.ofArgs, hs, hexpr, hfile, if_pos hpath])
      · exact .inl ⟨path, by simp only [Plan.ofArgs, hs, hexpr, hfile, if_neg hpath]⟩

/-- A report on a run is planned. -/
theorem Reports.isPlanned {o : Options} {result : Except Error Report} {out : Outcome}
    (h : Reports o result out) : out.IsPlanned := by
  cases h with
  | result r hlog => exact .inl rfl
  | rejection r => exact .inr (.inl ⟨rfl, rfl⟩)
  | failure f u htape => exact .inr (.inl ⟨rfl, rfl⟩)

namespace Settings

variable {s : Settings}

/-- A limit that has its value is refused only if it is negative. -/
theorem ofFields_cases (hlimit : s.limit ≠ some none) :
    (∃ n, s.limit = some (some n) ∧ n < 0 ∧
      ∃ cause, Options.ofFields s.display.name s.limit.join s.trace = .error cause) ∨
    ((∀ n, s.limit = some (some n) → 0 ≤ n) ∧
      ∃ o, Options.ofFields s.display.name s.limit.join s.trace = .ok o) := by
  simp only [Options.ofFields, Display.ofName?_name]
  cases hs : s.limit with
  | none => exact .inr ⟨nofun, _, rfl⟩
  | some limit =>
    cases limit with
    | none => exact absurd hs hlimit
    | some n =>
      cases n with
      | ofNat n =>
        refine .inr ⟨fun k hk => ?_, _, rfl⟩
        cases hk
        exact Int.natCast_nonneg n
      | negSucc n => exact .inl ⟨_, rfl, Int.negSucc_lt_zero n, _, rfl⟩

/-- What can happen once the program text is there, or was to be there. -/
theorem finish_cases (s : Settings) (source : Option String) :
    (s.limit = some none ∧ s.finish source = .error (.misuse .missingLimit)) ∨
    (s.limit ≠ some none ∧ source = none ∧ (∀ n, s.limit = some (some n) → 0 ≤ n) ∧
      s.finish source = .error (.misuse .missingText)) ∨
    (s.limit ≠ some none ∧ ((∃ text, source = some text) ∨ ∃ n, s.limit = some (some n) ∧ n < 0) ∧
      ∃ out, s.finish source = .ok out ∧ out.IsPlanned) := by
  by_cases hlimit : s.limit = some none
  · exact .inl ⟨hlimit, if_pos hlimit⟩
  refine .inr ?_
  rcases ofFields_cases hlimit with ⟨n, hn, hneg, cause, hcause⟩ | ⟨hnonneg, o, ho⟩
  · have hfinish : s.finish source = .ok (UsageError.refused cause.message).outcome := by
      simp only [finish, if_neg hlimit, hcause]
    exact .inr ⟨hlimit, .inr ⟨n, hn, hneg⟩, _, hfinish, .inr (.inr ⟨_, rfl⟩)⟩
  cases source with
  | none => exact .inl ⟨hlimit, rfl, hnonneg, by simp only [finish, if_neg hlimit, ho]⟩
  | some text =>
    have hfinish : s.finish (some text) = outcomeOfRun o.display (runText o text .initial) := by
      simp only [finish, if_neg hlimit, ho]
    obtain ⟨out, hout, hreports⟩ := exists_reports o text
    exact .inr ⟨hlimit, .inl ⟨text, rfl⟩, out, hfinish.trans hout, hreports.isPlanned⟩

/-- Once there is a program text, only the limit can be missing. -/
theorem finish_some_cases (s : Settings) (text : String) :
    (s.limit = some none ∧ s.finish (some text) = .error (.misuse .missingLimit)) ∨
      ∃ out, s.finish (some text) = .ok out ∧ out.IsPlanned := by
  rcases s.finish_cases (some text) with h | ⟨-, hnone, -⟩ | ⟨-, -, h⟩
  · exact .inl h
  · cases hnone
  · exact .inr h

end Settings

/-! ### The two ways -/

theorem contained_or_dropped (files : FileSystem) (stdin : String) (args : List String) :
    Contained files stdin args ∨ ∃ cause, Dropped files args cause := by
  cases hs : Settings.ofArgs args with
  | error stop =>
    cases stop with
    | help =>
      refine .inl (.inl ⟨⟨0, help, ""⟩, ?_, .inl rfl⟩)
      simp only [invoke, Plan.ofArgs, hs]
    | wrong e =>
      refine .inl (.inl ⟨e.outcome, ?_, .inr (.inr ⟨e, rfl⟩)⟩)
      simp only [invoke, Plan.ofArgs, hs]
  | ok s =>
    rcases Plan.ofArgs_cases hs with
      ⟨source, hexpr, hplan⟩ | ⟨-, ⟨path, hplan⟩ | hplan⟩
    · have hnofile : ∀ path, Plan.ofArgs args = .file s path →
          ∃ text, files.readText path defaultEncoding = .ok text := by
        intro path hpath
        rw [hplan] at hpath
        cases hpath
      have hinvoke : invoke files stdin args = s.finish source := by simp only [invoke, hplan]
      rcases s.finish_cases source with
        ⟨hlimit, -⟩ | ⟨hlimit, rfl, hnonneg, -⟩ | ⟨-, -, out, hout, h⟩
      · exact .inr ⟨_, .limit hs hlimit hnofile⟩
      · exact .inr ⟨_, .text hs hexpr hlimit hnonneg⟩
      · exact .inl (.inl ⟨out, hinvoke.trans hout, h⟩)
    · have hinvoke : invoke files stdin args =
          s.finishFile path (files.readText path defaultEncoding) := by simp only [invoke, hplan]
      cases hread : files.readText path defaultEncoding with
      | error cause =>
        rw [hread] at hinvoke
        cases cause with
        | notFound _ => exact .inl (.inl ⟨_, hinvoke, .inr (.inl ⟨rfl, rfl⟩)⟩)
        | _ => exact .inl (.inr ⟨s, path, _, hplan, hread, hinvoke⟩)
      | ok text =>
        rw [hread] at hinvoke
        rcases s.finish_some_cases text with ⟨hlimit, -⟩ | ⟨out, hout, h⟩
        · refine .inr ⟨_, .limit hs hlimit fun path' hpath' => ?_⟩
          cases hplan.symm.trans hpath'
          exact ⟨text, hread⟩
        · exact .inl (.inl ⟨out, hinvoke.trans hout, h⟩)
    · have hinvoke : invoke files stdin args = s.finish (some (inputText stdin)) := by
        simp only [invoke, hplan]
      rcases s.finish_some_cases (inputText stdin) with ⟨hlimit, -⟩ | ⟨out, hout, h⟩
      · refine .inr ⟨_, .limit hs hlimit fun path hpath => ?_⟩
        rw [hplan] at hpath
        cases hpath
      · exact .inl (.inl ⟨out, hinvoke.trans hout, h⟩)

/-- What happens when a value that is needed was dropped. -/
theorem invoke_of_dropped {files : FileSystem} {args : List String} {cause : Misuse}
    (h : Dropped files args cause) (stdin : String) :
    invoke files stdin args = .error (.misuse cause) := by
  cases h with
  | @limit s hs hlimit hread =>
    have hfinish : ∀ source, s.finish source = .error (.misuse .missingLimit) := fun source =>
      if_pos hlimit
    rcases Plan.ofArgs_cases hs with ⟨source, -, hplan⟩ | ⟨-, ⟨path, hplan⟩ | hplan⟩
    · simp only [invoke, hplan, hfinish]
    · obtain ⟨text, htext⟩ := hread path hplan
      simp only [invoke, hplan, htext, Settings.finishFile, hfinish]
    · simp only [invoke, hplan, hfinish]
  | @text s hs hexpr hlimit hnonneg =>
    have hplan : Plan.ofArgs args = .text s none := by simp only [Plan.ofArgs, hs, hexpr]
    rcases s.finish_cases none with ⟨h, -⟩ | ⟨-, -, -, h⟩ | ⟨-, ⟨_, h⟩ | ⟨n, hn, hneg⟩, -⟩
    · exact absurd h hlimit
    · simp only [invoke, hplan, h]
    · cases h
    · exact absurd (hnonneg n hn) (Int.not_le.2 hneg)

/-! ### Attached values -/

/-- The argument ends in `--`, and is not `--` itself. -/
def EndsInDashes (arg : String) : Prop := arg ≠ "--" ∧ "--".toList <:+ arg.toList

theorem splitEquals?_suffix {arg s value : String} (h : splitEquals? arg = some (s, value)) :
    value.toList <:+ arg.toList := by
  simp only [splitEquals?] at h
  split at h
  · cases h
  · next c cs hdrop =>
    cases h
    have hsuffix : c :: cs <:+ arg.toList := hdrop ▸ List.dropWhile_suffix _
    rw [String.toList_ofList]
    exact (List.suffix_cons c cs).trans hsuffix

theorem candidates_suffix {arg s value : String} {f : Flag}
    (h : (s, f, some value) ∈ candidates arg) : value.toList <:+ arg.toList := by
  unfold candidates at h
  split at h
  · obtain ⟨x, -, hx⟩ := List.mem_map.1 h
    cases hsplit : splitEquals? arg with
    | none =>
      rw [hsplit] at hx
      cases hx
    | some parts =>
      rw [hsplit] at hx
      cases hx
      exact splitEquals?_suffix hsplit
  · next c cs _ hcs =>
    obtain ⟨x, -, hx⟩ := List.mem_map.1 h
    cases hx
    rw [hcs, String.toList_ofList]
    exact (List.suffix_cons c cs).trans (List.suffix_cons '-' (c :: cs))
  · cases h

namespace Word

theorem ofDashed_suffix {arg s value : String} {f : Flag}
    (h : ofDashed arg = .ok (.option s f (some value))) : value.toList <:+ arg.toList := by
  unfold ofDashed at h
  split at h
  · next hone =>
    cases h
    exact candidates_suffix (by rw [hone]; exact List.mem_singleton_self _)
  · split at h <;> cases h
  · cases h

/-- A value attached to an option is the end of the argument. -/
theorem attached_suffix {arg s value : String} {f : Flag}
    (h : ofArg arg = .ok (.option s f (some value))) : value.toList <:+ arg.toList := by
  unfold ofArg at h
  split at h
  · cases h
  split at h
  · cases h
  split at h
  · exact ofDashed_suffix h
  · next hsplit =>
    split at h
    · cases h
      exact splitEquals?_suffix hsplit
    · exact ofDashed_suffix h

theorem eq_of_ofDashed {arg text : String} (h : ofDashed arg = .ok (.plain text)) : arg = text := by
  unfold ofDashed at h
  split at h
  · cases h
  · split at h <;> cases h
    rfl
  · cases h

theorem eq_of_ofArg {arg text : String} (h : ofArg arg = .ok (.plain text)) : arg = text := by
  unfold ofArg at h
  split at h
  · cases h
    rfl
  split at h
  · cases h
  split at h
  · exact eq_of_ofDashed h
  · split at h
    · cases h
    · exact eq_of_ofDashed h

end Word

namespace Occurrence

theorem ofAttached_suffix {flag : Flag} {single : Bool} {cs : List Char} {os : List Occurrence}
    (h : ofAttached flag single cs = .ok os) {o : Occurrence} (ho : o ∈ os) {value : String}
    (hvalue : o.attached = some value) : value.toList <:+ cs := by
  fun_induction ofAttached flag single cs generalizing os with
  | case1 =>
    cases h
    cases List.mem_singleton.1 ho
    cases hvalue
    exact List.suffix_rfl
  | case3 flag single c cs =>
    cases h
    cases List.mem_singleton.1 ho
    cases hvalue
    exact ⟨[], String.toList_ofList⟩
  | case6 =>
    cases h
    simp only [List.mem_cons, List.not_mem_nil, or_false] at ho
    rcases ho with rfl | rfl <;> cases hvalue
  | case7 flag single c cs _ _ next _ _ ih =>
    cases hrest : ofAttached next true cs with
    | error e =>
      rw [hrest] at h
      cases h
    | ok rest =>
      rw [hrest] at h
      cases h
      cases List.mem_cons.1 ho with
      | inl hfirst =>
        cases hfirst
        cases hvalue
      | inr hmem => exact (ih hrest hmem).trans (List.suffix_cons c cs)
  | case2 => cases h
  | case4 => cases h
  | case5 => cases h

/-- So is the value attached to an option that stands among others in one word. -/
theorem ofWord_suffix {spelling : String} {flag : Flag} {attached : Option String}
    {os : List Occurrence} (h : ofWord spelling flag attached = .ok os) {o : Occurrence}
    (ho : o ∈ os) {value : String} (hvalue : o.attached = some value) :
    ∃ whole, attached = some whole ∧ value.toList <:+ whole.toList := by
  cases attached with
  | none =>
    cases h
    cases List.mem_singleton.1 ho
    cases hvalue
  | some whole => exact ⟨whole, rfl, ofAttached_suffix h ho hvalue⟩

end Occurrence

/-! ### Words without attached dashes -/

/-- No option comes with a value that ends in `--`, or before a plain `--`. -/
def Tidy : List Word → Prop
  | [] => True
  | .option _ _ attached :: ws =>
    (∀ value, attached = some value → ¬ "--".toList <:+ value.toList) ∧
      ws.head? ≠ some (.plain "--") ∧ Tidy ws
  | _ :: ws => Tidy ws

theorem tidy_map_plain (texts : List String) : Tidy (texts.map .plain) := by
  induction texts with
  | nil => trivial
  | cons text texts ih => exact ih

theorem tidy_dropSeparator {ws : List Word} (h : Tidy ws) : Tidy (Reading.dropSeparator ws) := by
  unfold Reading.dropSeparator
  split
  · exact h
  · exact h

/-- The first `--` is not plain. -/
theorem head?_words_ne {args : List String} {ws : List Word} (h : words args = .ok ws) :
    ws.head? ≠ some (.plain "--") := by
  cases args with
  | nil =>
    cases h
    intro hhead
    cases hhead
  | cons arg args =>
    rw [words] at h
    split at h
    · cases h
      intro hhead
      cases hhead
    · next hsep =>
      obtain ⟨w, hw, h⟩ := bind_eq_ok_iff.1 h
      obtain ⟨ws, -, h⟩ := bind_eq_ok_iff.1 h
      cases h
      intro hhead
      cases hhead
      exact hsep (Word.eq_of_ofArg hw)

theorem tidy_words {args : List String} {ws : List Word} (h : words args = .ok ws)
    (hargs : ∀ arg ∈ args, ¬ EndsInDashes arg) : Tidy ws := by
  induction args generalizing ws with
  | nil =>
    cases h
    trivial
  | cons arg args ih =>
    rw [words] at h
    split at h
    · cases h
      exact tidy_map_plain args
    · next hsep =>
      obtain ⟨w, hw, h⟩ := bind_eq_ok_iff.1 h
      obtain ⟨ws, hws, h⟩ := bind_eq_ok_iff.1 h
      cases h
      have hrest : Tidy ws := ih hws fun a ha => hargs a (List.mem_cons_of_mem arg ha)
      cases w with
      | option s f attached =>
        refine ⟨?_, head?_words_ne hws, hrest⟩
        rintro value rfl hdashes
        exact hargs arg List.mem_cons_self ⟨hsep, hdashes.trans (Word.attached_suffix hw)⟩
      | _ => exact hrest

/-! ### Values that are kept -/

/-- No value was dropped. -/
def Settings.Valued (s : Settings) : Prop := s.expr ≠ some none ∧ s.limit ≠ some none

namespace Reading

theorem valued_take {r r' : Reading} (hr : r.settings.Valued) {flag : Flag} {value : String}
    (hvalue : value ≠ "--") (h : r.take flag value = .ok r') : r'.settings.Valued := by
  have hkeep : keepValue value = some value := if_neg hvalue
  simp only [take, hkeep] at h
  cases flag with
  | help => cases h
  | markers =>
    cases h
    exact hr
  | trace =>
    cases h
    exact hr
  | expr =>
    simp only at h
    split at h
    · cases h
    · cases h
      exact ⟨nofun, hr.2⟩
  | maxSteps =>
    simp only at h
    split at h
    · cases h
    · cases h
      exact ⟨hr.1, nofun⟩

theorem valued_takeAll {r r' : Reading} (hr : r.settings.Valued) {os : List Occurrence}
    (hos : ∀ o ∈ os, o.attached ≠ some "--") {value : String} (hvalue : value ≠ "--")
    (h : r.takeAll os value = .ok r') : r'.settings.Valued := by
  unfold takeAll at h
  induction os generalizing r with
  | nil =>
    cases h
    exact hr
  | cons o os ih =>
    rw [List.foldlM_cons] at h
    obtain ⟨next, hnext, h⟩ := bind_eq_ok_iff.1 h
    have hgiven : o.attached.getD value ≠ "--" := by
      have ho := hos o List.mem_cons_self
      cases hattached : o.attached with
      | none => exact hvalue
      | some given =>
        rintro rfl
        exact ho hattached
    exact ih (valued_take hr hgiven hnext) (fun o ho => hos o (List.mem_cons_of_mem _ ho)) h

theorem valued_takeFile {r r' : Reading} (hr : r.settings.Valued) {path : String}
    (h : r.takeFile path = .ok r') : r'.settings.Valued := by
  unfold takeFile at h
  split at h
  · cases h
  · cases h
    exact hr

/-- How an option is acted on: with its own values, or with the plain word after it. -/
theorem exists_takeAll_of_consume {r r' : Reading} {spelling : String} {flag : Flag}
    {attached : Option String} {ws : List Word}
    (h : r.consume (.option spelling flag attached :: ws) = .ok r') :
    ∃ os value rest next, Occurrence.ofWord spelling flag attached = .ok os ∧
      (value = "" ∧ rest = ws ∨ ws = .plain value :: rest) ∧
      r.takeAll os value = .ok next ∧ next.consume rest = .ok r' := by
  rw [consume] at h
  cases hos : Occurrence.ofWord spelling flag attached with
  | error e =>
    rw [hos] at h
    cases h
  | ok os =>
    rw [hos] at h
    obtain ⟨_, hsame, h⟩ := bind_eq_ok_iff.1 h
    cases hsame
    split at h
    · obtain ⟨next, hnext, h⟩ := bind_eq_ok_iff.1 h
      exact ⟨os, "", ws, next, rfl, .inl ⟨rfl, rfl⟩, hnext, h⟩
    · split at h
      · next value rest _ =>
        obtain ⟨next, hnext, h⟩ := bind_eq_ok_iff.1 h
        exact ⟨os, value, rest, next, rfl, .inr rfl, hnext, h⟩
      · cases h

theorem valued_consume {r r' : Reading} {ws : List Word} (hr : r.settings.Valued) (hws : Tidy ws)
    (h : r.consume ws = .ok r') : r'.settings.Valued := by
  -- a step takes one word or two, so the induction is on how many there are
  induction hn : ws.length using Nat.strongRecOn generalizing r ws with
  | _ n ih =>
    subst hn
    cases ws with
    | nil =>
      rw [consume] at h
      cases h
      exact hr
    | cons w ws =>
      have hless : ws.length < (w :: ws).length := Nat.lt_succ_self _
      cases w with
      | unknown arg =>
        have hrest : Tidy ws := hws
        rw [consume] at h
        exact ih _ hless (r := r.leave arg) hr hrest h rfl
      | separator =>
        have hrest : Tidy ws := hws
        rw [consume] at h
        split at h
        · exact ih _ hless hr hrest h rfl
        · exact ih _ hless (r := r.leave "--") hr hrest h rfl
      | plain arg =>
        have hrest : Tidy ws := hws
        rw [consume] at h
        split at h
        · obtain ⟨next, hnext, h⟩ := bind_eq_ok_iff.1 h
          have hdrop : (dropSeparator ws).length < (Word.plain arg :: ws).length :=
            Nat.lt_succ_of_le (length_dropSeparator_le ws)
          exact ih _ hdrop (valued_takeFile hr hnext) (tidy_dropSeparator hrest) h rfl
        · exact ih _ hless (r := r.leave arg) hr hrest h rfl
      | option spelling flag attached =>
        obtain ⟨hattached, hhead, hrest⟩ := hws
        obtain ⟨os, value, rest, next, hos, hvalue, hnext, hgoes⟩ := exists_takeAll_of_consume h
        have hgiven : ∀ o ∈ os, o.attached ≠ some "--" := by
          intro o ho hdashes
          obtain ⟨whole, hwhole, hsuffix⟩ := Occurrence.ofWord_suffix hos ho hdashes
          exact hattached whole hwhole hsuffix
        rcases hvalue with ⟨rfl, rfl⟩ | rfl
        · exact ih _ hless (valued_takeAll hr hgiven (by decide) hnext) hrest hgoes rfl
        · have hplain : value ≠ "--" := by
            rintro rfl
            exact hhead rfl
          have hrest : Tidy rest := hrest
          have hnext : next.settings.Valued := valued_takeAll hr hgiven hplain hnext
          exact ih _ (Nat.lt_of_succ_lt hless) hnext hrest hgoes rfl

end Reading

/-- Without an argument that ends in `--`, no value is dropped. -/
theorem Settings.valued_of_ofArgs {args : List String} {s : Settings}
    (h : ofArgs args = .ok s) (hargs : ∀ arg ∈ args, ¬ EndsInDashes arg) : s.Valued := by
  unfold ofArgs at h
  cases hws : words args with
  | error e =>
    rw [hws] at h
    cases h
  | ok ws =>
    rw [hws] at h
    obtain ⟨_, hsame, h⟩ := bind_eq_ok_iff.1 h
    cases hsame
    obtain ⟨r, hr, h⟩ := bind_eq_ok_iff.1 h
    split at h
    · cases h
      have hstart : Reading.start.settings.Valued := ⟨nofun, nofun⟩
      exact Reading.valued_consume hstart (tidy_words hws hargs) hr
    · cases h

theorem exists_endsInDashes_of_dropped {files : FileSystem} {args : List String} {cause : Misuse}
    (h : Dropped files args cause) : ∃ arg ∈ args, EndsInDashes arg := by
  refine Classical.byContradiction fun hnone => ?_
  have hargs : ∀ arg ∈ args, ¬ EndsInDashes arg := fun arg hmem hends => hnone ⟨arg, hmem, hends⟩
  cases h with
  | limit hs hlimit _ => exact (Settings.valued_of_ofArgs hs hargs).2 hlimit
  | text hs hexpr _ _ => exact (Settings.valued_of_ofArgs hs hargs).1 hexpr

theorem not_contained_of_misuse {files : FileSystem} {stdin : String} {args : List String}
    {cause : Misuse} (h : invoke files stdin args = .error (.misuse cause)) :
    ¬ Contained files stdin args := by
  rintro (⟨out, hout, -⟩ | ⟨s, path, e, -, -, he⟩)
  · cases h.symm.trans hout
  · cases h.symm.trans he

/-- **An invocation ends as it is meant to unless a value was dropped.** Whatever the arguments,
standard input and the files are, there is an exit code for success or for a complaint, with nothing
on standard output unless it is that for success, or else it is passed on why the program file
cannot be read. The one exception is that a value that is needed was dropped, and then this is what
is passed on. It takes an argument that ends in `--` and is more than that. -/
theorem invoke_contained_iff (files : FileSystem) (stdin : String) (args : List String) :
    (Contained files stdin args ↔ ¬ ∃ cause, Dropped files args cause) ∧
    (∀ cause, invoke files stdin args = .error (.misuse cause) ↔ Dropped files args cause) ∧
    ∀ cause, Dropped files args cause → ∃ arg ∈ args, EndsInDashes arg := by
  refine ⟨⟨?_, ?_⟩, fun cause => ⟨fun hcause => ?_, fun h => invoke_of_dropped h stdin⟩,
    fun cause => exists_endsInDashes_of_dropped⟩
  · rintro h ⟨cause, hdropped⟩
    exact not_contained_of_misuse (invoke_of_dropped hdropped stdin) h
  · intro h
    exact (contained_or_dropped files stdin args).resolve_right h
  · obtain ⟨cause', hdropped⟩ :=
      (contained_or_dropped files stdin args).resolve_left (not_contained_of_misuse hcause)
    cases hcause.symm.trans (invoke_of_dropped hdropped stdin)
    exact hdropped

/-- A program text of two dashes is dropped when it is attached to its option, and so is such a
limit, and neither invocation ends as it is meant to. The same text from standard input is run. -/
theorem invoke_attached_dashes :
    let files : FileSystem := ⟨fun _ => none, []⟩
    invoke files "" ["-e--"] = .error (.misuse .missingText) ∧ ¬ Contained files "" ["-e--"] ∧
    invoke files "" ["--max-steps=--"] = .error (.misuse .missingLimit) ∧
      ¬ Contained files "" ["--max-steps=--"] ∧
    ∃ out, invoke files "--" [] = .ok out ∧ out.exit = 1 := by
  intro files
  have hexpr : Settings.ofArgs ["-e--"] = .ok { expr := some none } := by
    have hws : words ["-e--"] = .ok [.option "-e" .expr (some "--")] := rfl
    rw [Settings.ofArgs, hws]
    show (Reading.start.consume _ >>= _) = _
    rw [Reading.consume]
    show (Reading.consume _ [] >>= _) = _
    rw [Reading.consume]
    rfl
  have hlimit : Settings.ofArgs ["--max-steps=--"] = .ok { limit := some none } := by
    have hws : words ["--max-steps=--"] = .ok [.option "--max-steps" .maxSteps (some "--")] := rfl
    rw [Settings.ofArgs, hws]
    show (Reading.start.consume _ >>= _) = _
    rw [Reading.consume]
    show (Reading.consume _ [] >>= _) = _
    rw [Reading.consume]
    rfl
  have htext : Dropped files ["-e--"] .missingText := by
    refine .text hexpr rfl ?_ fun n hn => ?_
    · decide
    · cases hn
  have hsteps : Dropped files ["--max-steps=--"] .missingLimit := by
    refine .limit hlimit rfl fun path hpath => ?_
    simp only [Plan.ofArgs, hlimit] at hpath
    cases hpath
  have hargs : Settings.ofArgs [] = .ok (.asking .default none none) :=
    @Settings.ofArgs_argsOf [] (List.forall_mem_nil _)
  have htokens : Source.tokenize "--" = .ok [.dec, .dec] :=
    Source.tokenize_of_symbols (by decide) (by decide)
  refine ⟨invoke_of_dropped htext "", not_contained_of_misuse (invoke_of_dropped htext ""),
    invoke_of_dropped hsteps "", not_contained_of_misuse (invoke_of_dropped hsteps ""), ?_⟩
  rw [invoke_of_input (by decide) hargs, runText_of_ok htokens]
  exact ⟨_, rfl, rfl⟩

end MarkTape.CommandLine
