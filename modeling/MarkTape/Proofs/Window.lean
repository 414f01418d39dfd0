import MarkTape.Proofs.Offence

/-!
# The rows around a position

A position is shown by the numbered lines around it and a caret under the line in focus. The lines
can be found in two ways: by going through all lines and keeping those in the window, or by counting
from the first number of the window to the last and looking each line up. Counting never leaves the
text, wherever the position lies and whatever the margin is, and both ways give the same rows.

* `contextRows`: the rows around a position, where nothing is refused;
* `rowChars`, `caretChars`: the two kinds of rows, character by character;
* `isCaretRow`: a row without a number;
* `windowNumbers`, `rowsAt?`: the numbers of the lines in the window, and the rows of each;
* `exists_groups`: the rows around a position, by counting;
* `contextRows_of_line`: the row of the line in focus and the caret, among the others.
-/

namespace MarkTape.Source

/-! ### Rows where nothing is refused -/

/-- The row of a caret at `column`. -/
def caretRow (column : Int) : String := caretAfter (Text.blanks (column - 1))

/-- The rows of one numbered line, written with a pen that never refuses. -/
def rowsOf (focus column margin : Int) (line : String) (number : Nat) : List String :=
  Id.run (rowsWith .free focus column margin line number)

/-- The rows around a position. -/
def contextRows (lines : List String) (line column margin : Int) : List String :=
  (lines.zipIdx 1).flatMap fun p => rowsOf (max 1 line) column margin p.1 p.2

theorem rowsOf_eq (focus column margin : Int) (line : String) (number : Nat) :
    rowsOf focus column margin line number =
      if focus - margin ≤ number ∧ number ≤ focus + margin then
        if (number : Int) = focus then [row true number line, caretRow column]
        else [row false number line]
      else [] := by
  unfold rowsOf rowsWith
  split
  · split <;> rfl
  · rfl

/-! ### Rows, character by character -/

/-- A numbered row: a sign and a blank, the number at the right end of a field of at least four
characters, a bar between blanks, and the line. -/
def rowChars (sign : Char) (number : Nat) (line : List Char) : List Char :=
  sign :: ' ' :: (List.replicate (4 - (Nat.toDigits 10 number).length) ' ' ++
    (Nat.toDigits 10 number ++ ' ' :: '|' :: ' ' :: line))

/-- The row of a caret: seven blanks, a bar and a blank, and the caret, indented. -/
def caretChars (indent : Nat) : List Char :=
  List.replicate 7 ' ' ++ '|' :: ' ' :: (List.replicate indent ' ' ++ ['^'])

theorem toList_row (pointed : Bool) (number : Nat) (line : String) :
    (row pointed number line).toList =
      rowChars (if pointed then '>' else ' ') number line.toList := by
  cases pointed <;> simp [row, rowChars, Text.padLeft, Text.natural]

theorem toList_caretRow (column : Int) :
    (caretRow column).toList = caretChars (column - 1).toNat := by
  simp [caretRow, caretAfter, Text.blanks, caretChars]

theorem length_rowChars (sign : Char) (number : Nat) (line : List Char) :
    (rowChars sign number line).length =
      5 + max 4 (Nat.toDigits 10 number).length + line.length := by
  simp only [rowChars, List.length_cons, List.length_append, List.length_replicate]
  omega

theorem length_caretChars (indent : Nat) : (caretChars indent).length = 10 + indent := by
  simp only [caretChars, List.length_append, List.length_cons, List.length_replicate,
    List.length_nil]
  omega

theorem newline_notMem_rowChars {sign : Char} {line : List Char} (number : Nat)
    (hsign : sign ≠ '\n') (hline : '\n' ∉ line) : '\n' ∉ rowChars sign number line := by
  have hdigits : '\n' ∉ Nat.toDigits 10 number := by
    intro hmem
    exact absurd (Nat.isDigit_of_mem_toDigits (by decide) (by decide) hmem) (by decide)
  simp [rowChars, hsign.symm, hdigits, hline]

theorem newline_notMem_row {line : String} (pointed : Bool) (number : Nat)
    (hline : '\n' ∉ line.toList) : '\n' ∉ (row pointed number line).toList := by
  rw [toList_row]
  exact newline_notMem_rowChars number (by cases pointed <;> decide) hline

theorem newline_notMem_caretChars (indent : Nat) : '\n' ∉ caretChars indent := by
  simp [caretChars]

/-- A row that is blank where a number would stand. -/
def isCaretRow (shown : String) : Bool := (List.replicate 7 ' ').isPrefixOf shown.toList

theorem isCaretRow_caretRow (column : Int) : isCaretRow (caretRow column) = true := by
  rw [isCaretRow, toList_caretRow, List.isPrefixOf_iff_prefix]
  exact List.prefix_append _ _

/-- The first digit of the number is among the first seven characters of its row. -/
theorem isCaretRow_row (pointed : Bool) (number : Nat) (line : String) :
    isCaretRow (row pointed number line) = false := by
  rw [isCaretRow, toList_row, Bool.eq_false_iff, ne_eq, List.isPrefixOf_iff_prefix]
  intro hblank
  obtain ⟨d, ds, hdigits⟩ :=
    List.exists_cons_of_ne_nil (Nat.toDigits_ne_nil (b := 10) (n := number))
  have hd : d.isDigit = true :=
    Nat.isDigit_of_mem_toDigits (by decide) (by decide) (hdigits ▸ List.mem_cons_self)
  have hplace : 2 + (4 - (Nat.toDigits 10 number).length) < (List.replicate 7 ' ').length := by
    rw [hdigits, List.length_replicate, List.length_cons]
    omega
  have hblankThere := List.prefix_iff_getElem?.1 hblank _ hplace
  have hdigitThere : (rowChars (if pointed then '>' else ' ') number line.toList)[
      2 + (4 - (Nat.toDigits 10 number).length)]? = some d := by
    simp [rowChars, Nat.add_comm 2, hdigits]
  rw [hdigitThere, List.getElem_replicate] at hblankThere
  cases hblankThere
  exact absurd hd (by decide)

/-! ### The window -/

/-- The numbers of the lines to be shown, in order: those that are no further than `margin` from
`focus`, within a text of `count` lines. -/
def windowNumbers (count : Nat) (focus margin : Int) : List Nat :=
  List.range' (max 1 (focus - margin)).toNat
    (min (count : Int) (focus + margin) + 1 - max 1 (focus - margin)).toNat

/-- The rows of the line of a given number, which is looked up: the line itself, and the caret under
it if it is the one in focus. -/
def rowsAt? (lines : List String) (focus column : Int) (number : Nat) : Option (List String) :=
  lines[number - 1]?.map fun line =>
    if (number : Int) = focus then
      [String.ofList (rowChars '>' number line.toList),
       String.ofList (caretChars (column - 1).toNat)]
    else [String.ofList (rowChars ' ' number line.toList)]

theorem mem_windowNumbers {count number : Nat} {focus margin : Int} :
    number ∈ windowNumbers count focus margin ↔
      max 1 (focus - margin) ≤ number ∧ (number : Int) ≤ min (count : Int) (focus + margin) := by
  rw [windowNumbers, List.mem_range'_1]
  omega

theorem pairwise_windowNumbers (count : Nat) (focus margin : Int) :
    (windowNumbers count focus margin).Pairwise (· < ·) := List.pairwise_lt_range' 1

theorem length_windowNumbers_le (count : Nat) (focus margin : Int) :
    ((windowNumbers count focus margin).length : Int) ≤ max 0 (2 * margin + 1) := by
  rw [windowNumbers, List.length_range']
  omega

theorem row_eq (pointed : Bool) (number : Nat) (line : String) :
    row pointed number line =
      String.ofList (rowChars (if pointed then '>' else ' ') number line.toList) :=
  String.toList_injective ((toList_row pointed number line).trans String.toList_ofList.symm)

theorem caretRow_eq (column : Int) :
    caretRow column = String.ofList (caretChars (column - 1).toNat) :=
  String.toList_injective ((toList_caretRow column).trans String.toList_ofList.symm)

section Rows

variable {focus column margin : Int}

/-- A line in the window is shown by the rows that are found by its number. -/
theorem rowsAt?_of_window {lines : List String} {line : String} {number : Nat}
    (hline : lines[number - 1]? = some line)
    (hwindow : focus - margin ≤ number ∧ (number : Int) ≤ focus + margin) :
    rowsAt? lines focus column number = some (rowsOf focus column margin line number) := by
  rw [rowsAt?, hline, Option.map_some, rowsOf_eq, if_pos hwindow, row_eq true, row_eq false,
    caretRow_eq]
  rfl

/-- Lines outside the window are not shown. -/
theorem flatMap_rowsOf_eq_nil {texts : List String} {first : Nat}
    (h : ∀ i : Nat, first ≤ i → i < first + texts.length →
      ¬ (focus - margin ≤ i ∧ (i : Int) ≤ focus + margin)) :
    ((texts.zipIdx first).flatMap fun p => rowsOf focus column margin p.1 p.2) = [] := by
  rw [List.flatMap_eq_nil_iff]
  rintro ⟨text, i⟩ hmem
  obtain ⟨hfirst, hlast, -⟩ := List.mem_zipIdx hmem
  rw [rowsOf_eq, if_neg (h i hfirst hlast)]

/-- Of a text only the part in the window is shown, not what stands before or after it. -/
theorem flatMap_rowsOf_append {before texts after : List String}
    (hbefore : ∀ i : Nat, 1 ≤ i → i < 1 + before.length →
      ¬ (focus - margin ≤ i ∧ (i : Int) ≤ focus + margin))
    (hafter : ∀ i : Nat, before.length + 1 + texts.length ≤ i →
      i < before.length + 1 + texts.length + after.length →
      ¬ (focus - margin ≤ i ∧ (i : Int) ≤ focus + margin)) :
    (((before ++ (texts ++ after)).zipIdx 1).flatMap
        fun p => rowsOf focus column margin p.1 p.2) =
      (texts.zipIdx (before.length + 1)).flatMap fun p => rowsOf focus column margin p.1 p.2 := by
  rw [List.zipIdx_append, List.zipIdx_append, List.flatMap_append, List.flatMap_append,
    flatMap_rowsOf_eq_nil hbefore, Nat.add_comm 1, flatMap_rowsOf_eq_nil hafter, List.nil_append,
    List.append_nil]

/-- Lines in the window are shown one after the other, as they are found by their numbers. -/
theorem mapM_rowsAt? (before texts after : List String)
    (h : ∀ i : Nat, before.length < i → i ≤ before.length + texts.length →
      focus - margin ≤ i ∧ (i : Int) ≤ focus + margin) :
    (List.range' (before.length + 1) texts.length).mapM
        (rowsAt? (before ++ (texts ++ after)) focus column) =
      some ((texts.zipIdx (before.length + 1)).map
        fun p => rowsOf focus column margin p.1 p.2) := by
  induction texts generalizing before with
  | nil => rfl
  | cons text texts ih =>
    have hhere : (before ++ (text :: texts ++ after))[before.length + 1 - 1]? = some text := by
      simp
    have hfirst : rowsAt? (before ++ (text :: texts ++ after)) focus column (before.length + 1) =
        some (rowsOf focus column margin text (before.length + 1)) :=
      rowsAt?_of_window hhere (h _ (Nat.lt_succ_self _) (by simp))
    have hrest := ih (before ++ [text]) fun i hlow hhigh => by
      simp only [List.length_append, List.length_singleton] at hlow hhigh
      refine h i (by omega) ?_
      rw [List.length_cons]
      omega
    rw [List.append_assoc, List.length_append, List.length_singleton] at hrest
    rw [List.length_cons, List.range'_succ, List.mapM_cons, hfirst]
    simp only [List.cons_append, List.nil_append] at hrest ⊢
    rw [hrest]
    rfl

/-- A text is cut into what is skipped, some lines after that, and the rest. -/
theorem exists_split (lines : List String) (skipped n : Nat) (h : skipped + n ≤ lines.length) :
    ∃ before texts after, before ++ (texts ++ after) = lines ∧ before.length = skipped ∧
      texts.length = n := by
  refine ⟨lines.take skipped, (lines.drop skipped).take n, (lines.drop skipped).drop n, ?_, ?_, ?_⟩
  · rw [List.take_append_drop, List.take_append_drop]
  · rw [List.length_take]
    omega
  · rw [List.length_take, List.length_drop]
    omega

/-- **The rows around a position.** They are found by counting through the numbers of the window and
looking each line up, and none is missed. -/
theorem exists_groups (lines : List String) (line column margin : Int) :
    ∃ groups, (windowNumbers lines.length (max 1 line) margin).mapM
        (rowsAt? lines (max 1 line) column) = some groups ∧
      contextRows lines line column margin = groups.flatten := by
  generalize hfocus : max 1 line = focus
  rw [contextRows, hfocus, windowNumbers]
  generalize hn : (min (lines.length : Int) (focus + margin) + 1 - max 1 (focus - margin)).toNat = n
  rcases Nat.eq_zero_or_pos n with rfl | hpos
  · refine ⟨[], rfl, flatMap_rowsOf_eq_nil fun i hlow hhigh => ?_⟩
    omega
  · -- the lines before the window, those in it, and those after it
    obtain ⟨before, texts, after, rfl, hbefore, rfl⟩ :=
      exists_split lines ((max 1 (focus - margin)).toNat - 1) n (by omega)
    rw [List.length_append, List.length_append] at hn
    refine ⟨(texts.zipIdx (before.length + 1)).map fun p => rowsOf focus column margin p.1 p.2, ?_,
      ?_⟩
    · rw [show (max 1 (focus - margin)).toNat = before.length + 1 by omega]
      exact mapM_rowsAt? before texts after fun i hlow hhigh => by omega
    · rw [flatMap_rowsOf_append (fun i hlow hhigh => by omega) fun i hlow hhigh => by omega,
        List.flatMap_def]

/-- A row other than that of the line in focus and its caret is a numbered line. -/
theorem exists_of_mem_flatMap_rowsOf {texts : List String} {first : Nat} {shown : String}
    (hfocus : ∀ i : Nat, first ≤ i → i < first + texts.length → (i : Int) ≠ focus)
    (h : shown ∈ (texts.zipIdx first).flatMap fun p => rowsOf focus column margin p.1 p.2) :
    ∃ text ∈ texts, ∃ number, shown = row false number text := by
  obtain ⟨⟨text, i⟩, hmem, hshown⟩ := List.mem_flatMap.1 h
  obtain ⟨hlow, hhigh, htext⟩ := List.mem_zipIdx hmem
  refine ⟨text, htext ▸ List.getElem_mem _, i, ?_⟩
  simp only [rowsOf_eq, if_neg (hfocus i hlow hhigh)] at hshown
  split at hshown
  · exact List.mem_singleton.1 hshown
  · exact absurd hshown List.not_mem_nil

/-- Where the line in focus is there, its row and the caret stand among rows of other lines. -/
theorem contextRows_of_line {lines : List String} {line : Nat} {l : String} (hpos : 1 ≤ line)
    (hl : lines[line - 1]? = some l) (column : Int) (hmargin : 0 ≤ margin) :
    ∃ before after,
      contextRows lines line column margin =
        before ++ row true line l :: caretRow column :: after ∧
      ∀ shown ∈ before ++ after, ∃ text ∈ lines, ∃ number, shown = row false number text := by
  obtain ⟨pre, post, rfl, hpre⟩ : ∃ pre post, lines = pre ++ l :: post ∧ pre.length = line - 1 := by
    obtain ⟨hlt, rfl⟩ := List.getElem?_eq_some_iff.1 hl
    refine ⟨lines.take (line - 1), lines.drop (line - 1 + 1), ?_, ?_⟩
    · rw [List.getElem_cons_drop, List.take_append_drop]
    · rw [List.length_take]
      omega
  have hhere : rowsOf line column margin l line = [row true line l, caretRow column] := by
    rw [rowsOf_eq, if_pos (by omega), if_pos rfl]
  refine ⟨(pre.zipIdx 1).flatMap fun p => rowsOf line column margin p.1 p.2,
    (post.zipIdx (line + 1)).flatMap fun p => rowsOf line column margin p.1 p.2, ?_, ?_⟩
  · show (((pre ++ l :: post).zipIdx 1).flatMap
      fun p => rowsOf (max 1 (line : Int)) column margin p.1 p.2) = _
    rw [List.zipIdx_append, List.zipIdx_cons, List.flatMap_append, List.flatMap_cons,
      show max 1 (line : Int) = line by omega, show 1 + pre.length = line by omega, hhere]
    rfl
  · intro shown hshown
    rcases List.mem_append.1 hshown with hshown | hshown
    · obtain ⟨text, htext, number, rfl⟩ :=
        exists_of_mem_flatMap_rowsOf (fun i hlow hhigh => by omega) hshown
      exact ⟨text, List.mem_append_left _ htext, number, rfl⟩
    · obtain ⟨text, htext, number, rfl⟩ :=
        exists_of_mem_flatMap_rowsOf (fun i hlow hhigh => by omega) hshown
      exact ⟨text, List.mem_append_right _ (List.mem_cons_of_mem _ htext), number, rfl⟩

end Rows

end MarkTape.Source
