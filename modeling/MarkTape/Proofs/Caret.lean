import MarkTape.Proofs.Snippet

/-!
# The caret under a rejected character

The caret is meant to stand under the character that does not belong. It does as long as the number
of the line fits into the four characters that are set aside for it; a longer number pushes its line
to the right, and the caret stays behind.

* `Pointed`: the row that is pointed at, and the row under it;
* `offsetIn`: the offset of a character of a line in a row that ends in the line;
* `CaretUnder`: the caret stands under the rejected character;
* `caretUnder_iff`: exactly when it does.
-/

namespace MarkTape.Source

/-! ### The row that is pointed at -/

/-- Among the rows, `marked` is the only one that starts with the pointer. It ends in the line after
its number and a bar, and the row under it ends in a caret. -/
structure Pointed (rows : List String) (line : Nat) (l marked caret : String) : Prop where
  only : ∃ k, rows[k]? = some marked ∧ rows[k + 1]? = some caret ∧
    ∀ j shown, rows[j]? = some shown → (shown.toList.head? = some '>' ↔ j = k)
  marked_eq : ∃ front, marked = front ++ Text.natural line ++ " | " ++ l
  caret_eq : ∃ front, caret = front ++ "^"

/-- The offset, in a row that ends in the line `l`, of the character at `column` of that line. -/
def offsetIn (marked l : String) (column : Nat) : Nat := marked.length - l.length + (column - 1)

/-- The caret, which ends its row, has the offset that the rejected character has in the row
above. -/
def CaretUnder (s : String) (r : Rejection) : Prop :=
  ∃ c line column o l marked caret, PointsAt s r c line column o ∧
    (Text.splitLines s)[line - 1]? = some l ∧
    Pointed (Text.splitLines r.context) line l marked caret ∧
    marked.toList[offsetIn marked l column]? = some c ∧
    caret.length - 1 = offsetIn marked l column

theorem head?_row (pointed : Bool) (number : Nat) (line : String) :
    (row pointed number line).toList.head? = some '>' ↔ pointed = true := by
  rw [toList_row]
  cases pointed <;> simp [rowChars]

theorem head?_caretRow (column : Int) : (caretRow column).toList.head? ≠ some '>' := by
  simp [toList_caretRow, caretChars]

/-- The pointed row is found by its place, so there is no other. -/
theorem Pointed.unique {rows : List String} {line line' : Nat} {l l' marked marked' : String}
    {caret caret' : String} (h : Pointed rows line l marked caret)
    (h' : Pointed rows line' l' marked' caret') : marked = marked' ∧ caret = caret' := by
  obtain ⟨k, hmarked, hcaret, honly⟩ := h.only
  obtain ⟨k', hmarked', hcaret', honly'⟩ := h'.only
  obtain rfl : k' = k := (honly k' marked' hmarked').1 ((honly' k' marked' hmarked').2 rfl)
  exact ⟨Option.some.inj (hmarked.symm.trans hmarked'),
    Option.some.inj (hcaret.symm.trans hcaret')⟩

/-- Only the row of the line in focus starts with the pointer. -/
theorem head?_eq_pointer_iff {before after : List String} {line j : Nat} {l shown : String}
    {column : Int}
    (hothers : ∀ shown ∈ before ++ after, ∃ text number, shown = row false number text)
    (hj : (before ++ row true line l :: caretRow column :: after)[j]? = some shown) :
    shown.toList.head? = some '>' ↔ j = before.length := by
  have hplain : shown ∈ before ++ after → shown.toList.head? ≠ some '>' := by
    intro hshown
    obtain ⟨text, number, rfl⟩ := hothers shown hshown
    simp [head?_row]
  rcases Nat.lt_trichotomy j before.length with hlt | rfl | hgt
  · rw [List.getElem?_append_left hlt] at hj
    have hhead := hplain (List.mem_append_left _ (List.mem_of_getElem? hj))
    exact ⟨fun h => absurd h hhead, fun h => absurd h (Nat.ne_of_lt hlt)⟩
  · rw [List.getElem?_append_right (Nat.le_refl _), Nat.sub_self] at hj
    cases hj
    simp [head?_row]
  · obtain ⟨i, rfl⟩ := Nat.exists_eq_add_of_lt hgt
    have hhead : shown.toList.head? ≠ some '>' := by
      rw [List.getElem?_append_right (Nat.le_of_lt hgt), Nat.add_assoc, Nat.add_sub_cancel_left,
        List.getElem?_cons_succ] at hj
      rcases List.mem_cons.1 (List.mem_of_getElem? hj) with rfl | hshown
      · exact head?_caretRow column
      · exact hplain (List.mem_append_right _ hshown)
    exact ⟨fun h => absurd h hhead, fun h => absurd h (Nat.ne_of_gt hgt)⟩

theorem pointed_rows {before after : List String} {line : Nat} {l : String} {column : Int}
    (hothers : ∀ shown ∈ before ++ after, ∃ text number, shown = row false number text) :
    Pointed (before ++ row true line l :: caretRow column :: after) line l (row true line l)
      (caretRow column) := by
  refine ⟨⟨before.length, ?_, ?_, fun j shown hj => head?_eq_pointer_iff hothers hj⟩, ?_,
    ⟨_, rfl⟩⟩
  · simp
  · simp
  · refine ⟨String.ofList ('>' :: ' ' ::
      List.replicate (4 - (Nat.toDigits 10 line).length) ' '), String.toList_injective ?_⟩
    simp [toList_row, rowChars, Text.natural]

/-! ### Offsets -/

/-- A character of a line has its place in a row that ends in the line. -/
theorem getElem?_offsetIn (front l : String) (column : Nat) :
    (front ++ l).toList[offsetIn (front ++ l) l column]? = l.toList[column - 1]? := by
  rw [offsetIn, String.length_append, Nat.add_sub_cancel, String.toList_append,
    ← String.length_toList, List.getElem?_append_right (Nat.le_add_right _ _),
    Nat.add_sub_cancel_left]

/-- What a number has over four digits pushes its line away from the caret. -/
theorem offsetIn_row (line column : Nat) (l : String) :
    offsetIn (row true line l) l column =
      (caretRow column).length - 1 + ((Text.natural line).length - 4) := by
  have hrow : (row true line l).length =
      5 + max 4 (Text.natural line).length + l.length := by
    rw [← String.length_toList, toList_row, length_rowChars, Text.natural, String.length_ofList,
      String.length_toList]
  have hcaret : (caretRow column).length = 10 + (column - 1) := by
    rw [← String.length_toList, toList_caretRow, length_caretChars]
    omega
  rw [offsetIn, hrow, hcaret]
  omega

section Rejected

variable {s : String} {r : Rejection} {c : Char} {line column o : Nat}

theorem PointsAt.exists_pointed (hpoints : PointsAt s r c line column o)
    (h : tokenize s = .error r) :
    ∃ l, (Text.splitLines s)[line - 1]? = some l ∧
      Pointed (Text.splitLines r.context) line l (row true line l) (caretRow column) ∧
      (row true line l).toList[offsetIn (row true line l) l column]? = some c := by
  obtain ⟨l, before, after, hl, hc, hothers, hrows, hlines⟩ := hpoints.exists_rows h
  refine ⟨l, hl, ?_, (getElem?_offsetIn _ l column).trans hc⟩
  rw [hlines, hrows]
  exact pointed_rows hothers

theorem caretUnder_iff_line_lt (h : tokenize s = .error r) : CaretUnder s r ↔ r.line < 10000 := by
  obtain ⟨c, line, column, o, hpoints⟩ := exists_pointsAt h
  obtain ⟨l, hl, hpointed, hchar⟩ := hpoints.exists_pointed h
  have hshift := offsetIn_row line column l
  have hfits : (Text.natural line).length ≤ 4 ↔ line < 10000 :=
    Text.length_natural_le_iff (by decide) line
  rw [hpoints.line_eq]
  constructor
  · rintro ⟨c', line', column', o', l', marked, caret, hpoints', hl', hpointed', -, hunder⟩
    -- the rejection has one place, and the rows of its context have one pointer
    obtain rfl : line = line' := Int.ofNat_inj.1 (hpoints.line_eq.symm.trans hpoints'.line_eq)
    obtain rfl : column = column' :=
      Int.ofNat_inj.1 (hpoints.column_eq.symm.trans hpoints'.column_eq)
    obtain rfl : l = l' := Option.some.inj (hl.symm.trans hl')
    obtain ⟨rfl, rfl⟩ := hpointed.unique hpointed'
    omega
  · intro hline
    refine ⟨c, line, column, o, l, _, _, hpoints, hl, hpointed, hchar, ?_⟩
    omega

end Rejected

/-- **Where the caret stands.** In what is shown around a rejected character, one row starts with
the pointer. It ends in the line of the character, after its number and a bar, and the row under it
ends in a caret. The caret stands as far to the left of the character as the number of the line is
longer than four digits, so it stands under it exactly in the first 9999 lines. -/
theorem caretUnder_iff (s : String) (r : Rejection) (h : tokenize s = .error r) :
    (∃ c line column o l marked caret, PointsAt s r c line column o ∧
      (Text.splitLines s)[line - 1]? = some l ∧
      Pointed (Text.splitLines r.context) line l marked caret ∧
      marked.toList[offsetIn marked l column]? = some c ∧
      offsetIn marked l column = caret.length - 1 + ((Text.natural line).length - 4)) ∧
    (CaretUnder s r ↔ r.line < 10000) := by
  obtain ⟨c, line, column, o, hpoints⟩ := exists_pointsAt h
  obtain ⟨l, hl, hpointed, hchar⟩ := hpoints.exists_pointed h
  exact ⟨⟨c, line, column, o, l, _, _, hpoints, hl, hpointed, hchar, offsetIn_row line column l⟩,
    caretUnder_iff_line_lt h⟩

/-- A letter after three empty lines has the caret under it. -/
theorem caretUnder_iff_letter :
    ∃ r, tokenize "\n\n\nx" = .error r ∧ r.line = 4 ∧ CaretUnder "\n\n\nx" r := by
  have hreject := tokenize_newlines 3 stuck_letter
  exact ⟨_, hreject, rfl, (caretUnder_iff _ _ hreject).2.2 (by decide)⟩

/-- A letter after 9999 empty lines has the caret one place to its left. -/
theorem not_caretUnder_of_long_number :
    ∃ r, tokenize (String.ofList (List.replicate 9999 '\n' ++ ['x'])) = .error r ∧
      r.line = 10000 ∧ ¬ CaretUnder (String.ofList (List.replicate 9999 '\n' ++ ['x'])) r := by
  have hreject := tokenize_newlines 9999 stuck_letter
  have hline : (Stray.rejection (String.ofList (List.replicate 9999 '\n' ++ ['x']))
      ⟨'x', ⟨1 + 9999, 1⟩⟩).line = 10000 := rfl
  refine ⟨_, hreject, hline, fun hunder => ?_⟩
  have hlt := (caretUnder_iff_line_lt hreject).1 hunder
  rw [hline] at hlt
  omega

end MarkTape.Source
