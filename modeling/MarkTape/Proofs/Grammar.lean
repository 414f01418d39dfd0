import MarkTape.Source.Lexer

/-!
# The grammar of program text

Program text is a row of items: blanks, instruction symbols, and comments of two kinds. A line
comment reaches as far as it can, so it stands before a newline or at the end of the text; a block
comment ends at the first `*/` after its opener. Reading blanks out the comments and then scans
the characters, and it never looks at items; still it accepts exactly the texts that are made of
items, and gives their instructions.

* `Item`, `Item.text`, `Item.tokens`: the items, their characters and their instructions;
* `Placed`: every line comment of a row of items reaches as far as it can;
* `scan_blankComments_items`: reading passes over any row of items;
* `exists_items`: every text is a row of items up to its end or up to a character that does not
  belong;
* `tokenize_of_items`, `exists_items_of_tokenize`: a row of items is accepted, and an accepted text
  is one;
* `tokenize_eq_ok_iff`: the texts that are accepted, and what they give.
-/

namespace MarkTape.Source

/-- An item of program text. -/
inductive Item
  /-- White space. -/
  | blank (c : Char) (isBlank : Text.isBlank c = true)
  /-- The symbol of an instruction. -/
  | operator (x : Token) (isInstruction : x.isInstruction = true)
  /-- A comment up to the end of its line, by what follows its opener. -/
  | line (body : List Char) (noNewline : '\n' ∉ body)
  /-- A comment between its opener and the first closer, by what stands between them. -/
  | block (body : List Char) (noClose : ¬ ['*', '/'] <:+: body)

namespace Item

/-- The characters of an item. -/
def text : Item → List Char
  | .blank c _ => [c]
  | .operator x _ => [x.symbol]
  | .line body _ => '/' :: '/' :: body
  | .block body _ => '/' :: '*' :: (body ++ ['*', '/'])

/-- The instructions of an item: one for an operator, none for anything else. -/
def tokens : Item → List Token
  | .operator x _ => [x]
  | _ => []

/-- The item may stand before `rest`: a line comment reaches up to a newline or the end. -/
def Before : Item → List Char → Prop
  | .line _ _, rest => rest = [] ∨ ∃ cs, rest = '\n' :: cs
  | _, _ => True

/-- What is left of an item when comments are blanked. -/
def blanked : Item → List Char
  | .line body _ => ' ' :: ' ' :: body.map blankOut
  | .block body _ => ' ' :: ' ' :: (body ++ ['*', '/']).map blankOut
  | i => i.text

end Item

/-- The characters of a row of items. -/
def textOf (items : List Item) : List Char := items.flatMap Item.text

/-- The instructions of a row of items, in order. -/
def tokensOf (items : List Item) : List Token := items.flatMap Item.tokens

/-- Each item of the row may stand before what follows it, where `rest` follows the last. -/
def Placed : List Item → List Char → Prop
  | [], _ => True
  | i :: items, rest => i.Before (textOf items ++ rest) ∧ Placed items rest

theorem textOf_append (items more : List Item) :
    textOf (items ++ more) = textOf items ++ textOf more :=
  List.flatMap_append

theorem Placed.append {items more : List Item} {rest : List Char}
    (h : Placed items (textOf more ++ rest)) (hmore : Placed more rest) :
    Placed (items ++ more) rest := by
  induction items with
  | nil => exact hmore
  | cons i items ih =>
    obtain ⟨hi, hitems⟩ := h
    refine ⟨?_, ih hitems⟩
    show i.Before (textOf (items ++ more) ++ rest)
    rwa [textOf_append, List.append_assoc]

/-! ### Block comments end at the first closer -/

theorem splitClose?_append {body : List Char} (h : ¬ ['*', '/'] <:+: body) (rest : List Char) :
    splitClose? (body ++ '*' :: '/' :: rest) = some (body ++ ['*', '/'], rest) := by
  induction body with
  | nil => rfl
  | cons c body ih =>
    rw [List.infix_cons_iff, not_or] at h
    have hc : ∀ cs, c = '*' → body ++ '*' :: '/' :: rest ≠ '/' :: cs := by
      rintro cs rfl he
      cases body with
      | nil => cases he
      | cons d body =>
        cases he
        exact h.1 ⟨body, rfl⟩
    rw [List.cons_append, splitClose?.eq_3 _ _ hc, ih h.2]
    rfl

theorem exists_of_splitClose? {cs part rest : List Char}
    (h : splitClose? cs = some (part, rest)) :
    ∃ body, part = body ++ ['*', '/'] ∧ ¬ ['*', '/'] <:+: body := by
  fun_induction splitClose? cs generalizing part rest with
  | case1 => cases h
  | case2 cs =>
    cases h
    exact ⟨[], rfl, by simp⟩
  | case3 c cs hc ih =>
    obtain ⟨⟨part, rest⟩, hp, he⟩ := Option.map_eq_some_iff.1 h
    cases he
    obtain ⟨body, rfl, hbody⟩ := ih hp
    refine ⟨c :: body, rfl, ?_⟩
    rw [List.infix_cons_iff, not_or]
    refine ⟨?_, hbody⟩
    -- a closer at the front would have ended the text here
    rintro ⟨tail, he⟩
    have hcs := append_of_splitClose? hp
    cases he
    exact hc _ rfl (by rw [← hcs]; rfl)

/-- Without a closer there is nothing to cut. -/
theorem splitClose?_eq_none {cs : List Char} (h : ¬ ['*', '/'] <:+: cs) :
    splitClose? cs = none := by
  cases hclose : splitClose? cs with
  | none => rfl
  | some cut =>
    obtain ⟨part, rest⟩ := cut
    obtain ⟨body, rfl, -⟩ := exists_of_splitClose? hclose
    exact absurd ⟨body, rest, append_of_splitClose? hclose⟩ h

/-! ### Blanking, item by item -/

theorem blankComments_of_ne {c : Char} (h : c ≠ '/') (cs : List Char) :
    blankComments (c :: cs) = c :: blankComments cs := by
  rw [blankComments]
  · exact fun _ hc => absurd hc h
  · exact fun _ hc => absurd hc h

theorem blankComments_line {body rest : List Char} (h : '\n' ∉ body)
    (hrest : rest = [] ∨ ∃ cs, rest = '\n' :: cs) :
    blankComments ('/' :: '/' :: (body ++ rest)) =
      ' ' :: ' ' :: body.map blankOut ++ blankComments rest := by
  have hbody : ∀ c ∈ body, decide (c ≠ '\n') = true := by
    intro c hc
    simp only [ne_eq, decide_eq_true_eq]
    rintro rfl
    exact h hc
  rw [blankComments, List.takeWhile_append_of_pos hbody, List.dropWhile_append_of_pos hbody]
  rcases hrest with rfl | ⟨cs, rfl⟩ <;> simp

theorem blankComments_block {body : List Char} (h : ¬ ['*', '/'] <:+: body) (rest : List Char) :
    blankComments ('/' :: '*' :: (body ++ '*' :: '/' :: rest)) =
      ' ' :: ' ' :: (body ++ ['*', '/']).map blankOut ++ blankComments rest := by
  rw [blankComments]
  split
  · next part rest' hclose =>
    rw [splitClose?_append h] at hclose
    cases hclose
    rfl
  · next hclose =>
    rw [splitClose?_append h] at hclose
    cases hclose

theorem isBlank_slash : Text.isBlank '/' = false := by decide

theorem symbol_ne_slash (x : Token) : x.symbol ≠ '/' := by
  cases x <;> decide

/-- Blanking works on the first item and then on the rest. -/
theorem blankComments_item (i : Item) {rest : List Char} (h : i.Before rest) :
    blankComments (i.text ++ rest) = i.blanked ++ blankComments rest := by
  cases i with
  | blank c hc =>
    refine blankComments_of_ne ?_ rest
    rintro rfl
    rw [isBlank_slash] at hc
    cases hc
  | operator x hx => exact blankComments_of_ne (symbol_ne_slash x) rest
  | line body hbody => exact blankComments_line hbody h
  | block body hbody =>
    have htext : (Item.block body hbody).text ++ rest =
        '/' :: '*' :: (body ++ '*' :: '/' :: rest) := by
      simp [Item.text]
    rw [htext, blankComments_block hbody]
    rfl

/-! ### Scanning, item by item -/

/-- The place after the characters `cs`. -/
def Position.after (p : Position) (cs : List Char) : Position := cs.foldl Position.next p

theorem Position.after_append (p : Position) (cs ds : List Char) :
    p.after (cs ++ ds) = (p.after cs).after ds :=
  List.foldl_append

/-- What is blanked keeps its place and gives no instruction. -/
theorem scan_map_blankOut (p : Position) (body cs : List Char) :
    scan p (body.map blankOut ++ cs) = scan (p.after body) cs := by
  induction body generalizing p with
  | nil => rfl
  | cons c body ih =>
    have hblank : Text.isBlank (blankOut c) = true := by
      unfold blankOut
      split <;> simp
    have hnext : p.next (blankOut c) = p.next c := by
      unfold Position.next blankOut
      split <;> simp_all
    rw [List.map_cons, List.cons_append, scan, if_pos hblank, hnext, ih]
    rfl

theorem operator?_symbol {x : Token} (hx : x.isInstruction = true) :
    operator? x.symbol = some x := by
  simp [operator?, hx]

theorem isBlank_symbol (x : Token) : Text.isBlank x.symbol = false := by
  cases x <;> decide

/-- Scanning passes over the first item and takes its instructions. -/
theorem scan_blanked (i : Item) (p : Position) (cs : List Char) :
    scan p (i.blanked ++ cs) = (scan (p.after i.text) cs).map (i.tokens ++ ·) := by
  have hid : ∀ r : Except Stray (List Token), r.map ([] ++ ·) = r := by
    intro r
    cases r <;> rfl
  cases i with
  | blank c hc =>
    show scan p (c :: cs) = (scan (p.next c) cs).map ([] ++ ·)
    rw [scan, if_pos hc, hid]
  | operator x hx =>
    show scan p (x.symbol :: cs) = (scan (p.next x.symbol) cs).map ([x] ++ ·)
    simp only [scan, isBlank_symbol, operator?_symbol hx]
    rfl
  | line body hbody =>
    show scan p (('/' :: '/' :: body).map blankOut ++ cs) = _
    rw [scan_map_blankOut]
    exact (hid _).symm
  | block body hbody =>
    show scan p (('/' :: '*' :: (body ++ ['*', '/'])).map blankOut ++ cs) = _
    rw [scan_map_blankOut]
    exact (hid _).symm

/-- **Reading passes over a row of items.** What follows the row is read from the place where it
stands, and the instructions of the row come first. -/
theorem scan_blankComments_items {items : List Item} {rest : List Char} (h : Placed items rest)
    (p : Position) :
    scan p (blankComments (textOf items ++ rest)) =
      (scan (p.after (textOf items)) (blankComments rest)).map (tokensOf items ++ ·) := by
  induction items generalizing p with
  | nil =>
    show scan p (blankComments rest) = (scan p (blankComments rest)).map ([] ++ ·)
    cases scan p (blankComments rest) <;> rfl
  | cons i items ih =>
    obtain ⟨hi, hitems⟩ := h
    have htext : textOf (i :: items) = i.text ++ textOf items := List.flatMap_cons
    have htokens : tokensOf (i :: items) = i.tokens ++ tokensOf items := List.flatMap_cons
    rw [htext, htokens, List.append_assoc, blankComments_item i hi, scan_blanked, ih hitems,
      Position.after_append]
    cases scan ((p.after i.text).after (textOf items)) (blankComments rest) with
    | error e => rfl
    | ok ts => exact congrArg Except.ok (List.append_assoc _ _ _).symm

/-! ### Finding the items -/

/-- Nothing is left, or a character that starts no item: it is no blank and no operator, and
blanking leaves it alone. -/
def Stuck : List Char → Prop
  | [] => True
  | c :: cs => Text.isBlank c = false ∧ operator? c = none ∧
      ∃ ds, blankComments (c :: cs) = c :: ds

/-- An opener that is never closed starts no comment. -/
theorem stuck_of_splitClose?_eq_none {cs : List Char} (h : splitClose? cs = none) :
    Stuck ('/' :: '*' :: cs) := by
  refine ⟨isBlank_slash, by decide, blankComments ('*' :: cs), ?_⟩
  rw [blankComments]
  split
  · next hsome => rw [h] at hsome; cases hsome
  · rfl

theorem operator?_eq_some {c : Char} {x : Token} (h : operator? c = some x) :
    x.isInstruction = true ∧ c = x.symbol := by
  obtain ⟨hx, hins⟩ := Option.filter_eq_some_iff.1 h
  exact ⟨hins, Token.ofSymbol?_eq_some_iff.1 hx⟩

/-- A line comment reaches up to a newline or the end. -/
theorem dropWhile_line (cs : List Char) :
    cs.dropWhile (· ≠ '\n') = [] ∨ ∃ ds, cs.dropWhile (· ≠ '\n') = '\n' :: ds := by
  induction cs with
  | nil => exact .inl rfl
  | cons c cs ih =>
    by_cases hc : c = '\n'
    · subst hc
      exact .inr ⟨cs, rfl⟩
    · rw [List.dropWhile_cons_of_pos (by simpa using hc)]
      exact ih

/-- **Every text is a row of items** up to its end or up to a character that starts no item. -/
theorem exists_items (cs : List Char) :
    ∃ items rest, Placed items rest ∧ textOf items ++ rest = cs ∧ Stuck rest := by
  fun_induction blankComments cs with
  | case1 cs ih =>
    obtain ⟨items, rest, hplaced, htext, hstuck⟩ := ih
    have hnewline : '\n' ∉ cs.takeWhile (· ≠ '\n') := by
      intro hmem
      simpa using List.all_eq_true.1 List.all_takeWhile _ hmem
    refine ⟨.line _ hnewline :: items, rest, ⟨?_, hplaced⟩, ?_, hstuck⟩
    · rw [htext]
      exact dropWhile_line cs
    · show '/' :: '/' :: (cs.takeWhile (· ≠ '\n') ++ textOf items) ++ rest = '/' :: '/' :: cs
      rw [List.cons_append, List.cons_append, List.append_assoc, htext,
        List.takeWhile_append_dropWhile]
  | case2 cs part rest hclose ih =>
    obtain ⟨items, rest', hplaced, htext, hstuck⟩ := ih
    obtain ⟨body, rfl, hbody⟩ := exists_of_splitClose? hclose
    refine ⟨.block body hbody :: items, rest', ⟨trivial, hplaced⟩, ?_, hstuck⟩
    show '/' :: '*' :: ((body ++ ['*', '/']) ++ textOf items) ++ rest' = '/' :: '*' :: cs
    rw [List.cons_append, List.cons_append, List.append_assoc, htext,
      append_of_splitClose? hclose]
  | case3 cs hclose ih =>
    exact ⟨[], '/' :: '*' :: cs, trivial, rfl, stuck_of_splitClose?_eq_none hclose⟩
  | case4 c cs h1 h2 ih =>
    obtain ⟨items, rest, hplaced, htext, hstuck⟩ := ih
    by_cases hblank : Text.isBlank c = true
    · exact ⟨.blank c hblank :: items, rest, ⟨trivial, hplaced⟩, congrArg (c :: ·) htext, hstuck⟩
    · cases hop : operator? c with
      | some x =>
        obtain ⟨hx, rfl⟩ := operator?_eq_some hop
        exact ⟨.operator x hx :: items, rest, ⟨trivial, hplaced⟩,
          congrArg (x.symbol :: ·) htext, hstuck⟩
      | none =>
        refine ⟨[], c :: cs, trivial, rfl, by simpa using hblank, hop, blankComments cs, ?_⟩
        rw [blankComments]
        · exact h1
        · exact h2
  | case5 => exact ⟨[], [], trivial, rfl, trivial⟩

theorem scan_of_stuck {c : Char} {cs : List Char} (h : Stuck (c :: cs)) (p : Position) :
    scan p (blankComments (c :: cs)) = .error ⟨c, p⟩ := by
  obtain ⟨hblank, hop, ds, hds⟩ := h
  simp [hds, scan, hblank, hop]

/-- A row of items that is the whole text gives its instructions. -/
theorem scan_blankComments_textOf {items : List Item} (h : Placed items []) (p : Position) :
    scan p (blankComments (textOf items)) = .ok (tokensOf items) := by
  have hscan := scan_blankComments_items h p
  rw [List.append_nil, blankComments, scan] at hscan
  rw [hscan]
  exact congrArg Except.ok (List.append_nil _)

/-! ### Accepted texts -/

theorem tokenize_ok_iff_scan {s : String} {ts : List Token} :
    tokenize s = .ok ts ↔ scan .start (blankComments s.toList) = .ok ts := by
  unfold tokenize
  cases scan .start (blankComments s.toList) with
  | error stray =>
    constructor
    · intro h
      cases h
    · intro h
      cases h
  | ok us =>
    constructor
    · intro h
      cases h
      rfl
    · intro h
      cases h
      rfl

/-- A row of items is accepted. -/
theorem tokenize_of_items {s : String} {items : List Item} (h : Placed items [])
    (htext : textOf items = s.toList) : tokenize s = .ok (tokensOf items) := by
  rw [tokenize_ok_iff_scan, ← htext, scan_blankComments_textOf h]

/-- An accepted text is a row of items. -/
theorem exists_items_of_tokenize {s : String} {ts : List Token} (h : tokenize s = .ok ts) :
    ∃ items, Placed items [] ∧ textOf items = s.toList ∧ tokensOf items = ts := by
  obtain ⟨items, rest, hplaced, htext, hstuck⟩ := exists_items s.toList
  cases rest with
  | nil =>
    rw [List.append_nil] at htext
    rw [tokenize_ok_iff_scan, ← htext, scan_blankComments_textOf hplaced] at h
    exact ⟨items, hplaced, htext, Except.ok.inj h⟩
  | cons c rest =>
    rw [tokenize_ok_iff_scan, ← htext, scan_blankComments_items hplaced,
      scan_of_stuck hstuck] at h
    cases h

/-- **The texts that are accepted.** Reading succeeds exactly on the rows of items, and gives the
instructions of the operators among them, in order. -/
theorem tokenize_eq_ok_iff (s : String) (ts : List Token) :
    tokenize s = .ok ts ↔
      ∃ items, Placed items [] ∧ textOf items = s.toList ∧ tokensOf items = ts := by
  constructor
  · exact exists_items_of_tokenize
  · rintro ⟨items, hplaced, htext, rfl⟩
    exact tokenize_of_items hplaced htext

-- a return does not end a line comment, and an opener inside a comment means nothing
example : tokenize "+//-\r-\n>/*<//*/-" = .ok [.inc, .right, .dec] := by cbv

-- the two slashes of `/*/` do not close what they open
example : scan .start (blankComments "+/*/".toList) = .error ⟨'/', ⟨1, 2⟩⟩ := by cbv

end MarkTape.Source
