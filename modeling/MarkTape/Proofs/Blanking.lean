import Mathlib.Data.List.Forall2
import MarkTape.Proofs.Offence

/-!
# Blanking reaches a normal form

Blanking puts a space in place of each character of a comment, but for newlines, so it changes no
offset, no line and no column. What it leaves holds no comment: two characters that stand side by
side after blanking, and are no spaces, stood side by side before, so no opener and no closer can
come together from what is left. A text without comments is not changed at all, and so blanking a
second time does nothing, and a blanked text is read like the text it came from.

* `Replaces`, `forall₂_blankComments`: what can stand in place of a character;
* `IsComment`, `CommentFree`: the form of a comment, and texts without any;
* `opens_iff`: how a comment starts;
* `commentFree_blankComments`: no comment is left;
* `blankComments_eq_self`: a text without comments is not changed;
* `blankText`: a whole text with its comments blanked;
* `blankText_normal`: positions are kept, blanking is settled, and reading is the same.
-/

namespace MarkTape.Source

/-! ### Positions -/

/-- The character `d` may stand in place of `c`: it is the same, or a space that stands for anything
but a newline. -/
def Replaces (c d : Char) : Prop := d = c ∨ d = ' ' ∧ c ≠ '\n'

theorem replaces_blankOut (c : Char) : Replaces c (blankOut c) := by
  by_cases hc : c = '\n'
  · subst hc
    exact .inl rfl
  · exact .inr ⟨if_neg hc, hc⟩

theorem forall₂_map_blankOut (body : List Char) {cs ds : List Char}
    (h : List.Forall₂ Replaces cs ds) :
    List.Forall₂ Replaces (body ++ cs) (body.map blankOut ++ ds) := by
  induction body with
  | nil => exact h
  | cons c body ih => exact .cons (replaces_blankOut c) ih

/-- Blanking works character by character. -/
theorem forall₂_blankComments (cs : List Char) : List.Forall₂ Replaces cs (blankComments cs) := by
  have hopener : ∀ {c : Char}, c ≠ '\n' → Replaces c ' ' := fun hc => .inr ⟨rfl, hc⟩
  fun_induction blankComments cs with
  | case1 cs ih =>
    have hcs := forall₂_map_blankOut (cs.takeWhile (· ≠ '\n')) ih
    rw [List.takeWhile_append_dropWhile] at hcs
    exact .cons (hopener (by decide)) (.cons (hopener (by decide)) hcs)
  | case2 cs part rest hclose ih =>
    have hcs := forall₂_map_blankOut part ih
    rw [append_of_splitClose? hclose] at hcs
    exact .cons (hopener (by decide)) (.cons (hopener (by decide)) hcs)
  | case3 cs hclose ih => exact .cons (.inl rfl) ih
  | case4 c cs h1 h2 ih => exact .cons (.inl rfl) ih
  | case5 => exact .nil

/-- A character that is left and is no space stood there before. -/
theorem exists_cons_of_forall₂ {cs ds : List Char} {d : Char} (hd : d ≠ ' ')
    (h : List.Forall₂ Replaces cs (d :: ds)) :
    ∃ rest, cs = d :: rest ∧ List.Forall₂ Replaces rest ds := by
  cases h with
  | cons hc hrest =>
    rcases hc with rfl | ⟨hspace, -⟩
    · exact ⟨_, rfl, hrest⟩
    · exact absurd hspace hd

theorem getElem?_of_forall₂ {cs ds : List Char} (h : List.Forall₂ Replaces cs ds) (i : Nat) :
    ds[i]? = cs[i]? ∨ ds[i]? = some ' ' ∧ ∃ c, cs[i]? = some c ∧ c ≠ '\n' := by
  induction h generalizing i with
  | nil => exact .inl rfl
  | @cons c d cs ds hd hds ih =>
    cases i with
    | zero =>
      rcases hd with rfl | ⟨rfl, hc⟩
      · exact .inl rfl
      · exact .inr ⟨rfl, c, rfl, hc⟩
    | succ i => exact ih i

/-- Newlines stay, and none is added. -/
theorem getElem?_newline_of_forall₂ {cs ds : List Char} (h : List.Forall₂ Replaces cs ds)
    (i : Nat) : ds[i]? = some '\n' ↔ cs[i]? = some '\n' := by
  rcases getElem?_of_forall₂ h i with hi | ⟨hspace, c, hc, hne⟩
  · rw [hi]
  · rw [hspace, hc]
    simp [hne]

/-! ### Texts without comments -/

/-- The characters of a comment: two slashes and no newline after them, or an opener, any
characters, and a closer. -/
def IsComment (m : List Char) : Prop :=
  (∃ body, m = '/' :: '/' :: body ∧ '\n' ∉ body) ∨ ∃ body, m = '/' :: '*' :: (body ++ ['*', '/'])

/-- Some comment starts at the front of the text. -/
def Opens (cs : List Char) : Prop := ∃ m, m <+: cs ∧ IsComment m

/-- No part of the text is a comment. -/
def CommentFree (cs : List Char) : Prop := ∀ m, m <:+: cs → ¬ IsComment m

/-- A comment starts with two slashes, or with an opener that is closed somewhere. -/
theorem opens_iff {cs : List Char} :
    Opens cs ↔ (∃ rest, cs = '/' :: '/' :: rest) ∨
      ∃ rest, cs = '/' :: '*' :: rest ∧ ['*', '/'] <:+: rest := by
  constructor
  · rintro ⟨m, ⟨tail, rfl⟩, ⟨body, rfl, -⟩ | ⟨body, rfl⟩⟩
    · exact .inl ⟨body ++ tail, rfl⟩
    · exact .inr ⟨body ++ ['*', '/'] ++ tail, rfl, body, tail, rfl⟩
  · rintro (⟨rest, rfl⟩ | ⟨rest, rfl, body, tail, rfl⟩)
    · exact ⟨['/', '/'], ⟨rest, rfl⟩, .inl ⟨[], rfl, List.not_mem_nil⟩⟩
    · exact ⟨'/' :: '*' :: (body ++ ['*', '/']), ⟨tail, rfl⟩, .inr ⟨body, rfl⟩⟩

theorem commentFree_nil : CommentFree [] := by
  intro m hm hcomment
  rw [List.infix_nil.1 hm] at hcomment
  rcases hcomment with ⟨body, h, -⟩ | ⟨body, h⟩
  · cases h
  · cases h

theorem commentFree_cons_iff {c : Char} {cs : List Char} :
    CommentFree (c :: cs) ↔ ¬ Opens (c :: cs) ∧ CommentFree cs := by
  constructor
  · intro h
    refine ⟨?_, fun m hm => h m (List.infix_cons hm)⟩
    rintro ⟨m, hm, hcomment⟩
    exact h m hm.isInfix hcomment
  · rintro ⟨hfront, h⟩ m hm hcomment
    rcases List.infix_cons_iff.1 hm with hm | hm
    · exact hfront ⟨m, hm, hcomment⟩
    · exact h m hm hcomment

/-- No comment starts at a character that is no slash. -/
theorem CommentFree.append_left {cs : List Char} (h : CommentFree cs) {front : List Char}
    (hfront : '/' ∉ front) : CommentFree (front ++ cs) := by
  induction front with
  | nil => exact h
  | cons c front ih =>
    obtain ⟨hc, hfront⟩ := List.ne_and_not_mem_of_not_mem_cons hfront
    refine commentFree_cons_iff.2 ⟨?_, ih hfront⟩
    rw [opens_iff]
    rintro (⟨rest, he⟩ | ⟨rest, he, -⟩)
    · exact hc (List.cons.inj he).1.symm
    · exact hc (List.cons.inj he).1.symm

/-! ### No comment is left -/

theorem slash_notMem_map_blankOut (cs : List Char) : '/' ∉ cs.map blankOut := by
  intro hmem
  obtain ⟨c, -, hc⟩ := List.mem_map.1 hmem
  unfold blankOut at hc
  split at hc
  · cases hc
  · cases hc

/-- A closer that stands in the blanked text stood in the text. -/
theorem close_infix_of_forall₂ {cs ds : List Char} (h : List.Forall₂ Replaces cs ds)
    (hclose : ['*', '/'] <:+: ds) : ['*', '/'] <:+: cs := by
  induction h with
  | nil => exact hclose
  | @cons c d cs ds hd hds ih =>
    rcases List.infix_cons_iff.1 hclose with ⟨tail, htail⟩ | hclose
    · cases htail
      obtain ⟨rest, hrest, hslash⟩ := exists_cons_of_forall₂ (by decide) (.cons hd hds)
      obtain ⟨rest', rfl, -⟩ := exists_cons_of_forall₂ (by decide) hslash
      rw [hrest]
      exact ⟨[], rest', rfl⟩
    · exact List.infix_cons (ih hclose)

theorem not_close_infix {cs : List Char} (h : splitClose? cs = none) : ¬ ['*', '/'] <:+: cs := by
  fun_induction splitClose? cs with
  | case1 => simp
  | case2 cs => cases h
  | case3 c cs hc ih =>
    intro hclose
    rcases List.infix_cons_iff.1 hclose with ⟨tail, htail⟩ | hclose
    · cases htail
      exact hc _ rfl rfl
    · exact ih (Option.map_eq_none_iff.1 h) hclose

/-- **No comment is left by blanking.** -/
theorem commentFree_blankComments (cs : List Char) : CommentFree (blankComments cs) := by
  have hblanked : ∀ body, '/' ∉ ' ' :: ' ' :: List.map blankOut body := by
    intro body hmem
    simp only [List.mem_cons] at hmem
    rcases hmem with h | h | h
    · cases h
    · cases h
    · exact slash_notMem_map_blankOut body h
  fun_induction blankComments cs with
  | case1 cs ih => exact ih.append_left (hblanked _)
  | case2 cs part rest hclose ih => exact ih.append_left (hblanked _)
  | case3 cs hclose ih =>
    refine commentFree_cons_iff.2 ⟨?_, ih⟩
    -- the opener is not closed in the text, and blanking brings no closer about
    rw [blankComments_of_ne (by decide), opens_iff]
    rintro (⟨rest, he⟩ | ⟨rest, he, hinfix⟩)
    · cases he
    · cases he
      exact not_close_infix hclose (close_infix_of_forall₂ (forall₂_blankComments cs) hinfix)
  | case4 c cs h1 h2 ih =>
    refine commentFree_cons_iff.2 ⟨?_, ih⟩
    have hcs := forall₂_blankComments cs
    -- the character after a slash was the same before blanking
    rw [opens_iff]
    rintro (⟨rest, he⟩ | ⟨rest, he, -⟩)
    · obtain ⟨rfl, hrest⟩ := List.cons.inj he
      rw [hrest] at hcs
      obtain ⟨rest', hslash, -⟩ := exists_cons_of_forall₂ (by decide) hcs
      exact h1 rest' rfl hslash
    · obtain ⟨rfl, hrest⟩ := List.cons.inj he
      rw [hrest] at hcs
      obtain ⟨rest', hstar, -⟩ := exists_cons_of_forall₂ (by decide) hcs
      exact h2 rest' rfl hstar
  | case5 => exact commentFree_nil

/-- A text without comments is not changed. -/
theorem blankComments_eq_self {cs : List Char} (h : CommentFree cs) : blankComments cs = cs := by
  fun_induction blankComments cs with
  | case1 cs ih =>
    exact absurd (opens_iff.2 (.inl ⟨cs, rfl⟩)) (commentFree_cons_iff.1 h).1
  | case2 cs part rest hclose ih =>
    obtain ⟨body, rfl, -⟩ := exists_of_splitClose? hclose
    have hinfix : ['*', '/'] <:+: cs := ⟨body, rest, append_of_splitClose? hclose⟩
    exact absurd (opens_iff.2 (.inr ⟨cs, rfl, hinfix⟩)) (commentFree_cons_iff.1 h).1
  | case3 cs hclose ih => rw [ih (commentFree_cons_iff.1 h).2]
  | case4 c cs h1 h2 ih => rw [ih (commentFree_cons_iff.1 h).2]
  | case5 => rfl

/-! ### Blanked texts -/

/-- The text with its comments blanked, as a text of its own. -/
def blankText (s : String) : String := String.ofList (blankComments s.toList)

@[simp] theorem toList_blankText (s : String) : (blankText s).toList = blankComments s.toList :=
  String.toList_ofList

/-- Blanking a second time does nothing. -/
theorem blankComments_blankComments (cs : List Char) :
    blankComments (blankComments cs) = blankComments cs :=
  blankComments_eq_self (commentFree_blankComments cs)

/-- **Blanking keeps positions and reaches a normal form.** A blanked text has the same length and
the same newlines, and at each offset the same character or a space; no part of it is a comment, and
blanking does not change it again. It is read like the text it came from: both give the same
instructions, or both are rejected for the same character at the same line and column. -/
theorem blankText_normal (s : String) :
    (blankText s).length = s.length ∧
    (∀ i : Nat, (blankText s).toList[i]? = s.toList[i]? ∨
      (blankText s).toList[i]? = some ' ' ∧ ∃ c, s.toList[i]? = some c ∧ c ≠ '\n') ∧
    (∀ i : Nat, (blankText s).toList[i]? = some '\n' ↔ s.toList[i]? = some '\n') ∧
    CommentFree (blankText s).toList ∧
    blankText (blankText s) = blankText s ∧
    ((∃ ts, tokenize s = .ok ts ∧ tokenize (blankText s) = .ok ts) ∨
      ∃ c line column, Rejects s c line column ∧ Rejects (blankText s) c line column) := by
  have hpointwise := forall₂_blankComments s.toList
  have hagain : blankComments (blankText s).toList = blankComments s.toList := by
    rw [toList_blankText, blankComments_blankComments]
  refine ⟨?_, ?_, ?_, ?_, congrArg String.ofList hagain, ?_⟩
  · rw [← String.length_toList, ← String.length_toList, toList_blankText]
    exact hpointwise.length_eq.symm
  · rw [toList_blankText]
    exact getElem?_of_forall₂ hpointwise
  · rw [toList_blankText]
    exact getElem?_newline_of_forall₂ hpointwise
  · rw [toList_blankText]
    exact commentFree_blankComments s.toList
  · -- the same characters are scanned from the same place
    cases hts : tokenize s with
    | ok ts =>
      refine .inl ⟨ts, rfl, ?_⟩
      rw [tokenize_ok_iff_scan, hagain]
      exact tokenize_ok_iff_scan.1 hts
    | error r =>
      obtain ⟨c, line, column, hrejects⟩ := exists_rejects_of_tokenize hts
      refine .inr ⟨c, line, column, hrejects, ?_⟩
      rw [rejects_iff_scan, hagain]
      exact rejects_iff_scan.1 hrejects

-- a closer that is left over stays, and so does an opener that is never closed
example : blankText "/*+// a\n*/*/-" = "       \n  */-" := by cbv
example : blankText "/*+// a\n-" = "/*+    \n-" := by cbv

end MarkTape.Source
