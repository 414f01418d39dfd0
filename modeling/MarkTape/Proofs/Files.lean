import MarkTape.Proofs.Effect
import MarkTape.Run

/-!
# Programs in files

A program text that is kept in a file comes back unchanged. Three things lie between the two: the
text is stored as bytes, the line ends are unified when it is read, and the path is cleaned of
needless pieces before the file is looked for.

* `Text.Utf8.decodeFrom_utf8EncodeChar`: the bytes of one character are read as this character;
* `textOfBytes_toUTF8`: the bytes of a text without returns are read as this text;
* `Path.parts_normalise`: the pieces of the normal form of a path;
* `FileSystem.find_eq_ok_iff`: which paths lead to a file;
* `FileSystem.find_normalise`: a path and its normal form lead to the same one;
* `runFile_of_find`: running a file is running the text that it holds.
-/

namespace MarkTape

/-! ### Bytes -/

namespace Text.Utf8

theorem lead?_of_two {v : Nat} (hlow : 0x80 ≤ v) (hhigh : v < 0x800) :
    lead? (v / 64 + 0xC0) = some (v / 64, [continuation]) := by
  unfold lead?
  rw [if_neg (by omega), if_neg (by omega), if_pos (by omega), Nat.add_sub_cancel]

/-- The first byte of three, and what it lets the second be. -/
theorem lead?_of_three {v : Nat} (hlow : 0x800 ≤ v) (hhigh : v < 0x10000)
    (hscalar : v < 0xD800 ∨ 0xE000 ≤ v) :
    ∃ r, lead? (v / 4096 + 0xE0) = some (v / 4096, [r, continuation]) ∧
      r.first ≤ v / 64 % 64 + 0x80 ∧ v / 64 % 64 + 0x80 ≤ r.last := by
  unfold lead?
  rw [if_neg (by omega), if_neg (by omega), if_neg (by omega)]
  split
  · exact ⟨_, by rw [show v / 4096 = 0 by omega], by simp only; omega, by simp only; omega⟩
  split
  · exact ⟨_, by rw [show v / 4096 = 0xD by omega], by simp only; omega, by simp only; omega⟩
  · rw [if_pos (by omega), Nat.add_sub_cancel]
    exact ⟨_, rfl, by simp only [continuation]; omega, by simp only [continuation]; omega⟩

/-- The first byte of four, and what it lets the second be. -/
theorem lead?_of_four {v : Nat} (hlow : 0x10000 ≤ v) (hhigh : v < 0x110000) :
    ∃ r, lead? (v / 262144 + 0xF0) = some (v / 262144, [r, continuation, continuation]) ∧
      r.first ≤ v / 4096 % 64 + 0x80 ∧ v / 4096 % 64 + 0x80 ≤ r.last := by
  unfold lead?
  rw [if_neg (by omega), if_neg (by omega), if_neg (by omega), if_neg (by omega),
    if_neg (by omega), if_neg (by omega)]
  split
  · exact ⟨_, by rw [show v / 262144 = 0 by omega], by simp only; omega, by simp only; omega⟩
  split
  · exact ⟨_, by rw [show v / 262144 = 4 by omega], by simp only; omega, by simp only; omega⟩
  · rw [if_pos (by omega), Nat.add_sub_cancel]
    exact ⟨_, rfl, by simp only [continuation]; omega, by simp only [continuation]; omega⟩

/-- A byte with six bits of a code point, in a place where it may stand. -/
theorem follow_cons {code n x : Nat} {r : ByteRange} {ranges : List ByteRange}
    {bytes : List UInt8} (hfirst : r.first ≤ x % 64 + 0x80) (hlast : x % 64 + 0x80 ≤ r.last)
    (h : follow (64 * code + x % 64) ranges bytes = .ok n) :
    follow code (r :: ranges) (UInt8.ofNat (x % 64 + 0x80) :: bytes) = .ok n := by
  have hx : x % 64 + 0x80 < 256 := by omega
  rw [follow, UInt8.toNat_ofNat_of_lt' hx, if_pos ⟨hfirst, hlast⟩, Nat.add_sub_cancel, h]
  rfl

theorem follow_continuation {code n x : Nat} {ranges : List ByteRange} {bytes : List UInt8}
    (h : follow (64 * code + x % 64) ranges bytes = .ok n) :
    follow code (continuation :: ranges) (UInt8.ofNat (x % 64 + 0x80) :: bytes) = .ok n :=
  follow_cons (Nat.le_add_left _ _) (by simp only [continuation]; omega) h

/-- A lead byte with the bytes that it asks for is one character. -/
theorem decodeFrom_cons {position code n m : Nat} {ranges : List ByteRange}
    {tail bytes : List UInt8} (hm : m < 256) (hlead : lead? m = some (code, ranges))
    (hlen : tail.length = ranges.length) (hfollow : follow code ranges (tail ++ bytes) = .ok n) :
    decodeFrom position (UInt8.ofNat m :: tail ++ bytes) =
      (decodeFrom (position + (UInt8.ofNat m :: tail).length) bytes).map (Char.ofNat n :: ·) := by
  rw [List.cons_append, decodeFrom, UInt8.toNat_ofNat_of_lt' hm, hlead]
  simp only [hfollow]
  rw [← hlen, List.drop_left, List.length_cons, Nat.add_assoc, Nat.add_comm 1]

/-- The bytes of a character are read as this character. -/
theorem decodeFrom_utf8EncodeChar (position : Nat) (c : Char) (bytes : List UInt8) :
    decodeFrom position (String.utf8EncodeChar c ++ bytes) =
      (decodeFrom (position + (String.utf8EncodeChar c).length) bytes).map (c :: ·) := by
  have hscalar : c.toNat < 0xD800 ∨ 0xE000 ≤ c.toNat ∧ c.toNat < 0x110000 := by
    rcases c.valid with h | ⟨h, h'⟩
    · exact .inl h
    · exact .inr ⟨h, h'⟩
  suffices h : decodeFrom position (String.utf8EncodeChar c ++ bytes) =
      (decodeFrom (position + (String.utf8EncodeChar c).length) bytes).map
        (Char.ofNat c.toNat :: ·) by
    rwa [Char.ofNat_toNat] at h
  unfold String.utf8EncodeChar
  rw [show c.val.toNat = c.toNat from rfl]
  generalize c.toNat = v at hscalar
  -- one case per number of bytes; only the second byte is narrowed down further by the first
  simp only
  split
  · exact decodeFrom_cons (by omega) (if_pos (by omega)) rfl rfl
  split
  · rw [Nat.mod_eq_of_lt (by omega : v / 64 < 32)]
    refine decodeFrom_cons (by omega) (lead?_of_two (by omega) (by omega)) rfl ?_
    refine follow_continuation (congrArg Except.ok ?_)
    omega
  split
  · rw [Nat.mod_eq_of_lt (by omega : v / 4096 < 16)]
    obtain ⟨r, hlead, hfirst, hlast⟩ := lead?_of_three (v := v) (by omega) (by omega) (by omega)
    refine decodeFrom_cons (by omega) hlead rfl ?_
    refine follow_cons hfirst hlast (follow_continuation (congrArg Except.ok ?_))
    omega
  · rw [Nat.mod_eq_of_lt (by omega : v / 262144 < 8)]
    obtain ⟨r, hlead, hfirst, hlast⟩ := lead?_of_four (v := v) (by omega) (by omega)
    refine decodeFrom_cons (by omega) hlead rfl ?_
    refine follow_cons hfirst hlast
      (follow_continuation (follow_continuation (congrArg Except.ok ?_)))
    omega

/-- A text is read back from its bytes. -/
theorem decodeFrom_flatMap_utf8EncodeChar (position : Nat) (cs : List Char) :
    decodeFrom position (cs.flatMap String.utf8EncodeChar) = .ok cs := by
  induction cs generalizing position with
  | nil => rw [List.flatMap_nil, decodeFrom]
  | cons c cs ih =>
    rw [List.flatMap_cons, decodeFrom_utf8EncodeChar, ih]
    rfl

end Text.Utf8

theorem toList_data_toUTF8 (s : String) :
    s.toUTF8.data.toList = s.toList.flatMap String.utf8EncodeChar := by
  rw [String.toUTF8_eq_toByteArray, ← String.utf8Encode_toList, List.utf8Encode,
    List.toList_data_toByteArray]

/-- Leaving characters out makes no text longer. -/
theorem utf8ByteSize_le_of_sublist {s t : String} (h : s.toList.Sublist t.toList) :
    s.utf8ByteSize ≤ t.utf8ByteSize := by
  have hsize : ∀ u : String, u.utf8ByteSize = (u.toList.flatMap String.utf8EncodeChar).length := by
    intro u
    rw [← toList_data_toUTF8]
    rfl
  rw [hsize, hsize]
  generalize s.toList = cs at h
  generalize t.toList = ds at h
  induction h with
  | slnil => exact Nat.le_refl _
  | cons d h ih =>
    rw [List.flatMap_cons, List.length_append]
    omega
  | cons_cons d h ih =>
    rw [List.flatMap_cons, List.flatMap_cons, List.length_append, List.length_append]
    omega

/-- A file that holds a text without returns is read as this text. -/
theorem textOfBytes_toUTF8 {s : String} (h : '\r' ∉ s.toList) :
    textOfBytes defaultEncoding s.toUTF8.data.toList = .ok s := by
  have hdecode : Text.Encoding.utf8.decode s.toUTF8.data.toList = .ok s.toList := by
    rw [toList_data_toUTF8]
    exact Text.Utf8.decodeFrom_flatMap_utf8EncodeChar 0 s.toList
  rw [textOfBytes, show Text.Encoding.ofName? defaultEncoding = some .utf8 by decide]
  simp only [hdecode]
  rw [Text.unifyNewlines_eq_self h, String.ofList_toList]

/-! ### Paths -/

namespace Path

theorem slash_notMem_of_mem_parts {path piece : String} (h : piece ∈ parts path) :
    '/' ∉ piece.toList := by
  obtain ⟨cs, hcs, rfl⟩ := List.mem_map.1 h
  rw [String.toList_ofList]
  exact (Text.of_mem_splitOn hcs).1

theorem intercalate_parts (path : String) : "/".intercalate (parts path) = path := by
  apply String.toList_injective
  rw [String.toList_intercalate, parts, List.map_map]
  simp [Function.comp_def, List.intercalate_splitOn]

theorem parts_intercalate {pieces : List String} (hne : pieces ≠ [])
    (h : ∀ piece ∈ pieces, '/' ∉ piece.toList) : parts ("/".intercalate pieces) = pieces := by
  have hslash : ∀ cs ∈ pieces.map String.toList, '/' ∉ cs := by
    intro cs hcs
    obtain ⟨piece, hpiece, rfl⟩ := List.mem_map.1 hcs
    exact h piece hpiece
  rw [parts, String.toList_intercalate]
  show (List.splitOn '/' (['/'].intercalate (pieces.map String.toList))).map String.ofList = _
  rw [List.splitOn_intercalate '/' hslash (by simpa using hne), List.map_map]
  simp [Function.comp_def, String.ofList_toList]

/-- Leaving pieces out leaves characters out. -/
theorem sublist_intercalate {kept pieces : List String} (h : kept.Sublist pieces)
    (hne : kept ≠ []) :
    ("/".intercalate kept).toList.Sublist ("/".intercalate pieces).toList := by
  induction h with
  | slnil => exact absurd rfl hne
  | @cons kept pieces piece h ih =>
    have hpieces : pieces ≠ [] := fun hnil => hne (List.eq_nil_of_sublist_nil (hnil ▸ h))
    rw [String.intercalate_cons_of_ne_nil hpieces, String.toList_append]
    exact (ih hne).trans (List.sublist_append_right _ _)
  | @cons_cons kept pieces piece h ih =>
    by_cases hkept : kept = []
    · rw [hkept, String.intercalate_singleton]
      cases pieces with
      | nil => exact List.Sublist.refl _
      | cons next pieces =>
        rw [String.intercalate_cons_cons, String.append_assoc, String.toList_append]
        exact List.sublist_append_left _ _
    · have hpieces : pieces ≠ [] := fun hnil => hkept (List.eq_nil_of_sublist_nil (hnil ▸ h))
      rw [String.intercalate_cons_of_ne_nil hkept, String.intercalate_cons_of_ne_nil hpieces,
        String.toList_append (s := piece ++ "/"), String.toList_append (s := piece ++ "/")]
      exact (List.Sublist.refl _).append (ih hkept)

/-- The number of slashes that a path begins with. -/
def leading (path : String) : Nat := (path.toList.takeWhile (· = '/')).length

theorem isAbsolute_eq_false_iff (path : String) : isAbsolute path = false ↔ leading path = 0 := by
  rw [isAbsolute, leading, decide_eq_false_iff_not, List.length_eq_zero_iff]
  cases path.toList with
  | nil => simp
  | cons c cs => by_cases hc : c = '/' <;> simp [hc]

/-- Each leading slash ends an empty piece. -/
theorem exists_parts_eq (path : String) :
    ∃ rest, parts path = List.replicate (leading path) "" ++ rest := by
  rw [parts, leading]
  induction path.toList with
  | nil => exact ⟨_, rfl⟩
  | cons c cs ih =>
    obtain ⟨rest, hrest⟩ := ih
    by_cases hc : c = '/'
    · refine ⟨rest, ?_⟩
      rw [List.splitOn_cons_eq_if_modifyHead, if_pos (by simp [hc]), List.map_cons, hrest,
        List.takeWhile_cons_of_pos (by simp [hc])]
      rfl
    · rw [List.takeWhile_cons_of_neg (by simp [hc])]
      exact ⟨_, rfl⟩

/-- A path starts with the first character of its first piece, if that is not empty. -/
theorem head?_intercalate {piece : String} (h : piece ≠ "") (pieces : List String) :
    ("/".intercalate (piece :: pieces)).toList.head? = piece.toList.head? := by
  cases pieces with
  | nil => rw [String.intercalate_singleton]
  | cons next pieces =>
    have hchars : piece.toList ≠ [] := by simpa using h
    rw [String.intercalate_cons_cons, String.append_assoc, String.toList_append,
      List.head?_append, List.head?_eq_some_head hchars]
    rfl

/-- What the normal form of a path begins with, as empty pieces. -/
def lead (path : String) : List String :=
  List.replicate (if leading path = 2 then 2 else min 1 (leading path)) ""

theorem lead_eq_nil_iff (path : String) : lead path = [] ↔ isAbsolute path = false := by
  rw [isAbsolute_eq_false_iff, lead, List.replicate_eq_nil_iff]
  split <;> omega

theorem root_append {path : String} {kept : List String} (hne : kept ≠ []) :
    root path ++ "/".intercalate kept = "/".intercalate (lead path ++ kept) := by
  unfold root lead
  rw [← leading]
  split
  · next h => simp [h]
  · next h =>
    rw [if_pos h, List.replicate_succ, List.replicate_one, List.cons_append, List.cons_append,
      String.intercalate_cons_cons, List.nil_append, String.intercalate_cons_of_ne_nil hne]
    simp only [String.empty_append, ← String.append_assoc]
    rfl
  · next hzero htwo =>
    rw [if_neg htwo, Nat.min_eq_left (Nat.pos_of_ne_zero hzero)]
    simp [String.intercalate_cons_of_ne_nil hne]

/-- The pieces of a normal form are pieces of the path. -/
theorem lead_append_sublist (path : String) :
    (lead path ++ (parts path).filter leadsOn).Sublist (parts path) := by
  obtain ⟨rest, hparts⟩ := exists_parts_eq path
  have hkept : (parts path).filter leadsOn = rest.filter leadsOn := by
    rw [hparts, List.filter_append, List.filter_replicate_of_neg (by decide), List.nil_append]
  have hlead : (lead path).Sublist (List.replicate (leading path) "") := by
    rw [lead, List.replicate_sublist_replicate]
    split <;> omega
  rw [hkept, hparts]
  exact hlead.append List.filter_sublist

theorem ne_empty_of_leadsOn {piece : String} (h : leadsOn piece = true) : piece ≠ "" := by
  rintro rfl
  cases h

section Normal

variable {path : String} (hne : (parts path).filter leadsOn ≠ [])

include hne

/-- Where a path has a piece that leads on, its normal form is made of such pieces. -/
theorem normalise_eq :
    normalise path = "/".intercalate (lead path ++ (parts path).filter leadsOn) := by
  obtain ⟨piece, pieces, hkept⟩ := List.exists_cons_of_ne_nil hne
  have hmem : piece ∈ (parts path).filter leadsOn := hkept ▸ List.mem_cons_self
  have hfirst := ne_empty_of_leadsOn (List.mem_filter.1 hmem).2
  have hwhole : root path ++ "/".intercalate ((parts path).filter leadsOn) ≠ "" := by
    intro hempty
    have hhead := head?_intercalate hfirst pieces
    rw [hkept, String.append_eq_empty_iff] at hempty
    rw [hempty.2] at hhead
    exact hfirst (by simpa using hhead.symm)
  rw [normalise, if_neg hwhole, root_append hne]

theorem parts_normalise : parts (normalise path) = lead path ++ (parts path).filter leadsOn := by
  rw [normalise_eq hne]
  refine parts_intercalate (by simp [hne]) fun piece hpiece => ?_
  exact slash_notMem_of_mem_parts ((lead_append_sublist path).subset hpiece)

/-- A normal form has no characters but those of the path, in their order. -/
theorem normalise_sublist : (normalise path).toList.Sublist path.toList := by
  rw [normalise_eq hne]
  have h := sublist_intercalate (lead_append_sublist path) (by simp [hne])
  rwa [intercalate_parts] at h

theorem isAbsolute_normalise : isAbsolute (normalise path) = isAbsolute path := by
  rw [normalise_eq hne]
  cases hlead : lead path with
  | nil =>
    obtain ⟨piece, pieces, hkept⟩ := List.exists_cons_of_ne_nil hne
    have hmem : piece ∈ (parts path).filter leadsOn := hkept ▸ List.mem_cons_self
    obtain ⟨hpart, hpiece⟩ := List.mem_filter.1 hmem
    rw [(lead_eq_nil_iff path).1 hlead, List.nil_append, hkept, isAbsolute,
      head?_intercalate (ne_empty_of_leadsOn hpiece), decide_eq_false_iff_not]
    exact fun hhead => slash_notMem_of_mem_parts hpart (List.mem_of_mem_head? hhead)
  | cons first more =>
    have habs : isAbsolute path = true := by
      rw [← Bool.not_eq_false, ← lead_eq_nil_iff, hlead]
      simp
    have hfirst : first = "" := List.eq_of_mem_replicate (hlead ▸ List.mem_cons_self)
    rw [habs, hfirst, List.cons_append, String.intercalate_cons_of_ne_nil (by simp [hne])]
    simp [isAbsolute]

end Normal

end Path

/-! ### Looking for a file -/

namespace FileSystem

variable {files : FileSystem} {path piece : String} {place next : Place} {bytes : List UInt8}

/-- Where a piece leads does not depend on the path that it is a piece of; only the report of an
error does. -/
theorem enter_of_ok (h : files.enter path place piece = .ok next) (other : String) :
    files.enter other place piece = .ok next := by
  cases place with
  | file b => cases h
  | folder names =>
    rw [enter, child] at h ⊢
    split at h
    · next hstay => rwa [if_pos hstay]
    split at h
    · next hstay hup => rwa [if_neg hstay, if_pos hup]
    split at h
    · cases h
    next hstay hup hshort =>
    rw [if_neg hstay, if_neg hup, if_neg hshort]
    split at h
    · exact h
    · exact h
    · cases h

theorem eq_of_enter (h : files.enter path place piece = .ok next)
    (hpiece : Path.leadsOn piece = false) : next = place := by
  cases place with
  | file b => cases h
  | folder names =>
    rw [enter, if_pos (by simp [hpiece])] at h
    exact (Except.ok.inj h).symm

/-- Pieces that do not lead on can be left out of a path. -/
theorem foldlM_enter_filter {pieces : List String}
    (h : pieces.foldlM (files.enter path) place = .ok next) (other : String) :
    (pieces.filter Path.leadsOn).foldlM (files.enter other) place = .ok next := by
  induction pieces generalizing place with
  | nil => exact h
  | cons piece pieces ih =>
    rw [List.foldlM_cons] at h
    obtain ⟨between, hbetween, hrest⟩ := bind_eq_ok_iff.1 h
    cases hpiece : Path.leadsOn piece with
    | false =>
      obtain rfl := eq_of_enter hbetween hpiece
      rw [List.filter_cons_of_neg (by simp [hpiece])]
      exact ih hrest
    | true =>
      rw [List.filter_cons_of_pos hpiece, List.foldlM_cons, enter_of_ok hbetween other]
      exact ih hrest

/-- Empty pieces in front of a path stay in place. -/
theorem foldlM_enter_lead (other : String) (names pieces : List String) :
    (Path.lead other ++ pieces).foldlM (files.enter path) (.folder names) =
      pieces.foldlM (files.enter path) (.folder names) := by
  unfold Path.lead
  generalize (if Path.leading other = 2 then 2 else min 1 (Path.leading other)) = k
  induction k with
  | zero => rfl
  | succ k ih => exact ih

/-- Looking for a file: the path is looked at first, then its pieces are followed. -/
theorem find_eq (files : FileSystem) (path : String) :
    files.find path =
      if '\x00' ∈ path.toList then .error .nullInPath
      else if path = "" then .error (.notFound path)
      else if Path.longestPath < path.utf8ByteSize then .error (.tooLong path)
      else (Path.parts path).foldlM (files.enter path)
        (.folder (if Path.isAbsolute path then [] else files.current)) >>= atEnd path := by
  unfold find
  by_cases hnull : '\x00' ∈ path.toList
  · rw [if_pos hnull, if_pos (by simpa using hnull)]
    rfl
  rw [if_neg hnull, if_neg (by simpa using hnull)]
  by_cases hempty : path = ""
  · simp only [if_pos hempty]
    rfl
  by_cases hlong : Path.longestPath < path.utf8ByteSize
  · simp only [if_neg hempty, if_pos hlong]
    rfl
  · simp only [if_neg hempty, if_neg hlong]

/-- A file is found exactly at the paths whose pieces lead to it, if they are not too long. -/
theorem find_eq_ok_iff :
    files.find path = .ok bytes ↔
      '\x00' ∉ path.toList ∧ path.utf8ByteSize ≤ Path.longestPath ∧
        (Path.parts path).foldlM (files.enter path)
          (.folder (if Path.isAbsolute path then [] else files.current)) = .ok (.file bytes) := by
  rw [find_eq]
  constructor
  · intro h
    split at h
    · cases h
    split at h
    · cases h
    split at h
    · cases h
    next hnull _ hlong =>
    obtain ⟨place, hplace, h⟩ := bind_eq_ok_iff.1 h
    cases place with
    | folder names => cases h
    | file b =>
      cases h
      exact ⟨hnull, Nat.not_lt.1 hlong, hplace⟩
  · rintro ⟨hnull, hlong, hfold⟩
    have hempty : path ≠ "" := by
      rintro rfl
      cases hfold
    rw [if_neg hnull, if_neg hempty, if_neg (Nat.not_lt.2 hlong), hfold]
    rfl

/-- **A path and its normal form lead to the same file.** -/
theorem find_normalise (h : files.find path = .ok bytes) :
    files.find (Path.normalise path) = .ok bytes := by
  obtain ⟨hnull, hlong, hfold⟩ := find_eq_ok_iff.1 h
  have hkept := foldlM_enter_filter hfold (Path.normalise path)
  have hne : (Path.parts path).filter Path.leadsOn ≠ [] := by
    intro hnil
    rw [hnil] at hkept
    cases hkept
  have hsublist := Path.normalise_sublist hne
  refine find_eq_ok_iff.2 ⟨fun hmem => hnull (hsublist.subset hmem),
    Nat.le_trans (utf8ByteSize_le_of_sublist hsublist) hlong, ?_⟩
  rw [Path.parts_normalise hne, foldlM_enter_lead, Path.isAbsolute_normalise hne]
  exact hkept

theorem readText_of_find {s : String} (hs : '\r' ∉ s.toList)
    (h : files.find path = .ok s.toUTF8.data.toList) :
    files.readText path defaultEncoding = .ok s := by
  rw [readText, h]
  exact textOfBytes_toUTF8 hs

end FileSystem

/-- Running a file is running the text that it holds. -/
theorem runFile_of_find {files : FileSystem} {path s : String} (hs : '\r' ∉ s.toList)
    (h : files.find path = .ok s.toUTF8.data.toList) (o : Options) (t : Tape) :
    runFile o files path defaultEncoding t = runText o s t := by
  rw [runFile, FileSystem.readText_of_find hs (FileSystem.find_normalise h)]
  rfl

end MarkTape
