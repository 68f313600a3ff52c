import Mathlib.Data.List.DropRight
import PlsqlAudit.Source.Range

/-!
# Positions and ranges of a text

* `Position.advanceText_append`, `Position.advanceText_offset` — advancing over texts adds up, and the
  offset counts their bytes.
* `Position.advanceText_line`, `Position.advanceText_column` — the line counts line feeds, and the column
  the characters behind the last one.
* `Position.column_advanceText_start` — only an empty text and one that ends in a line feed lead to
  the first column.
* `Position.At` — a position tells where a given boundary between characters of a text is.
* `Range.Spells` — a range of a text runs from one such boundary to another, and says what stands
  between them.
-/

namespace PlsqlAudit

namespace Position

/-! ## Advancing -/

@[simp] theorem advanceText_empty (p : Position) : p.advanceText "" = p := rfl

theorem advanceText_append (p : Position) (s t : String) :
    p.advanceText (s ++ t) = (p.advanceText s).advanceText t := by
  simp [advanceText]

theorem advance_offset (p : Position) (c : Char) :
    (p.advance c).offset = p.offset + c.utf8Size := by
  unfold advance
  split <;> rfl

theorem advanceText_offset (p : Position) (t : String) :
    (p.advanceText t).offset = p.offset + t.utf8ByteSize := by
  suffices h : ∀ (cs : List Char) (p : Position),
      (cs.foldl advance p).offset = p.offset + (String.ofList cs).utf8ByteSize by
    simpa [advanceText] using h t.toList p
  intro cs
  induction cs with
  | nil => intro p; simp
  | cons c cs ih =>
    intro p
    have hsize : (String.ofList (c :: cs)).utf8ByteSize =
        c.utf8Size + (String.ofList cs).utf8ByteSize := by
      rw [String.ofList_cons, String.utf8ByteSize_append, String.utf8ByteSize_singleton]
    rw [List.foldl_cons, ih, advance_offset, hsize]
    omega

theorem advance_of_ne (p : Position) {c : Char} (h : c ≠ '\n') :
    p.advance c = ⟨p.line, p.column + 1, p.offset + c.utf8Size⟩ := by
  unfold advance
  rw [if_neg h]

theorem advance_newline (p : Position) : p.advance '\n' = ⟨p.line + 1, 1, p.offset + 1⟩ := rfl

theorem advanceText_line (p : Position) (t : String) :
    (p.advanceText t).line = p.line + t.toList.count '\n' := by
  unfold advanceText
  induction t.toList generalizing p with
  | nil => rfl
  | cons c cs ih =>
    rw [List.foldl_cons, ih]
    by_cases hc : c = '\n'
    · subst hc
      rw [advance_newline, List.count_cons_self]
      simp only
      omega
    · rw [advance_of_ne p hc, List.count_cons_of_ne hc]

/-- The column counts from the last line feed, or goes on from where it was if there is none. -/
theorem advanceText_column (p : Position) (t : String) :
    (p.advanceText t).column =
      if '\n' ∈ t.toList then 1 + (t.toList.rtakeWhile (· ≠ '\n')).length
      else p.column + t.length := by
  unfold advanceText
  rw [← String.length_toList]
  -- The last character decides, so the induction is on the text from its end.
  induction t.toList using List.reverseRecOn with
  | nil => rfl
  | append_singleton cs c ih =>
    rw [List.foldl_append, List.foldl_cons, List.foldl_nil]
    by_cases hc : c = '\n'
    · subst hc
      simp [advance_newline]
    · have hmem : '\n' ∈ cs ++ [c] ↔ '\n' ∈ cs := by simp [eq_comm, hc]
      have hlast : (cs ++ [c]).rtakeWhile (· ≠ '\n') = cs.rtakeWhile (· ≠ '\n') ++ [c] := by
        simp [hc]
      rw [advance_of_ne _ hc, hlast, List.length_append, List.length_append, List.length_singleton]
      simp only [ih, hmem]
      split <;> omega

/-- Text without a line feed stays on its line. -/
theorem advanceText_of_no_newline (p : Position) {t : String} (h : '\n' ∉ t.toList) :
    (p.advanceText t).line = p.line ∧ (p.advanceText t).column = p.column + t.length := by
  rw [advanceText_line, advanceText_column, List.count_eq_zero_of_not_mem h, if_neg h]
  exact ⟨rfl, rfl⟩

/-- The first column is the one before any text, and the one behind a line feed. -/
theorem column_advanceText_start (t : String) :
    (start.advanceText t).column = 1 ↔ t = "" ∨ t.endsWith '\n' = true := by
  rw [advanceText_column, String.endsWith_char_eq_getLast?, ← String.length_toList,
    ← String.toList_eq_nil_iff]
  rcases List.eq_nil_or_concat t.toList with h | ⟨cs, c, h⟩
  · simp [h, start]
  · by_cases hc : c = '\n'
    · simp [h, hc]
    · -- The last character takes a column of its own.
      have hlast : (t.toList.rtakeWhile (· ≠ '\n')).length ≠ 0 := by simp [h, hc]
      have hlength : t.toList.length ≠ 0 := by simp [h]
      have hends : ¬ (t.toList = [] ∨ (t.toList.getLast? == some '\n') = true) := by simp [h, hc]
      simp only [hends, iff_false, start]
      split <;> omega

end Position

/-! ## Bytes of a text -/

theorem utf8ByteSize_of_ascii {t : String} (h : ∀ c ∈ t.toList, c.toNat < 128) :
    t.utf8ByteSize = t.length := by
  have hlist : ∀ cs : List Char, (∀ c ∈ cs, c.toNat < 128) →
      (String.ofList cs).utf8ByteSize = cs.length := by
    intro cs
    induction cs with
    | nil => intro _; rfl
    | cons c cs ih =>
      intro hcs
      have hc : c.utf8Size = 1 := by
        rw [Char.utf8Size_eq_one_iff, UInt32.le_iff_toNat_le]
        exact Nat.le_of_lt_succ (hcs c List.mem_cons_self)
      rw [String.ofList_cons, String.utf8ByteSize_append, String.utf8ByteSize_singleton, hc,
        ih fun d hd => hcs d (List.mem_cons_of_mem _ hd), List.length_cons, Nat.add_comm]
  have hsize := hlist t.toList h
  rwa [String.ofList_toList, String.length_toList] at hsize

/-- The bytes of a part of the text stand behind those of the part before it. -/
theorem extract_bytes_of_append {text u piece v : String} (h : text = u ++ piece ++ v) :
    text.toByteArray.extract u.utf8ByteSize (u.utf8ByteSize + piece.utf8ByteSize) =
      piece.toByteArray := by
  have hend : u.utf8ByteSize + piece.utf8ByteSize = (u ++ piece).toByteArray.size := by
    rw [String.size_toByteArray, String.utf8ByteSize_append]
  rw [h, String.toByteArray_append, hend, ByteArray.extract_append_size_left,
    String.toByteArray_append]
  exact ByteArray.extract_append_eq_right String.size_toByteArray.symm ByteArray.size_append

/-! ## Places of a text -/

namespace Position

/-- The position tells where the boundary `i` between characters of the text is: the bytes before it,
and the line and column to which the text before it leads. -/
structure At (p : Position) {text : String} (i : text.Pos) : Prop where
  offset_eq : p.offset = i.offset.byteIdx
  eq_advance : p = start.advanceText (text.extract text.startPos i)

theorem at_of_splits {text u v : String} {i : text.Pos} (h : i.Splits u v) :
    (start.advanceText u).At i where
  offset_eq := by
    rw [advanceText_offset, h.offset_eq_rawEndPos]
    simp [start]
  eq_advance := by
    have hu : text.extract text.startPos i = u := by
      rw [← String.toByteArray_inj, String.toByteArray_extract, h.toByteArray_left_eq]
      rfl
    rw [hu]

end Position

/-- The range runs from one boundary between characters of the text to another, and `piece` is what
stands between them. -/
def Range.Spells (text : String) (r : Range) (piece : String) : Prop :=
  ∃ i j : text.Pos, r.start.At i ∧ r.stop.At j ∧ i ≤ j ∧ text.extract i j = piece

theorem Range.spells_of_append {text u piece v : String} (h : text = u ++ piece ++ v) :
    Spells text ⟨Position.start.advanceText u, Position.start.advanceText (u ++ piece)⟩ piece := by
  have hi := String.Pos.splits_ofEqAppend (h.trans String.append_assoc)
  have hj := String.Pos.splits_ofEqAppend h
  obtain ⟨hle, hslice⟩ := String.copy_slice_eq_iff_splits.2 ⟨u, v, hi, hj⟩
  refine ⟨_, _, Position.at_of_splits hi, Position.at_of_splits hj, hle, ?_⟩
  rw [String.extract_eq_copy_slice _ _ hle, hslice]

end PlsqlAudit
