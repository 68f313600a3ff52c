import PlsqlAudit.Proofs.Source.Text

/-!
# Lines, columns and offsets along a text

Positions are compared by offset alone and are equal only if all three numbers agree. Among the places
of one text the two notions fit together.

* `Position.readingOrder` — the order by line and, on one line, by column.
* `Position.Precedes` — one position comes before another by offset and in reading order. A character
  leads to a position behind, so every text but the empty one does.
* `Position.advanceText_precedes` — of two places of one text, the one with less text before it
  precedes the other.
* `Position.places_are_ordered_by_text` — the numbers of a position in closed form, and the agreement of
  all orders on the places of a text.
-/

namespace PlsqlAudit

/-- Two beginnings of one text are the same if they are equally long. -/
theorem Text.eq_of_prefixes {t u v : String} (hu : u.toList <+: t.toList) (hv : v.toList <+: t.toList)
    (h : u.length = v.length) : u = v := by
  rw [← String.length_toList, ← String.length_toList] at h
  apply String.toList_injective
  exact (List.prefix_of_prefix_length_le hu hv (Nat.le_of_eq h)).eq_of_length h

namespace Position

variable {p q r : Position}

/-! ## Two orders -/

/-- By line and, on one line, by column. -/
def readingOrder : Position → Position → Ordering := compareLex (compareOn line) (compareOn column)

instance : Std.OrientedCmp readingOrder :=
  inferInstanceAs (Std.OrientedCmp (compareLex (compareOn line) (compareOn column)))

instance : Std.OrientedOrd Position :=
  inferInstanceAs (Std.OrientedCmp (compareOn offset))

/-- The position comes before another one by offset, and also in reading order. -/
structure Precedes (p q : Position) : Prop where
  offset_lt : p.offset < q.offset
  reads_before : p.line < q.line ∨ p.line = q.line ∧ p.column < q.column

theorem Precedes.trans (h : p.Precedes q) (h' : q.Precedes r) : p.Precedes r := by
  obtain ⟨hoffset, hreads⟩ := h
  obtain ⟨hoffset', hreads'⟩ := h'
  constructor <;> omega

/-- A line feed opens a line below, and any other character takes a column, whatever its bytes. -/
theorem precedes_advance (p : Position) (c : Char) : p.Precedes (p.advance c) := by
  have hsize : 0 < c.utf8Size := c.utf8Size_pos
  by_cases hc : c = '\n'
  · subst hc
    rw [advance_newline]
    exact ⟨Nat.lt_succ_self _, .inl (Nat.lt_succ_self _)⟩
  · rw [advance_of_ne p hc]
    exact ⟨Nat.lt_add_of_pos_right hsize, .inr ⟨rfl, Nat.lt_succ_self _⟩⟩

/-- **Every text but the empty one leads to a position behind.** -/
theorem precedes_advanceText (p : Position) {t : String} (h : t ≠ "") :
    p.Precedes (p.advanceText t) := by
  have hcs : t.toList ≠ [] := by simpa using h
  unfold advanceText
  generalize t.toList = cs at hcs
  induction cs generalizing p with
  | nil => exact absurd rfl hcs
  | cons c cs ih =>
    rw [List.foldl_cons]
    by_cases hnil : cs = []
    · rw [hnil]
      exact p.precedes_advance c
    · exact (p.precedes_advance c).trans (ih (p.advance c) hnil)

/-- **Of two places of one text, the one with less text before it precedes the other.** -/
theorem advanceText_precedes (p : Position) {t u v : String} (hu : u.toList <+: t.toList)
    (hv : v.toList <+: t.toList) (h : u.length < v.length) :
    (p.advanceText u).Precedes (p.advanceText v) := by
  rw [← String.length_toList, ← String.length_toList] at h
  obtain ⟨rest, hrest⟩ := List.prefix_of_prefix_length_le hu hv (Nat.le_of_lt h)
  have hv' : v = u ++ String.ofList rest := by
    apply String.toList_injective
    simp [hrest]
  have hne : String.ofList rest ≠ "" := by
    intro hempty
    rw [hv', hempty] at h
    simp at h
  rw [hv', advanceText_append]
  exact precedes_advanceText _ hne

/-! ## Agreement of the orders -/

theorem Precedes.compare_eq_lt (h : p.Precedes q) : compare p q = .lt := Nat.compare_eq_lt.2 h.offset_lt

theorem Precedes.readingOrder_eq_lt (h : p.Precedes q) : readingOrder p q = .lt := by
  show (compare p.line q.line).then (compare p.column q.column) = .lt
  rcases h.reads_before with hline | ⟨hline, hcolumn⟩
  · rw [Nat.compare_eq_lt.2 hline]
    rfl
  · rw [Nat.compare_eq_eq.2 hline, Nat.compare_eq_lt.2 hcolumn]
    rfl

/-- A comparison that respects what precedes what compares the places of a text by the text before
them. -/
theorem cmp_advanceText {cmp : Position → Position → Ordering} [Std.OrientedCmp cmp]
    (hcmp : ∀ {q r}, q.Precedes r → cmp q r = .lt) (p : Position) {t u v : String}
    (hu : u.toList <+: t.toList) (hv : v.toList <+: t.toList) :
    cmp (p.advanceText u) (p.advanceText v) = compare u.length v.length := by
  rcases Nat.lt_trichotomy u.length v.length with hlt | heq | hgt
  · rw [hcmp (p.advanceText_precedes hu hv hlt), Nat.compare_eq_lt.2 hlt]
  · have hself : cmp (p.advanceText v) (p.advanceText v) = .eq := Std.ReflCmp.compare_self
    rw [Text.eq_of_prefixes hu hv heq, hself, Nat.compare_eq_eq.2 rfl]
  · have hswap : cmp (p.advanceText u) (p.advanceText v) =
        (cmp (p.advanceText v) (p.advanceText u)).swap := Std.OrientedCmp.eq_swap
    rw [hswap, hcmp (p.advanceText_precedes hv hu hgt), Nat.compare_eq_gt.2 hgt]
    rfl

/-- **The places of a text are ordered as the text is.** A text leads on by as many lines as it has line
feeds, to the column that the characters behind the last one give, and by as many bytes as it has. Of two
places of one text, comparing the offsets alone is comparing by line and column, and comparing how much
text comes before; so places that compare as equal are one and the same. -/
theorem places_are_ordered_by_text (p : Position) (t : String) :
    (p.advanceText t).line = p.line + t.toList.count '\n' ∧
    (p.advanceText t).column =
      (if '\n' ∈ t.toList then 1 + (t.toList.rtakeWhile (· ≠ '\n')).length
        else p.column + t.length) ∧
    (p.advanceText t).offset = p.offset + t.utf8ByteSize ∧
    ∀ u v : String, u.toList <+: t.toList → v.toList <+: t.toList →
      let q := p.advanceText u
      let r := p.advanceText v
      compare q r = compare q.offset r.offset ∧
      compare q r = readingOrder q r ∧
      compare q r = compare u.length v.length ∧
      compare q r = compare u.utf8ByteSize v.utf8ByteSize ∧
      (compare q r = .eq ↔ q = r) := by
  refine ⟨p.advanceText_line t, p.advanceText_column t, p.advanceText_offset t, ?_⟩
  intro u v hu hv q r
  have hlength : compare q r = compare u.length v.length :=
    cmp_advanceText Precedes.compare_eq_lt p hu hv
  have hreading : readingOrder q r = compare u.length v.length :=
    cmp_advanceText Precedes.readingOrder_eq_lt p hu hv
  refine ⟨rfl, hlength.trans hreading.symm, hlength, ?_, ?_, ?_⟩
  · show compare (p.advanceText u).offset (p.advanceText v).offset = _
    simp [advanceText_offset, Nat.compare_eq_ite_lt]
  · intro heq
    rw [hlength, Nat.compare_eq_eq] at heq
    exact congrArg p.advanceText (Text.eq_of_prefixes hu hv heq)
  · intro heq
    rw [heq]
    exact Nat.compare_eq_eq.2 rfl

-- Positions that are no places of one text may compare as equal and differ.
example : compare (⟨1, 1, 3⟩ : Position) ⟨2, 2, 3⟩ = .eq := by decide

end Position

end PlsqlAudit
