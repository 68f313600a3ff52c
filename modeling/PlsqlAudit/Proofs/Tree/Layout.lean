import PlsqlAudit.Proofs.Source.Text
import PlsqlAudit.Tree.Layout

/-!
# Token ranges and the text they are laid out in

* `Layout.Command`, `Layout.perform`, `Layout.after` — the ways to go on with a layout, and what a
  sequence of them leads to from the blank one.
* `Layout.Coherent` — the cursor is where the text ends. One command keeps it, so every sequence does.
* `Layout.separator` — what stands between a text and the token that goes on with it.
* `Layout.ranges_spell_tokens` — whatever is written later, the range of a token spells the token in
  the text, and only separators and line breaks stand between tokens.
-/

namespace PlsqlAudit

namespace Layout

/-! ## Commands -/

/-- A way to go on with a layout. -/
inductive Command where
  | token (kind : Kind) (text : String)
  | keyword (word : Keyword)
  | identifier (text : String)
  | literal (text : String)
  | punctuator (text : String)
  | newline
  | node (kind : Kind) (children : List Node)

namespace Command

/-- The text of the token that the command writes, if it writes one. -/
def token? : Command → Option String
  | token _ text => some text
  | keyword word => some word.spelling
  | identifier text => some text
  | literal text => some text
  | punctuator text => some text
  | newline => none
  | node _ _ => none

def isNewline : Command → Bool
  | newline => true
  | _ => false

end Command

/-- The node that a command gives, if it gives one, and the layout after it. -/
def perform (l : Layout) : Command → Option Node × Layout
  | .token kind text => (some (l.token kind text).1, (l.token kind text).2)
  | .keyword word => (some (l.keyword word).1, (l.keyword word).2)
  | .identifier text => (some (l.identifier text).1, (l.identifier text).2)
  | .literal text => (some (l.literal text).1, (l.literal text).2)
  | .punctuator text => (some (l.punctuator text).1, (l.punctuator text).2)
  | .newline => (none, l.newline)
  | .node kind children => (some (l.node kind children), l)

/-- The layout after some commands, beginning with nothing written. -/
def after (cs : List Command) : Layout := cs.foldl (fun l c => (l.perform c).2) blank

/-- The node that `c` gives when it follows the commands `done`. -/
def given (done : List Command) (c : Command) : Option Node := ((after done).perform c).1

theorem after_append (cs ds : List Command) :
    after (cs ++ ds) = ds.foldl (fun l c => (l.perform c).2) (after cs) := by
  simp [after]

theorem after_concat (cs : List Command) (c : Command) :
    after (cs ++ [c]) = ((after cs).perform c).2 := by
  simp [after]

/-! ## What is written between tokens -/

/-- What a token that follows `text` is set apart by: a space, unless it starts a line. -/
def separator (text : String) : String :=
  if text = "" ∨ text.endsWith '\n' = true then "" else " "

def lineBreaks (n : Nat) : String := String.ofList (List.replicate n '\n')

theorem lineBreaks_add (m n : Nat) : lineBreaks (m + n) = lineBreaks m ++ lineBreaks n := by
  simp [lineBreaks, ← List.replicate_append_replicate]

theorem separator_append_lineBreaks (text : String) {n : Nat} (h : n ≠ 0) :
    separator (text ++ lineBreaks n) = "" := by
  have hends : (text ++ lineBreaks n).endsWith '\n' = true := by
    rw [String.endsWith_char_eq_getLast?]
    simp [lineBreaks, List.getLast?_append, List.getLast?_replicate, h]
  simp [separator, hends]

/-! ## The cursor is where the text ends -/

/-- The cursor is the place to which the text leads. -/
def Coherent (l : Layout) : Prop := l.cursor = Position.start.advanceText l.text

variable {l : Layout}

@[simp] theorem put_text (l : Layout) (s : String) : (l.put s).text = l.text ++ s := rfl

@[simp] theorem put_empty (l : Layout) : l.put "" = l := by
  simp [put]

theorem put_put (l : Layout) (s t : String) : (l.put s).put t = l.put (s ++ t) := by
  simp [put, Position.advanceText_append, String.append_assoc]

theorem Coherent.put (h : l.Coherent) (s : String) : (l.put s).Coherent := by
  have hcursor : (l.put s).cursor = l.cursor.advanceText s := rfl
  unfold Coherent
  rw [hcursor, h, put_text, Position.advanceText_append]

theorem gap_eq (l : Layout) : l.gap = l.put (separator l.text) := by
  unfold gap separator
  by_cases htext : l.text = "" ∨ l.text.endsWith '\n' = true
  · rw [if_pos (by simpa using htext), if_pos htext, put_empty]
  · rw [if_neg (by simpa using htext), if_neg htext]

/-- The column of the cursor tells the same as the text: it is the first one just if no space is due. -/
theorem Coherent.gap_eq_of_column (h : l.Coherent) :
    l.gap = if l.cursor.column = 1 then l else l.put " " := by
  have hcolumn := Position.column_advanceText_start l.text
  rw [← h] at hcolumn
  rw [gap_eq, separator]
  by_cases hfirst : l.cursor.column = 1
  · rw [if_pos hfirst, if_pos (hcolumn.1 hfirst), put_empty]
  · rw [if_neg hfirst, if_neg fun htext => hfirst (hcolumn.2 htext)]

theorem Coherent.token_eq (h : l.Coherent) (kind : Kind) (s : String) :
    l.token kind s =
      (.leaf kind s ⟨Position.start.advanceText (l.text ++ separator l.text),
        Position.start.advanceText (l.text ++ separator l.text ++ s)⟩,
      l.put (separator l.text ++ s)) := by
  have hbefore : (l.put (separator l.text)).cursor =
      Position.start.advanceText (l.text ++ separator l.text) := h.put _
  have hafter : (l.put (separator l.text ++ s)).cursor =
      Position.start.advanceText (l.text ++ (separator l.text ++ s)) := h.put _
  unfold token
  simp only [gap_eq, put_put, hbefore, hafter, String.append_assoc]

/-- A command that writes a token does what `Layout.token` does, with a kind of its own. -/
theorem perform_of_token {c : Command} {s : String} (h : c.token? = some s) (l : Layout) :
    ∃ kind, l.perform c = (some (l.token kind s).1, (l.token kind s).2) := by
  cases c with
  | token kind text => obtain rfl := Option.some.inj h; exact ⟨kind, rfl⟩
  | keyword word => obtain rfl := Option.some.inj h; exact ⟨.keyword word, rfl⟩
  | identifier text => obtain rfl := Option.some.inj h; exact ⟨.identifier, rfl⟩
  | literal text => obtain rfl := Option.some.inj h; exact ⟨.literal, rfl⟩
  | punctuator text => obtain rfl := Option.some.inj h; exact ⟨.punctuator, rfl⟩
  | newline => cases h
  | node kind children => cases h

/-- A command that writes no token breaks the line or writes nothing. -/
theorem perform_of_no_token {c : Command} (h : c.token? = none) (l : Layout) :
    (l.perform c).2 = l.put (lineBreaks (if c.isNewline then 1 else 0)) := by
  cases c with
  | newline => rfl
  | node kind children => exact (put_empty l).symm
  | _ => cases h

theorem Coherent.perform_eq_put (h : l.Coherent) (c : Command) :
    ∃ s, (l.perform c).2 = l.put s := by
  cases hc : c.token? with
  | none => exact ⟨_, perform_of_no_token hc l⟩
  | some s =>
    obtain ⟨kind, hperform⟩ := perform_of_token hc l
    rw [hperform, h.token_eq]
    exact ⟨_, rfl⟩

/-- More commands only write more, and keep the cursor at the end of the text. -/
theorem Coherent.foldl_perform (h : l.Coherent) (cs : List Command) :
    ∃ s, cs.foldl (fun l c => (l.perform c).2) l = l.put s := by
  induction cs generalizing l with
  | nil => exact ⟨"", (put_empty l).symm⟩
  | cons c cs ih =>
    obtain ⟨s, hs⟩ := h.perform_eq_put c
    obtain ⟨t, ht⟩ := ih (h.put s)
    refine ⟨s ++ t, ?_⟩
    rw [List.foldl_cons, hs, ht, put_put]

theorem coherent_after (cs : List Command) : (after cs).Coherent := by
  have hblank : blank.Coherent := rfl
  obtain ⟨s, hs⟩ := hblank.foldl_perform cs
  unfold after
  rw [hs]
  exact hblank.put s

theorem text_after_append (cs ds : List Command) :
    ∃ s, (after (cs ++ ds)).text = (after cs).text ++ s := by
  obtain ⟨s, hs⟩ := (coherent_after cs).foldl_perform ds
  refine ⟨s, ?_⟩
  rw [after_append, hs, put_text]

/-! ## Tokens and what is between them -/

/-- What a token command gives and writes. -/
theorem given_of_token {c : Command} {s : String} (h : c.token? = some s) (done : List Command) :
    ∃ kind, given done c = some (.leaf kind s
        ⟨Position.start.advanceText ((after done).text ++ separator (after done).text),
          Position.start.advanceText (after (done ++ [c])).text⟩) ∧
      (after (done ++ [c])).text = (after done).text ++ separator (after done).text ++ s := by
  obtain ⟨kind, hperform⟩ := perform_of_token h (after done)
  have htoken := (coherent_after done).token_eq kind s
  have htext : (after (done ++ [c])).text =
      (after done).text ++ separator (after done).text ++ s := by
    rw [after_concat, hperform, htoken, put_text, String.append_assoc]
  refine ⟨kind, ?_, htext⟩
  unfold given
  rw [hperform, htoken, htext]

theorem after_append_of_no_token (cs ds : List Command) (h : ∀ d ∈ ds, d.token? = none) :
    after (cs ++ ds) = (after cs).put (lineBreaks (ds.countP Command.isNewline)) := by
  rw [after_append]
  generalize after cs = l
  induction ds generalizing l with
  | nil => exact (put_empty l).symm
  | cons d ds ih =>
    have hd := perform_of_no_token (h d List.mem_cons_self) l
    rw [List.foldl_cons, hd, ih fun x hx => h x (List.mem_cons_of_mem _ hx), put_put,
      ← lineBreaks_add, List.countP_cons, Nat.add_comm]

/-- Only breaks, or else a separator, come between the end of a text and the next token. -/
theorem gap_after_append (cs ds : List Command) (h : ∀ d ∈ ds, d.token? = none) :
    (after (cs ++ ds)).text ++ separator (after (cs ++ ds)).text =
      (after cs).text ++
        (if ds.countP Command.isNewline = 0 then separator (after cs).text
          else lineBreaks (ds.countP Command.isNewline)) := by
  rw [after_append_of_no_token cs ds h, put_text]
  split
  · rename_i hzero
    have hnone : lineBreaks 0 = "" := rfl
    rw [hzero, hnone, String.append_empty]
  · rename_i hbreaks
    rw [separator_append_lineBreaks _ hbreaks, String.append_empty]

/-- **Ranges and text of a layout fit together.** After every command the cursor is where the text
ends. Whatever is written later, the range of a token spells the token in the text, with the lines
and columns to which the text before leads. Between two tokens that follow each other stand as many
line breaks as were asked for or, without any, a separator; so no token reaches into a later one. -/
theorem ranges_spell_tokens (cs : List Command) :
    (∀ done, done <+: cs →
      (after done).cursor = Position.start.advanceText (after done).text) ∧
    (∀ done c later s, cs = done ++ c :: later → c.token? = some s →
      ∃ n, given done c = some n ∧ n.token = some s ∧ n.range.Spells (after cs).text s) ∧
    (∀ done c between c' later n n', cs = done ++ c :: (between ++ c' :: later) →
      c.token?.isSome → c'.token?.isSome →
      given done c = some n → given (done ++ c :: between) c' = some n' →
      n.range.stop ≤ n'.range.start ∧
      ((∀ b ∈ between, b.token? = none) →
        Range.Spells (after cs).text ⟨n.range.stop, n'.range.start⟩
          (if between.countP Command.isNewline = 0 then separator (after (done ++ [c])).text
            else lineBreaks (between.countP Command.isNewline)))) := by
  refine ⟨fun done _ => coherent_after done, ?_, ?_⟩
  · intro done c later s hcs hc
    obtain ⟨kind, hgiven, htext⟩ := given_of_token hc done
    obtain ⟨rest, hrest⟩ := text_after_append (done ++ [c]) later
    refine ⟨_, hgiven, rfl, ?_⟩
    rw [List.append_assoc, List.singleton_append, ← hcs] at hrest
    rw [htext] at hrest ⊢
    exact Range.spells_of_append hrest
  · intro done c between c' later n n' hcs hc hc' hn hn'
    obtain ⟨s, hs⟩ := Option.isSome_iff_exists.1 hc
    obtain ⟨s', hs'⟩ := Option.isSome_iff_exists.1 hc'
    obtain ⟨kind, hgiven, -⟩ := given_of_token hs done
    obtain ⟨kind', hgiven', htext'⟩ := given_of_token hs' (done ++ c :: between)
    obtain rfl := Option.some.inj (hn.symm.trans hgiven)
    obtain rfl := Option.some.inj (hn'.symm.trans hgiven')
    have hdone : done ++ c :: between = (done ++ [c]) ++ between := by simp
    constructor
    · obtain ⟨t, ht⟩ := text_after_append (done ++ [c]) between
      show (Position.start.advanceText (after (done ++ [c])).text).offset ≤
        (Position.start.advanceText _).offset
      rw [hdone, ht]
      simp only [Position.advanceText_offset, String.utf8ByteSize_append]
      omega
    · intro hbetween
      obtain ⟨rest, hrest⟩ := text_after_append (done ++ c :: between ++ [c']) later
      have hall : cs = done ++ c :: between ++ [c'] ++ later := by simp [hcs]
      have hgap := gap_after_append (done ++ [c]) between hbetween
      rw [← hall, htext', hdone, hgap, String.append_assoc] at hrest
      show Range.Spells _ ⟨Position.start.advanceText _, Position.start.advanceText _⟩ _
      rw [hdone, hgap]
      exact Range.spells_of_append hrest

end Layout

end PlsqlAudit
