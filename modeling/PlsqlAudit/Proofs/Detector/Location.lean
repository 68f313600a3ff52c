import PlsqlAudit.Proofs.Detector.NationalInput
import PlsqlAudit.Proofs.Tree.Assembly

/-!
# Findings point at the offending text

The trees of this module are put together from the tokens of one layout, so their ranges can be
compared with its text.

* `NationalInput.PointsAt` — a location is that of the word `NVARCHAR2` in a text.
* `NationalInput.pointsAt_of_made` — the range of such a word in the tree points at it, whatever was
  written later.
* `NationalInput.starts_lt` — in document order, and without parameters inside parameters, later findings
  begin later.
* `findings_point_at_offending_text` — both for the findings of the standard registry.
-/

namespace PlsqlAudit

namespace NationalInput

/-! ## The offending word -/

/-- The word is nine characters of one byte, on one line. -/
theorem word_shape {word : String} (h : word.toLower = "nvarchar2") :
    word.length = 9 ∧ word.utf8ByteSize = 9 ∧ '\n' ∉ word.toList := by
  have hlist : word.toList.map Char.toLower = "nvarchar2".toList := by
    rw [← h]
    exact String.toList_map.symm
  have hchars : ∀ c ∈ word.toList, c.toNat < 128 ∧ c ≠ '\n' := by
    have hall : "nvarchar2".toList.all fun d => d.toNat < 128 ∧ d ≠ '\n'.toLower := by decide
    intro c hc
    have hmem : c.toLower ∈ "nvarchar2".toList := hlist ▸ List.mem_map_of_mem hc
    obtain ⟨hascii, hbreak⟩ := of_decide_eq_true (List.all_eq_true.1 hall _ hmem)
    exact ⟨Text.toNat_lt_of_toLower hascii, fun heq => hbreak (congrArg Char.toLower heq)⟩
  have hlength : word.length = 9 := by
    rw [← String.length_toList, ← List.length_map Char.toLower, hlist]
    rfl
  refine ⟨hlength, ?_, fun hmem => (hchars _ hmem).2 rfl⟩
  rw [utf8ByteSize_of_ascii fun c hc => (hchars c hc).1, hlength]

/-- The location is that of the word `NVARCHAR2`, in whatever case, in the text: nine bytes long, with the
line and column to which the text before leads, and ending nine columns further on the same line. -/
structure PointsAt (text : String) (l : Location) : Prop where
  byteLength : l.byteLength = 9
  spelled : ∃ before word rest, text = before ++ word ++ rest ∧ word.toLower = "nvarchar2" ∧
    l.range.start = Position.start.advanceText before ∧
    text.toByteArray.extract l.range.start.offset (l.range.start.offset + 9) = word.toByteArray
  stop : l.range.stop =
    ⟨l.range.start.line, l.range.start.column + 9, l.range.start.offset + 9⟩

theorem pointsAt_of_append {text before word rest : String} (htext : text = before ++ word ++ rest)
    (hword : word.toLower = "nvarchar2") (path : String) :
    PointsAt text ⟨path, Position.start.advanceText before,
      Position.start.advanceText (before ++ word)⟩ := by
  obtain ⟨hlength, hsize, hline⟩ := word_shape hword
  have hoffset : (Position.start.advanceText before).offset = before.utf8ByteSize := by
    rw [Position.advanceText_offset]
    exact Nat.zero_add _
  have hstop : Position.start.advanceText (before ++ word) =
      ⟨(Position.start.advanceText before).line, (Position.start.advanceText before).column + 9,
        (Position.start.advanceText before).offset + 9⟩ := by
    obtain ⟨h1, h2⟩ := (Position.start.advanceText before).advanceText_of_no_newline hline
    have h3 := (Position.start.advanceText before).advanceText_offset word
    rw [hlength] at h2
    rw [hsize] at h3
    rw [Position.advanceText_append, ← h1, ← h2, ← h3]
  constructor
  case byteLength =>
    show (Position.start.advanceText (before ++ word)).offset -
      (Position.start.advanceText before).offset = 9
    rw [hstop]
    exact Nat.add_sub_cancel_left _ _
  case spelled =>
    refine ⟨before, word, rest, htext, hword, rfl, ?_⟩
    show text.toByteArray.extract (Position.start.advanceText before).offset
      ((Position.start.advanceText before).offset + 9) = word.toByteArray
    rw [hoffset, ← hsize]
    exact extract_bytes_of_append htext
  case stop => exact hstop

theorem exists_word {n : Node} (h : isNational n = true) :
    ∃ word, n.token = some word ∧ word.toLower = "nvarchar2" := by
  unfold isNational at h
  cases htoken : n.token with
  | none => simp [htoken] at h
  | some word => exact ⟨word, rfl, by simpa [htoken] using h⟩

/-- Wherever the word is in a tree of the layout, its range points at it. -/
theorem pointsAt_of_made {cs : List Layout.Command} {root n : Node} (h : Layout.Made cs root)
    (hn : n ∈ root.nodes) (hnational : isNational n = true) (path : String) :
    PointsAt (Layout.after cs).text ⟨path, n.range⟩ := by
  obtain ⟨word, htoken, hword⟩ := exists_word hnational
  obtain ⟨before, rest, htext, hrange⟩ := h.place n hn word htoken
  rw [hrange]
  exact pointsAt_of_append htext hword path

theorem PointsAt.start_lt_stop {text : String} {l : Location} (h : PointsAt text l) :
    l.range.start.offset < l.range.stop.offset := by
  rw [h.stop]
  exact Nat.lt_add_of_pos_right (by decide)

/-! ## Findings -/

/-- The node because of which a parameter is at fault is the word, somewhere in the parameter. -/
theorem Flags.mem_nodes {p n : Node} (h : Flags p n) : n ∈ p.nodes ∧ isNational n = true := by
  obtain ⟨before, type, later, hchildren, -, -, earlier, rest, hnodes, hnational, -⟩ := h.datatype
  refine ⟨?_, hnational⟩
  have htype : type ∈ p.children := by simp [hchildren]
  have hn : n ∈ type.nodes := by simp [hnodes]
  exact Node.mem_nodes_of_mem_children htype hn

/-- What the standard registry finds in a file. -/
theorem run_findings (file : SourceFile) :
    ∃ report, (Registry.standard.run file).value = .ok report ∧
      report.findings =
        file.root.nodes.filterMap fun p => (anchor? p).map (findingAt file.path) := by
  obtain ⟨hfailures, hfindings⟩ := walked_detector file
  obtain ⟨-, hcontext, -⟩ := Registry.closed_lenient [detector] file
  rw [hfailures] at hcontext
  refine ⟨_, Registry.runAll_lenient _ _ _ rfl, ?_⟩
  rw [Registry.summarize_findings, ← hfindings]
  have hclosed : (Registry.closed false (Registry.standard.selected file) file).context =
      (Registry.walked false [detector] file).context := hcontext
  rw [hclosed]
  exact Settings.select_of_plain rfl rfl _

/-- In document order, and if no parameter stands inside another, later findings begin later. -/
theorem starts_lt {root : Node} (horder : root.InOrder)
    (hflat : ∀ p ∈ root.nodes, p.kind = .parameterDeclaration →
      ∀ d ∈ p.children.flatMap Node.nodes, d.kind ≠ .parameterDeclaration)
    (hwords : ∀ n ∈ root.nodes, isNational n = true →
      n.range.start.offset < n.range.stop.offset) (path : String) :
    (root.nodes.filterMap fun p => (anchor? p).map (findingAt path)).Pairwise fun f g =>
      f.primaryLocation.range.start.offset < g.primaryLocation.range.start.offset := by
  rw [List.pairwise_filterMap]
  refine horder.apart.imp_of_mem fun {p q} hp hq hpq f hf g hg => ?_
  obtain ⟨n, hn, rfl⟩ := Option.map_eq_some_iff.1 hf
  obtain ⟨m, hm, rfl⟩ := Option.map_eq_some_iff.1 hg
  have hn := (anchor?_eq_some_iff p n).1 hn
  have hm := (anchor?_eq_some_iff q m).1 hm
  show n.range.start.offset < m.range.start.offset
  rcases hpq with hbelow | hbehind
  · exact absurd hm.parameter (hflat p hp hn.parameter q hbelow)
  · -- The word of `p` ends inside of `p`, and the word of `q` begins inside of `q`.
    obtain ⟨hnp, hnational⟩ := hn.mem_nodes
    obtain ⟨hmq, -⟩ := hm.mem_nodes
    have hlength := hwords n (Node.mem_nodes_trans hp hnp) hnational
    have hend := ((horder.of_mem hp).covers n hnp).2
    have hbegin := ((horder.of_mem hq).covers m hmq).1
    omega

end NationalInput

/-- **Every reported location points at the offending text.** If the tree of a file is put together from
the tokens and nodes of one layout, in whatever order and nesting, each finding of the standard registry
is nine bytes long, and these bytes of the text, however much was written later, are the word `NVARCHAR2`
in some case; line and column are those to which the text before leads, and the end is nine columns
further on the same line. If the tree is written in source order and no parameter stands inside another,
each finding begins behind the start of the one before, so no location is reported twice. -/
theorem findings_point_at_offending_text (file : SourceFile) :
    ∃ report, (Registry.standard.run file).value = .ok report ∧
      (∀ cs, Layout.Made cs file.root → ∀ f ∈ report.findings,
        NationalInput.PointsAt (Layout.after cs).text f.primaryLocation) ∧
      ∀ done s, file.root = (Sketch.write (Layout.after done) s).1 →
        (∀ f ∈ report.findings,
          NationalInput.PointsAt (s.write (Layout.after done)).2.text f.primaryLocation) ∧
        ((∀ p ∈ file.root.nodes, p.kind = .parameterDeclaration →
            ∀ d ∈ p.children.flatMap Node.nodes, d.kind ≠ .parameterDeclaration) →
          (report.findings.Pairwise fun f g =>
            f.primaryLocation.range.start.offset < g.primaryLocation.range.start.offset) ∧
          (report.findings.map (·.primaryLocation)).Nodup) := by
  obtain ⟨report, hrun, hfindings⟩ := NationalInput.run_findings file
  have hpoints : ∀ cs, Layout.Made cs file.root → ∀ f ∈ report.findings,
      NationalInput.PointsAt (Layout.after cs).text f.primaryLocation := by
    intro cs hmade f hf
    rw [hfindings] at hf
    obtain ⟨p, hp, hanchor⟩ := List.mem_filterMap.1 hf
    obtain ⟨n, hn, rfl⟩ := Option.map_eq_some_iff.1 hanchor
    obtain ⟨hnp, hnational⟩ := ((NationalInput.anchor?_eq_some_iff p n).1 hn).mem_nodes
    exact NationalInput.pointsAt_of_made hmade (Node.mem_nodes_trans hp hnp) hnational file.path
  refine ⟨report, hrun, hpoints, fun done s hroot => ?_⟩
  obtain ⟨more, hafter, hmade⟩ := s.made_write done
  rw [← hroot] at hmade
  refine ⟨?_, fun hflat => ?_⟩
  · rw [← hafter]
    exact hpoints _ hmade
  · have horder : file.root.InOrder := hroot ▸ s.inOrder_write (Layout.after done)
    have hincreasing := NationalInput.starts_lt horder hflat
      (fun n hn hnational =>
        (NationalInput.pointsAt_of_made hmade hn hnational file.path).start_lt_stop) file.path
    rw [← hfindings] at hincreasing
    refine ⟨hincreasing, List.pairwise_map.2 (hincreasing.imp fun {f g} hlt heq => ?_)⟩
    rw [heq] at hlt
    exact Nat.lt_irrefl _ hlt

/-- Two parameters on two lines, the first behind a name with letters of two bytes. -/
theorem two_inputs_are_located :
    let word (text : String) : Sketch := .token (.keyword .nvarchar2) text
    let parameter (name : String) (type : Sketch) : Sketch :=
      .node .parameterDeclaration (.cons (.token .identifier name)
        (.cons (.node .datatype (.cons type .nil)) .nil))
    let s : Sketch := .node .procedureDeclaration
      (.cons (parameter "größe" (word "NVARCHAR2"))
        (.newline (.cons (parameter "p2" (.node .characterDatatype (.cons (word "nVarchar2") .nil)))
          .nil)))
    let file : SourceFile := { path := "p.prc", root := (s.write (Layout.after [])).1 }
    (∀ p ∈ file.root.nodes, p.kind = .parameterDeclaration →
      ∀ d ∈ p.children.flatMap Node.nodes, d.kind ≠ .parameterDeclaration) ∧
    ∃ report, (Registry.standard.run file).value = .ok report ∧
      report.findings.map (·.primaryLocation.range.start) = [⟨1, 7, 8⟩, ⟨2, 4, 21⟩] ∧
      (∀ f ∈ report.findings,
        NationalInput.PointsAt "größe NVARCHAR2\np2 nVarchar2" f.primaryLocation) ∧
      report.findings.Pairwise fun f g =>
        f.primaryLocation.range.start.offset < g.primaryLocation.range.start.offset := by
  intro word parameter s file
  have hflat : ∀ p ∈ file.root.nodes, p.kind = .parameterDeclaration →
      ∀ d ∈ p.children.flatMap Node.nodes, d.kind ≠ .parameterDeclaration := by decide +kernel
  have hstarts : ((Registry.standard.run file).value.map fun report =>
      report.findings.map (·.primaryLocation.range.start)) = .ok [⟨1, 7, 8⟩, ⟨2, 4, 21⟩] := by
    decide +kernel
  have htext : (s.write (Layout.after [])).2.text = "größe NVARCHAR2\np2 nVarchar2" := by
    decide +kernel
  obtain ⟨report, hrun, -, hsource⟩ := findings_point_at_offending_text file
  obtain ⟨hpoints, hincreasing⟩ := hsource [] s rfl
  rw [hrun] at hstarts
  rw [htext] at hpoints
  exact ⟨hflat, report, hrun, Except.ok.inj hstarts, hpoints, (hincreasing hflat).1⟩

end PlsqlAudit
