import PlsqlAudit.Config.Yaml
import PlsqlAudit.Proofs.Number.Width
import PlsqlAudit.Proofs.Rule.Canonical
import PlsqlAudit.Proofs.Yaml.Abridged

/-!
# Configurations read back from YAML

The two halves meet at `Config.Tells`, which describes the documents that tell a configuration.

* `Config.Tells` — a located value tells a configuration, up to fields with their default that are left
  out and to unknown fields: in the whole, in its sections and in each override.
* `Config.ofNode_of_tells` — the configuration is read from every value that tells it.
* `Config.tells_of_denotes` — what is written for a configuration tells it.
-/

namespace PlsqlAudit

open Yaml (FieldSpec Reads)

/-! ## Values with names -/

section Names

variable {n : Yaml.Node} {path : Yaml.Path}

theorem Severity.ofNode_of_denotes {s : Severity} (h : n.denotes (.text s.name) = true) :
    Severity.ofNode path n = pure s :=
  Yaml.choice_of_denotes h s.ofName?_name

/-- A tag that is no custom one is found by its name, which is not that of a custom one. -/
theorem Tag.toValue_cases (t : Tag) :
    (∃ text, t = .custom text) ∨
      t.toValue = .text t.name ∧ t.name ≠ "custom" ∧ Tag.fixed.find? (·.name = t.name) = some t := by
  cases t with
  | custom text => exact .inl ⟨text, rfl⟩
  | _ => exact .inr ⟨rfl, by decide, by decide⟩

theorem Tag.ofNode_of_denotes {t : Tag} (h : n.denotes t.toValue = true) :
    Tag.ofNode path n = pure t := by
  rcases t.toValue_cases with ⟨text, rfl⟩ | ⟨hvalue, hname, hfind⟩
  · obtain ⟨header, style, rfl, htag⟩ := Yaml.exists_tagged h
    have htext : Yaml.text path (.scalar header style text) = pure text := rfl
    simp [Tag.ofNode, Yaml.named, Yaml.variant_tagged htag, htext]
  · rw [hvalue] at h
    obtain ⟨header, style, rfl, htag, -⟩ := Yaml.exists_text h
    simp [Tag.ofNode, Yaml.named, Yaml.variant_untagged htag, hname, hfind]

theorem Remediation.ofNode_of_denotes {r : Remediation} (h : n.denotes (.text r.display) = true) :
    Remediation.ofNode path n = pure r := by
  simp [Remediation.ofNode, Yaml.text_of_denotes h]

end Names

/-! ## What tells a configuration -/

/-- The fields of an override; one that it does not set is told by nothing. -/
def Override.fields : List (FieldSpec Override) :=
  [.of "severity" (·.severity) fun o n =>
     n.denotes ((o.map fun s => Yaml.Value.text s.name).getD .null) = true,
   .of "remediation" (·.remediation) fun o n =>
     n.denotes ((o.map fun r => Yaml.Value.text r.display).getD .null) = true]

/-- The fields of the general settings. -/
def General.fields : List (FieldSpec General) :=
  [.of "min_severity" (·.minSeverity) fun s n => n.denotes (.text s.name) = true,
   .of "fail_fast" (·.failFast) fun b n => n.denotes (.bool b) = true,
   .of "max_threads" (·.maxThreads) fun k n => n.denotes (.nat k) = true]

/-- The located value is a mapping whose entries tell the overrides, in any order. -/
def Override.TellsAll (m : NameMap Override) (n : Yaml.Node) : Prop :=
  ∃ header entries listing, n = .mapping header entries ∧ listing.Perm m.entries ∧
    List.Forall₂ (fun e entry => entry.1.denotes (.text e.1) = true ∧
      Yaml.Tells {} Override.fields e.2 entry.2) listing entries

/-- The fields of a choice of rules. -/
def RuleChoice.fields : List (FieldSpec RuleChoice) :=
  [.of "enabled_rules" (·.enabledRules) fun ids n => n.denotes (.sequence (ids.map .text)) = true,
   .of "disabled_rules" (·.disabledRules) fun ids n => n.denotes (.sequence (ids.map .text)) = true,
   .of "enabled_tags" (·.enabledTags) fun tags n => n.denotes (.sequence (tags.map Tag.toValue)) = true,
   .of "overrides" (·.overrides) Override.TellsAll]

/-- The fields of a configuration. -/
def Config.fields : List (FieldSpec Config) :=
  [.of "general" (·.general) (Yaml.Tells {} General.fields),
   .of "rules" (·.rules) (Yaml.Tells {} RuleChoice.fields)]

/-- The located value tells the configuration: it has the fields of the configuration, of its sections
and of its overrides, up to those that have their default, and may have unknown ones. -/
def Config.Tells (c : Config) (n : Yaml.Node) : Prop := Yaml.Tells {} Config.fields c n

/-! ## Reading what is told -/

theorem Override.reads (o : Override) : Reads Override.field? Override.fields o where
  names := by decide
  unknown name hname := by
    have hne : name ≠ "severity" ∧ name ≠ "remediation" := by
      simpa [Override.fields] using hname
    simp [Override.field?, hne]
  takes := by
    simp only [Override.fields, List.forall_mem_cons]
    refine ⟨.of_set (fun o s => { o with severity := s }) rfl ?_ (fun _ _ => rfl) (by simp),
      .of_set (fun o r => { o with remediation := r }) rfl ?_ (fun _ _ => rfl) (by simp), by simp⟩
    · exact fun n path h => Yaml.optional_of_denotes h fun s => Severity.ofNode_of_denotes
    · exact fun n path h => Yaml.optional_of_denotes h fun r => Remediation.ofNode_of_denotes
  ext s h := by
    simp only [Override.fields, List.forall_mem_cons, FieldSpec.of_agrees] at h
    obtain ⟨hseverity, hremediation, -⟩ := h
    exact congrArg₂ Override.mk hseverity hremediation

theorem General.reads {g : General} (hthreads : g.maxThreads < Number.wordLimit) :
    Reads General.field? General.fields g where
  names := by decide
  unknown name hname := by
    have hne : name ≠ "min_severity" ∧ name ≠ "fail_fast" ∧ name ≠ "max_threads" := by
      simpa [General.fields] using hname
    simp [General.field?, hne]
  takes := by
    simp only [General.fields, List.forall_mem_cons]
    refine ⟨.of_set (fun g s => { g with minSeverity := s }) rfl ?_ (fun _ _ => rfl) (by simp),
      .of_set (fun g b => { g with failFast := b }) rfl ?_ (fun _ _ => rfl) (by simp),
      .of_set (fun g k => { g with maxThreads := k }) rfl ?_ (fun _ _ => rfl) (by simp), by simp⟩
    · exact fun n path h => Severity.ofNode_of_denotes h
    · exact fun n path h => Yaml.truth_of_denotes h
    · exact fun n path h => Yaml.word_of_denotes h hthreads
  ext s h := by
    simp only [General.fields, List.forall_mem_cons, FieldSpec.of_agrees] at h
    obtain ⟨hseverity, hfast, hthreads, -⟩ := h
    cases g
    cases hseverity
    cases hfast
    cases hthreads
    rfl

theorem Override.nameMap_of_tellsAll {m : NameMap Override} {n : Yaml.Node} {path : Yaml.Path}
    (h : Override.TellsAll m n) : Yaml.nameMap Override.ofNode path n = pure m := by
  obtain ⟨header, entries, listing, rfl, hperm, htells⟩ := h
  exact Yaml.nameMap_of_tells hperm htells fun e _ n path he => e.2.reads.record_of_tells he

theorem RuleChoice.reads (c : RuleChoice) : Reads RuleChoice.field? RuleChoice.fields c where
  names := by decide
  unknown name hname := by
    have hne : name ≠ "enabled_rules" ∧ name ≠ "disabled_rules" ∧ name ≠ "enabled_tags" ∧
        name ≠ "overrides" := by
      simpa [RuleChoice.fields] using hname
    simp [RuleChoice.field?, hne]
  takes := by
    simp only [RuleChoice.fields, List.forall_mem_cons]
    refine ⟨.of_set (fun c ids => { c with enabledRules := ids }) rfl ?_ (fun _ _ => rfl) (by simp),
      .of_set (fun c ids => { c with disabledRules := ids }) rfl ?_ (fun _ _ => rfl) (by simp),
      .of_set (fun c tags => { c with enabledTags := tags }) rfl ?_ (fun _ _ => rfl) (by simp),
      .of_set (fun c m => { c with overrides := m }) rfl ?_ (fun _ _ => rfl) (by simp), by simp⟩
    · exact fun n path h => Yaml.list_of_denotes h fun _ _ _ _ => Yaml.text_of_denotes
    · exact fun n path h => Yaml.list_of_denotes h fun _ _ _ _ => Yaml.text_of_denotes
    · exact fun n path h => Yaml.list_of_denotes h fun _ _ _ _ => Tag.ofNode_of_denotes
    · exact fun n path h => Override.nameMap_of_tellsAll h
  ext s h := by
    simp only [RuleChoice.fields, List.forall_mem_cons, FieldSpec.of_agrees] at h
    obtain ⟨henabled, hdisabled, htags, hoverrides, -⟩ := h
    cases c
    cases henabled
    cases hdisabled
    cases htags
    cases hoverrides
    rfl

theorem Config.reads {c : Config} (fits : c.Fits) : Reads Config.field? Config.fields c where
  names := by decide
  unknown name hname := by
    have hne : name ≠ "general" ∧ name ≠ "rules" := by
      simpa [Config.fields] using hname
    simp [Config.field?, hne]
  takes := by
    simp only [Config.fields, List.forall_mem_cons]
    refine ⟨.of_set (fun c g => { c with general := g }) rfl ?_ (fun _ _ => rfl) (by simp),
      .of_set (fun c r => { c with rules := r }) rfl ?_ (fun _ _ => rfl) (by simp), by simp⟩
    · exact fun n path h => (General.reads fits).record_of_tells h
    · exact fun n path h => c.rules.reads.record_of_tells h
  ext s h := by
    simp only [Config.fields, List.forall_mem_cons, FieldSpec.of_agrees] at h
    obtain ⟨hgeneral, hrules, -⟩ := h
    exact congrArg₂ Config.mk hgeneral hrules

/-- **A configuration is read from every value that tells it.** -/
theorem Config.ofNode_of_tells {c : Config} (fits : c.Fits) {n : Yaml.Node} (h : c.Tells n) :
    Config.ofNode.run n = .ok c := by
  have hread : Config.ofNode [] n = pure c := (Config.reads fits).record_of_tells h
  rw [Yaml.Read.run, hread]
  rfl

/-! ## Telling what is written -/

theorem Override.tells_of_denotes {o : Override} {n : Yaml.Node} (h : n.denotes o.toValue = true) :
    Yaml.Tells {} Override.fields o n :=
  .of_denotes h (.cons ⟨rfl, fun _ h => h⟩ (.cons ⟨rfl, fun _ h => h⟩ .nil))

theorem Override.tellsAll_of_denotes {m : NameMap Override} {n : Yaml.Node}
    (h : n.denotes (.mapping (m.entries.map fun e => (e.1, e.2.toValue))) = true) :
    Override.TellsAll m n := by
  obtain ⟨header, entries, rfl, hdenote⟩ := Yaml.exists_mapping h
  refine ⟨header, entries, m.entries, rfl, .refl _, ?_⟩
  have hentries := List.forall₂_map_left_iff.1 (Yaml.forall₂_of_entriesDenote hdenote)
  exact hentries.imp fun e entry he => ⟨he.1, Override.tells_of_denotes he.2⟩

theorem General.tells_of_denotes {g : General} {n : Yaml.Node} (h : n.denotes g.toValue = true) :
    Yaml.Tells {} General.fields g n :=
  .of_denotes h (.cons ⟨rfl, fun _ h => h⟩ (.cons ⟨rfl, fun _ h => h⟩ (.cons ⟨rfl, fun _ h => h⟩ .nil)))

theorem RuleChoice.tells_of_denotes {c : RuleChoice} {n : Yaml.Node} (h : n.denotes c.toValue = true) :
    Yaml.Tells {} RuleChoice.fields c n := by
  refine .of_denotes h ?_
  refine .cons ⟨rfl, fun _ h => h⟩ (.cons ⟨rfl, fun _ h => h⟩ (.cons ⟨rfl, fun _ h => h⟩ ?_))
  exact .cons ⟨rfl, fun _ h => Override.tellsAll_of_denotes h⟩ .nil

/-- **What is written for a configuration tells it.** -/
theorem Config.tells_of_denotes {c : Config} {n : Yaml.Node} (h : n.denotes c.toValue = true) :
    c.Tells n := by
  refine .of_denotes h ?_
  exact .cons ⟨rfl, fun _ h => General.tells_of_denotes h⟩
    (.cons ⟨rfl, fun _ h => RuleChoice.tells_of_denotes h⟩ .nil)

/-- **Configurations read back from YAML.** If the text of a configuration stands for the value that was
written, the configuration is read from the text. And it is read from every value that tells it, which
is what was written with some fields left out that have their default, and with unknown fields added. -/
theorem configurations_read_back (c : Config) (fits : c.Fits) :
    ((∃ n, Yaml.parse c.toYaml = .ok n ∧ n.denotes c.toValue = true) →
      Config.ofYaml c.toYaml = .ok c) ∧
    (∀ n : Yaml.Node, n.denotes c.toValue = true → c.Tells n) ∧
    ∀ n : Yaml.Node, c.Tells n → Config.ofNode.run n = .ok c := by
  refine ⟨?_, fun n => Config.tells_of_denotes, fun n => Config.ofNode_of_tells fits⟩
  rintro ⟨n, hparse, hdenotes⟩
  have hread : Config.ofNode.run n = .ok c :=
    Config.ofNode_of_tells fits (Config.tells_of_denotes hdenotes)
  rw [Config.ofYaml, hparse]
  simp only [hread]

/-- Whether the text of a value stands for the value can be computed. -/
theorem Yaml.exists_of_parses {text : String} {v : Yaml.Value}
    (h : (Yaml.parse text).toOption.any (·.denotes v) = true) :
    ∃ n, Yaml.parse text = .ok n ∧ n.denotes v = true := by
  cases hparse : Yaml.parse text with
  | error e => simp [hparse, Except.toOption] at h
  | ok n => exact ⟨n, rfl, by simpa [hparse, Except.toOption] using h⟩

/-- A configuration whose texts look like other things: a rule named as nothing is written, a custom
tag named as a fixed one, and an override of a rule without a name. -/
def oddConfig : Config where
  general := { failFast := true, maxThreads := 18446744073709551615 }
  rules :=
    { enabledRules := ["null"], enabledTags := [.custom "bug"]
      overrides := .ofList [("", { remediation := some ⟨90, by decide⟩ })] }

/-- The configuration without the fields that have their default, and with an alias under a name that
no section knows. -/
def oddNode : Yaml.Node :=
  let plain (text : String) := Yaml.Node.scalar { mark := {} } .plain text
  let quoted (text : String) := Yaml.Node.scalar { mark := {} } .singleQuoted text
  let mapping := Yaml.Node.mapping { mark := {} }
  let sequence := Yaml.Node.sequence { mark := {} }
  mapping
    [(plain "general", mapping
      [(plain "fail_fast", plain "true"), (plain "verbose", .reference {} 7),
       (plain "max_threads", plain "18446744073709551615")]),
     (plain "rules", mapping
      [(plain "enabled_rules", sequence [quoted "null"]),
       (plain "enabled_tags", sequence
         [.scalar { mark := {}, tag := some (.custom (some "custom")) } .plain "bug"]),
       (plain "overrides", mapping [(quoted "", mapping [(plain "remediation", plain "1h 30min")])])])]

theorem oddNode_tells : oddConfig.Tells oddNode := by
  refine ⟨_, _, rfl, .given (by decide +kernel) ⟨_, _, rfl, ?general⟩
    (.given (by decide +kernel) ⟨_, _, rfl, ?rules⟩ .nil)⟩
  case general =>
    refine .omitted rfl (.given (by decide +kernel) ?_ (.unknown (by decide) ?_))
    · show Yaml.Node.denotes _ (.bool true) = true
      decide +kernel
    · refine .given (by decide +kernel) ?_ .nil
      show Yaml.Node.denotes _ (.nat 18446744073709551615) = true
      decide +kernel
  case rules =>
    refine .given (by decide +kernel) ?_ (.omitted rfl (.given (by decide +kernel) ?_
      (.given (by decide +kernel) ⟨_, _, oddConfig.rules.overrides.entries, rfl, .refl _, ?_⟩ .nil)))
    · show Yaml.Node.denotes _ (.sequence [.text "null"]) = true
      decide +kernel
    · show Yaml.Node.denotes _ (.sequence [.tagged "custom" "bug"]) = true
      decide +kernel
    · refine .cons ⟨by decide +kernel, _, _, rfl, ?_⟩ .nil
      refine .omitted rfl (.given (by decide +kernel) ?_ .nil)
      show Yaml.Node.denotes _ (.text (Remediation.display ⟨90, by decide⟩)) = true
      decide +kernel

/-- The text of the configuration stands for the value that was written. -/
theorem oddConfig_parses :
    ∃ n, Yaml.parse oddConfig.toYaml = .ok n ∧ n.denotes oddConfig.toValue = true :=
  Yaml.exists_of_parses (by decide +kernel)

theorem odd_configuration_reads_back :
    oddConfig.Fits ∧ Config.ofYaml oddConfig.toYaml = .ok oddConfig ∧
      oddConfig.Tells oddNode ∧ Config.ofNode.run oddNode = .ok oddConfig := by
  have fits : oddConfig.Fits := by unfold Config.Fits; decide
  obtain ⟨htext, -, htold⟩ := configurations_read_back oddConfig fits
  exact ⟨fits, htext oddConfig_parses, oddNode_tells, htold oddNode oddNode_tells⟩

end PlsqlAudit
