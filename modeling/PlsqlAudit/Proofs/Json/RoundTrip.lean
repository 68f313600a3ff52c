import PlsqlAudit.Json.Config
import PlsqlAudit.Json.Report
import PlsqlAudit.Json.Tree
import PlsqlAudit.Proofs.Json.Reader
import PlsqlAudit.Proofs.Number.Width
import PlsqlAudit.Proofs.Rule.Canonical

/-!
# What is written as JSON reads back

Every value is read back from what it is written as. A structure is also read from the same object
with unknown fields in it, and from the array of its values.

* `Severity.ofJson_toJson`, `Tag.ofJson_toJson`, … — values with names.
* `Position.ofJson_of_restates`, `Report.ofJson_of_restates`, … — structures, from every value that
  stands for their object.
* `json_forms_read_back` — all of them together.
-/

namespace PlsqlAudit

open Json (Restates ReadsBack record_of_restates ok_bind pure_eq_ok map_ok)

/-! ## Values with names -/

@[simp] theorem Severity.ofJson_toJson (s : Severity) : Severity.ofJson s.toJson = .ok s :=
  Json.choice_str s.ofName?_name

@[simp] theorem Scope.ofJson_toJson (s : Scope) : Scope.ofJson s.toJson = .ok s :=
  Json.choice_str s.ofName?_name

@[simp] theorem Keyword.ofJson_toJson (k : Keyword) : Keyword.ofJson k.toJson = .ok k :=
  Json.choice_str k.ofName?_name

/-- No tag is mistaken for another: a custom tag stands in an object, whatever its text is. -/
@[simp] theorem Tag.ofJson_toJson (t : Tag) : Tag.ofJson t.toJson = .ok t := by
  cases t <;> rfl

@[simp] theorem Kind.ofJson_toJson (k : Kind) : Kind.ofJson k.toJson = .ok k := by
  cases k with
  | keyword word =>
    show (do return Kind.keyword (← Keyword.ofJson word.toJson)) = Except.ok (Kind.keyword word)
    rw [Keyword.ofJson_toJson, ok_bind, pure_eq_ok]
  | _ => rfl

@[simp] theorem Remediation.ofJson_toJson (r : Remediation) :
    Remediation.ofJson r.toJson = .ok r := by
  simp [Remediation.ofJson, Remediation.toJson, ok_bind, pure_eq_ok]

@[simp] theorem Json.list_tags (ts : List Tag) :
    Json.list Tag.ofJson (.array Tag.toJson ts) = .ok ts :=
  Json.list_array fun t _ => t.ofJson_toJson

@[simp] theorem Json.list_texts (ss : List String) :
    Json.list Json.text (.array .str ss) = .ok ss :=
  Json.list_array fun _ _ => rfl

@[simp] theorem Json.optional_text (o : Option String) :
    Json.optional Json.text (.option .str o) = .ok o :=
  Json.optional_option (fun _ => nofun) fun _ => rfl

@[simp] theorem Json.nameMap_words {m : NameMap Nat} (h : m.Fits) :
    Json.nameMap Json.word (.map .nat m) = .ok m :=
  Json.nameMap_map fun e he => Json.word_nat (h e he)

/-! ## Places -/

theorem Position.ofJson_of_restates {p : Position} (hp : p.Fits) {j : Json}
    (h : Restates p.toJson j) : Position.ofJson j = .ok p := by
  obtain ⟨hline, hcolumn, hoffset⟩ := hp
  refine record_of_restates h (by simp) rfl ?_ ?_
  · intro fields hf
    simp only [List.forall_mem_cons] at hf
    simp [Json.field?, Json.need, hf, hline, hcolumn, hoffset, ok_bind, pure_eq_ok, map_ok]
  · simp [Json.item, hline, hcolumn, hoffset, ok_bind, pure_eq_ok]

@[simp] theorem Position.ofJson_toJson {p : Position} (hp : p.Fits) :
    Position.ofJson p.toJson = .ok p :=
  ofJson_of_restates hp (.refl _)

theorem Range.ofJson_of_restates {r : Range} (hr : r.Fits) {j : Json}
    (h : Restates r.toJson j) : Range.ofJson j = .ok r := by
  obtain ⟨hstart, hstop⟩ := hr
  refine record_of_restates h (by simp) rfl ?_ ?_
  · intro fields hf
    simp only [List.forall_mem_cons] at hf
    simp [Json.field?, Json.need, hf, hstart, hstop, ok_bind, pure_eq_ok, map_ok]
  · simp [Json.item, hstart, hstop, ok_bind, pure_eq_ok]

@[simp] theorem Range.ofJson_toJson {r : Range} (hr : r.Fits) : Range.ofJson r.toJson = .ok r :=
  ofJson_of_restates hr (.refl _)

theorem Location.ofJson_of_restates {l : Location} (hl : l.Fits) {j : Json}
    (h : Restates l.toJson j) : Location.ofJson j = .ok l := by
  have hrange : l.range.Fits := hl
  refine record_of_restates h (by simp) rfl ?_ ?_
  · intro fields hf
    simp only [List.forall_mem_cons] at hf
    simp [Json.field?, Json.need, hf, hrange, ok_bind, pure_eq_ok, map_ok]
  · simp [Json.item, hrange, ok_bind, pure_eq_ok]

@[simp] theorem Location.ofJson_toJson {l : Location} (hl : l.Fits) :
    Location.ofJson l.toJson = .ok l :=
  ofJson_of_restates hl (.refl _)

/-! ## Rules, findings and reports -/

theorem Metadata.ofJson_of_restates {m : Metadata} {j : Json} (h : Restates m.toJson j) :
    Metadata.ofJson j = .ok m := by
  refine record_of_restates h (by simp) rfl ?_ ?_
  · intro fields hf
    simp only [List.forall_mem_cons] at hf
    simp [Json.field?, Json.need, hf, ok_bind, pure_eq_ok, map_ok]
  · simp [Json.item, ok_bind, pure_eq_ok]

theorem Finding.ofJson_of_restates {f : Finding} (hf : f.Fits) {j : Json}
    (h : Restates f.toJson j) : Finding.ofJson j = .ok f := by
  have hlocation : f.primaryLocation.Fits := hf
  refine record_of_restates h (by simp) rfl ?_ ?_
  · intro fields hfields
    simp only [List.forall_mem_cons] at hfields
    simp [Json.field?, Json.need, hfields, hlocation, ok_bind, pure_eq_ok, map_ok]
  · simp [Json.item, hlocation, ok_bind, pure_eq_ok]

theorem Finding.ofJson_toJson {f : Finding} (hf : f.Fits) : Finding.ofJson f.toJson = .ok f :=
  ofJson_of_restates hf (.refl _)

theorem Stats.ofJson_of_restates {s : Stats} (hs : s.Fits) {j : Json} (h : Restates s.toJson j) :
    Stats.ofJson j = .ok s := by
  have htime : Json.milliseconds (.nat s.totalTimeMs) = .ok s.totalTimeMs :=
    Json.natBelow_nat _ hs.totalTimeMs
  refine record_of_restates h (by simp) rfl ?_ ?_
  · intro fields hf
    simp only [List.forall_mem_cons] at hf
    simp [Json.field?, Json.need, hf, htime, hs.detectorsRun, hs.filesAnalyzed, hs.nodesVisited,
      hs.bySeverity, hs.byDetector, ok_bind, pure_eq_ok, map_ok]
  · simp [Json.item, htime, hs.detectorsRun, hs.filesAnalyzed, hs.nodesVisited, hs.bySeverity,
      hs.byDetector, ok_bind, pure_eq_ok]

@[simp] theorem Stats.ofJson_toJson {s : Stats} (hs : s.Fits) : Stats.ofJson s.toJson = .ok s :=
  ofJson_of_restates hs (.refl _)

theorem Report.ofJson_of_restates {r : Report} (hr : r.Fits) {j : Json}
    (h : Restates r.toJson j) : Report.ofJson j = .ok r := by
  obtain ⟨hfits, hstats⟩ := hr
  have hfindings : Json.list Finding.ofJson (.array Finding.toJson r.findings) = .ok r.findings :=
    Json.list_array fun f hf => Finding.ofJson_toJson (hfits f hf)
  refine record_of_restates h (by simp) rfl ?_ ?_
  · intro fields hf
    simp only [List.forall_mem_cons] at hf
    simp [Json.field?, Json.need, hf, hfindings, hstats, ok_bind, pure_eq_ok, map_ok]
  · simp [Json.item, hfindings, hstats, ok_bind, pure_eq_ok]

/-! ## Configurations -/

@[simp] theorem Json.optional_severity (o : Option Severity) :
    Json.optional Severity.ofJson (.option Severity.toJson o) = .ok o :=
  Json.optional_option (fun _ => nofun) Severity.ofJson_toJson

@[simp] theorem Json.optional_remediation (o : Option Remediation) :
    Json.optional Remediation.ofJson (.option Remediation.toJson o) = .ok o :=
  Json.optional_option (fun _ => nofun) Remediation.ofJson_toJson

theorem Override.ofJson_of_restates {o : Override} {j : Json} (h : Restates o.toJson j) :
    Override.ofJson j = .ok o := by
  refine record_of_restates h (by simp) rfl ?_ ?_
  · intro fields hf
    simp only [List.forall_mem_cons] at hf
    simp [Json.field?, hf, ok_bind, pure_eq_ok, map_ok]
  · simp [Json.itemD, ok_bind, pure_eq_ok]

theorem General.ofJson_of_restates {g : General} (hg : g.maxThreads < Number.wordLimit) {j : Json}
    (h : Restates g.toJson j) : General.ofJson j = .ok g := by
  refine record_of_restates h (by simp) rfl ?_ ?_
  · intro fields hf
    simp only [List.forall_mem_cons] at hf
    simp [Json.field?, hf, hg, ok_bind, pure_eq_ok, map_ok]
  · simp [Json.itemD, hg, ok_bind, pure_eq_ok]

theorem RuleChoice.ofJson_of_restates {c : RuleChoice} {j : Json} (h : Restates c.toJson j) :
    RuleChoice.ofJson j = .ok c := by
  have hoverrides : Json.nameMap Override.ofJson (.map Override.toJson c.overrides) =
      .ok c.overrides :=
    Json.nameMap_map fun e _ => Override.ofJson_of_restates (.refl _)
  refine record_of_restates h (by simp) rfl ?_ ?_
  · intro fields hf
    simp only [List.forall_mem_cons] at hf
    simp [Json.field?, hf, hoverrides, ok_bind, pure_eq_ok, map_ok]
  · simp [Json.itemD, hoverrides, ok_bind, pure_eq_ok]

theorem Config.ofJson_of_restates {c : Config} (hc : c.Fits) {j : Json}
    (h : Restates c.toJson j) : Config.ofJson j = .ok c := by
  have hgeneral : General.ofJson c.general.toJson = .ok c.general :=
    General.ofJson_of_restates hc (.refl _)
  have hrules : RuleChoice.ofJson c.rules.toJson = .ok c.rules :=
    RuleChoice.ofJson_of_restates (.refl _)
  refine record_of_restates h (by simp) rfl ?_ ?_
  · intro fields hf
    simp only [List.forall_mem_cons] at hf
    simp [Json.field?, hf, hgeneral, hrules, ok_bind, pure_eq_ok, map_ok]
  · simp [Json.itemD, hgeneral, hrules, ok_bind, pure_eq_ok]

/-! ## All forms together -/

/-- **Whatever is written as JSON reads back.** Values with names, ids and times are read from what they
are written as; structures also with unknown fields in them, and as arrays. -/
theorem json_forms_read_back :
    (∀ k : Keyword, Keyword.ofJson k.toJson = .ok k) ∧
    (∀ k : Kind, Kind.ofJson k.toJson = .ok k) ∧
    (∀ id : String, Json.text (.str id) = .ok id) ∧
    (∀ s : Severity, Severity.ofJson s.toJson = .ok s) ∧
    (∀ t : Tag, Tag.ofJson t.toJson = .ok t) ∧
    (∀ s : Scope, Scope.ofJson s.toJson = .ok s) ∧
    (∀ r : Remediation, Remediation.ofJson r.toJson = .ok r) ∧
    (∀ p : Position, p.Fits → ReadsBack Position.ofJson p.toJson p) ∧
    (∀ r : Range, r.Fits → ReadsBack Range.ofJson r.toJson r) ∧
    (∀ l : Location, l.Fits → ReadsBack Location.ofJson l.toJson l) ∧
    (∀ m : Metadata, ReadsBack Metadata.ofJson m.toJson m) ∧
    (∀ f : Finding, f.Fits → ReadsBack Finding.ofJson f.toJson f) ∧
    (∀ s : Stats, s.Fits → ReadsBack Stats.ofJson s.toJson s) ∧
    (∀ r : Report, r.Fits → ReadsBack Report.ofJson r.toJson r) ∧
    (∀ c : Config, c.Fits → ReadsBack Config.ofJson c.toJson c) := by
  refine ⟨Keyword.ofJson_toJson, Kind.ofJson_toJson, Json.text_str, Severity.ofJson_toJson,
    Tag.ofJson_toJson, Scope.ofJson_toJson, Remediation.ofJson_toJson, ?_, ?_, ?_, ?_, ?_, ?_, ?_, ?_⟩
  · exact fun p hp => .of_restates fun _ h => Position.ofJson_of_restates hp h
  · exact fun r hr => .of_restates fun _ h => Range.ofJson_of_restates hr h
  · exact fun l hl => .of_restates fun _ h => Location.ofJson_of_restates hl h
  · exact fun m => .of_restates fun _ h => Metadata.ofJson_of_restates h
  · exact fun f hf => .of_restates fun _ h => Finding.ofJson_of_restates hf h
  · exact fun s hs => .of_restates fun _ h => Stats.ofJson_of_restates hs h
  · exact fun r hr => .of_restates fun _ h => Report.ofJson_of_restates hr h
  · exact fun c hc => .of_restates fun _ h => Config.ofJson_of_restates hc h

/-- A finding with a custom tag that has the name of a fixed one. -/
def oddFinding : Finding where
  detectorId := "in-nvarchar2-usage"
  severity := .major
  message := "said \"so\""
  primaryLocation := ⟨"pkg.pks", ⟨⟨1, 19, 18⟩, ⟨1, 28, 27⟩⟩⟩
  tags := [.performance, .custom "bug"]
  remediation := ⟨4294967295, by decide⟩

/-- A report on that finding, with a count that has all 64 bits. -/
def oddReport : Report where
  findings := [oddFinding]
  stats :=
    { detectorsRun := 1, filesAnalyzed := 1, nodesVisited := 18446744073709551615
      findingsBySeverity := .ofList [("MAJOR", 1)]
      findingsByDetector := .ofList [("in-nvarchar2-usage", 1)] }
  errors := [""]

theorem oddFinding_fits : oddFinding.Fits :=
  ⟨⟨by decide, by decide, by decide⟩, by decide, by decide, by decide⟩

theorem oddReport_fits : oddReport.Fits := by
  constructor
  · intro f hf
    obtain rfl := List.mem_singleton.1 hf
    exact oddFinding_fits
  · refine ⟨by decide, by decide, by decide, by decide, ?_, ?_⟩ <;>
    · unfold NameMap.Fits
      decide +kernel

theorem odd_values_read_back :
    ReadsBack Position.ofJson oddFinding.primaryLocation.range.start.toJson
      oddFinding.primaryLocation.range.start ∧
    ReadsBack Range.ofJson oddFinding.primaryLocation.range.toJson oddFinding.primaryLocation.range ∧
    ReadsBack Location.ofJson oddFinding.primaryLocation.toJson oddFinding.primaryLocation ∧
    ReadsBack Finding.ofJson oddFinding.toJson oddFinding ∧
    ReadsBack Stats.ofJson oddReport.stats.toJson oddReport.stats ∧
    ReadsBack Report.ofJson oddReport.toJson oddReport ∧
    ReadsBack Config.ofJson ({} : Config).toJson {} := by
  obtain ⟨-, -, -, -, -, -, -, hposition, hrange, hlocation, -, hfinding, hstats, hreport, hconfig⟩ :=
    json_forms_read_back
  exact ⟨hposition _ oddFinding_fits.1, hrange _ oddFinding_fits, hlocation _ oddFinding_fits,
    hfinding _ oddFinding_fits, hstats _ oddReport_fits.2, hreport _ oddReport_fits,
    hconfig {} (by unfold Config.Fits; decide)⟩

end PlsqlAudit
