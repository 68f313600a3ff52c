import Mathlib.Data.List.Nodup
import PlsqlAudit.Proofs.Yaml.Meaning

/-!
# Mappings that leave out defaults

A structure with defaults may be told by a mapping that leaves out fields which have their default, and
that has fields which the structure does not know.

* `FieldSpec` — a field of a structure: its name, when two structures agree in it, and the located
  values that tell it.
* `Abridged`, `Tells` — a mapping tells a structure, up to left-out defaults and unknown fields.
* `Takes`, `Reads` — what a reader of fields has to do for one field, and for all of them.
* `record_of_tells` — then the structure is read from every mapping that tells it.
-/

namespace PlsqlAudit.Yaml

variable {σ : Type}

/-- A field of the structure `σ`. -/
structure FieldSpec (σ : Type) where
  name : String
  /-- The two structures have the same in this field. -/
  agrees : σ → σ → Prop
  /-- The located value tells what the structure has in this field. -/
  tells : σ → Node → Prop

/-- The field that holds what `get` looks up, told as `tells` says. -/
def FieldSpec.of {α : Type} (name : String) (get : σ → α) (tells : α → Node → Prop) : FieldSpec σ where
  name := name
  agrees s t := get s = get t
  tells s n := tells (get s) n

section Of

variable {α : Type} (name : String) (get : σ → α) (tells : α → Node → Prop)

@[simp] theorem FieldSpec.of_name : (FieldSpec.of name get tells).name = name := rfl

@[simp] theorem FieldSpec.of_agrees (s t : σ) :
    (FieldSpec.of name get tells).agrees s t ↔ get s = get t := .rfl

end Of

/-- The entries of a mapping tell the fields of `c` in order. A field may be left out if `c` has its
default there, and entries of names that are not known may stand anywhere, with any value. -/
inductive Abridged (defaults : σ) (known : List (FieldSpec σ)) (c : σ) :
    List (FieldSpec σ) → List (Node × Node) → Prop where
  | nil : Abridged defaults known c [] []
  | given {f : FieldSpec σ} {key value : Node} {todo : List (FieldSpec σ)}
      {entries : List (Node × Node)} :
      key.denotes (.text f.name) = true → f.tells c value → Abridged defaults known c todo entries →
      Abridged defaults known c (f :: todo) ((key, value) :: entries)
  | omitted {f : FieldSpec σ} {todo : List (FieldSpec σ)} {entries : List (Node × Node)} :
      f.agrees defaults c → Abridged defaults known c todo entries →
      Abridged defaults known c (f :: todo) entries
  | unknown {header : Header} {style : Style} {name : String} {value : Node}
      {todo : List (FieldSpec σ)} {entries : List (Node × Node)} :
      name ∉ known.map (·.name) → Abridged defaults known c todo entries →
      Abridged defaults known c todo ((.scalar header style name, value) :: entries)

/-- The value is a mapping that tells the fields of `c`, up to left-out defaults and unknown ones. -/
def Tells (defaults : σ) (known : List (FieldSpec σ)) (c : σ) (n : Node) : Prop :=
  ∃ header entries, n = .mapping header entries ∧ Abridged defaults known c known entries

section OfDenotes

variable {defaults c : σ} {known : List (FieldSpec σ)}

/-- Entries that denote a value for every field, in order, leave out nothing. -/
theorem Abridged.of_entriesDenote {todo : List (FieldSpec σ)} {written : List (String × Value)}
    {entries : List (Node × Node)} (hdenote : entriesDenote entries written = true)
    (hfields : List.Forall₂ (fun f w => f.name = w.1 ∧ ∀ n : Node, n.denotes w.2 = true → f.tells c n)
      todo written) :
    Abridged defaults known c todo entries := by
  induction hfields generalizing entries with
  | nil =>
    cases forall₂_of_entriesDenote hdenote
    exact .nil
  | @cons f w todo written hf _ ih =>
    cases entries with
    | nil => simp [entriesDenote] at hdenote
    | cons entry entries =>
      simp only [entriesDenote, Bool.and_eq_true] at hdenote
      obtain ⟨⟨hkey, hvalue⟩, hrest⟩ := hdenote
      exact .given (hf.1 ▸ hkey) (hf.2 entry.2 hvalue) (ih hrest)

/-- What denotes a value for every field tells the structure. -/
theorem Tells.of_denotes {written : List (String × Value)} {n : Node}
    (hn : n.denotes (.mapping written) = true)
    (hfields : List.Forall₂ (fun f w => f.name = w.1 ∧ ∀ n : Node, n.denotes w.2 = true → f.tells c n)
      known written) :
    Tells defaults known c n := by
  obtain ⟨header, entries, rfl, hdenote⟩ := exists_mapping hn
  exact ⟨header, entries, rfl, .of_entriesDenote hdenote hfields⟩

end OfDenotes

/-- From a value that tells field `f` of `c`, the reader takes that field over and leaves the other
fields as they are. -/
def Takes (field? : String → Option (σ → Read σ)) (known : List (FieldSpec σ)) (c : σ)
    (f : FieldSpec σ) : Prop :=
  ∃ read, field? f.name = some read ∧ ∀ n s path, f.tells c n →
    ∃ t, read s path n = pure t ∧ f.agrees t c ∧
      ∀ g ∈ known, g.name ≠ f.name → g.agrees s c → g.agrees t c

/-- A reader that sets a field to what `read` gives takes that field over. -/
theorem Takes.of_set {α : Type} {field? : String → Option (σ → Read σ)} {known : List (FieldSpec σ)}
    {c : σ} {name : String} {get : σ → α} {tells : α → Node → Prop} {read : Read α} (set : σ → α → σ)
    (hfield : field? name = some fun s path n => do return set s (← read path n))
    (hread : ∀ n path, tells (get c) n → read path n = pure (get c))
    (hset : ∀ s a, get (set s a) = a)
    (hkeeps : ∀ s a, ∀ g ∈ known, g.name ≠ name → g.agrees s c → g.agrees (set s a) c) :
    Takes field? known c (.of name get tells) := by
  refine ⟨_, hfield, fun n s path htells => ⟨set s (get c), ?_, hset s (get c), hkeeps s (get c)⟩⟩
  rw [hread n path htells, pure_bind]

/-- The reader knows these fields and no others, and takes each of them over. -/
structure Reads (field? : String → Option (σ → Read σ)) (known : List (FieldSpec σ)) (c : σ) :
    Prop where
  names : (known.map (·.name)).Nodup
  unknown : ∀ name, name ∉ known.map (·.name) → field? name = none
  takes : ∀ f ∈ known, Takes field? known c f
  ext : ∀ s, (∀ f ∈ known, f.agrees s c) → s = c

namespace Reads

variable {field? : String → Option (σ → Read σ)} {known : List (FieldSpec σ)} {c : σ}

/-- Fields of one name are the same field. -/
theorem eq_of_name (h : Reads field? known c) {f g : FieldSpec σ} (hf : f ∈ known) (hg : g ∈ known)
    (hname : g.name = f.name) : g = f :=
  List.inj_on_of_nodup_map h.names hg hf hname

/-- Reading on from `s` gives `c`, if `s` already has every field of `c` that is not still to come or
that `c` has by default. -/
theorem fields_eq (h : Reads field? known c) {defaults s : σ} {todo : List (FieldSpec σ)}
    {entries : List (Node × Node)} {seen : List String} {path : Path}
    (habridged : Abridged defaults known c todo entries)
    (hknown : ∀ f ∈ todo, f ∈ known) (hnodup : (todo.map (·.name)).Nodup)
    (hseen : ∀ f ∈ todo, f.name ∉ seen)
    (hs : ∀ g ∈ known, (g.name ∈ todo.map (·.name) → g.agrees defaults c) → g.agrees s c) :
    fields field? path seen s entries = pure c := by
  -- Along the entries; what is still to come shrinks, and what is read or omitted agrees with `c`.
  induction habridged generalizing seen s with
  | nil =>
    have heq : s = c := h.ext s fun g hg => hs g hg (by simp)
    rw [fields, heq]
  | @given f key value todo entries hkey htells _ ih =>
    obtain ⟨hf, htodo⟩ := List.forall_mem_cons.1 hknown
    obtain ⟨hfresh, hrest⟩ := List.nodup_cons.1 hnodup
    obtain ⟨hunseen, hunseens⟩ := List.forall_mem_cons.1 hseen
    obtain ⟨read, hfield, htakes⟩ := h.takes f hf
    obtain ⟨t, hread, ht, hkeeps⟩ := htakes value s (.ofKey key f.name :: path) htells
    have hnext : fields field? path (f.name :: seen) t entries = pure c := by
      refine ih htodo hrest ?_ ?_
      · intro g hg hmem
        rcases List.mem_cons.1 hmem with hname | hmem
        · exact hfresh (List.mem_map.2 ⟨g, hg, hname⟩)
        · exact hunseens g hg hmem
      · intro g hg hdefault
        by_cases hname : g.name = f.name
        · exact h.eq_of_name hf hg hname ▸ ht
        · refine hkeeps g hg hname (hs g hg fun hmem => hdefault ?_)
          exact (List.mem_cons.1 hmem).resolve_left hname
    rw [fields, textAs_of_denotes _ hkey, pure_bind]
    simp only [hfield, hunseen, if_false, hread, pure_bind, hnext]
  | @omitted f todo entries hdefault _ ih =>
    obtain ⟨hf, htodo⟩ := List.forall_mem_cons.1 hknown
    refine ih htodo (List.nodup_cons.1 hnodup).2 (List.forall_mem_cons.1 hseen).2 ?_
    intro g hg hlater
    refine hs g hg fun hmem => ?_
    rcases List.mem_cons.1 hmem with hname | hmem
    · exact h.eq_of_name hf hg hname ▸ hdefault
    · exact hlater hmem
  | @unknown header style name value todo entries hname _ ih =>
    have hkey : textAs "field identifier" path (.scalar header style name) = pure name := rfl
    rw [fields, hkey, pure_bind]
    simp only [h.unknown name hname]
    exact ih hknown hnodup hseen hs

/-- **A structure is read from every mapping that tells it**, whatever defaults it leaves out and
whatever unknown fields it has. -/
theorem record_of_tells (h : Reads field? known c) {name : String} {defaults : σ} {n : Node}
    {path : Path} (htells : Tells defaults known c n) :
    record name defaults field? path n = pure c := by
  obtain ⟨header, entries, rfl, habridged⟩ := htells
  have hfields : fields field? path [] defaults entries = pure c :=
    h.fields_eq habridged (fun _ hf => hf) h.names (by simp)
      fun g hg hdefault => hdefault (List.mem_map_of_mem hg)
  calc record name defaults field? path (.mapping header entries)
      = placed path (.mapping header entries) (fields field? path [] defaults entries) := rfl
    _ = pure c := by rw [hfields, placed_pure]

end Reads

end PlsqlAudit.Yaml
