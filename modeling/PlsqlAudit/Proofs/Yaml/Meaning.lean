import PlsqlAudit.Proofs.Data.NameMap
import PlsqlAudit.Yaml.Decode
import PlsqlAudit.Yaml.Value

/-!
# What located values denote, and what is read from them

A located value has marks, styles and anchors; the value that it denotes does without them.

* `Node.denotes` — a located value denotes a value: scalars denote what they stand for, collections hold
  what their members denote. An alias denotes nothing by itself.
* `textAs_of_denotes`, `truth_of_denotes`, `word_of_denotes`, `optional_of_denotes`,
  `choice_of_denotes` — what the readers of scalars make of it.
* `list_of_denotes`, `nameMap_of_tells` — collections are read if their members are.
-/

namespace PlsqlAudit.Yaml

/-! ## What is denoted -/

/-- Whether a plain scalar with this text stands for the text itself. -/
def plainText (text : String) : Bool := resolve text matches .text _

/-- Whether a scalar denotes a value. Without a tag, a plain scalar denotes what its text stands for, and
any other the text; a local tag makes it a text with that tag. -/
def scalarDenotes (tag : Option NodeTag) (style : Style) (text : String) : Value → Bool
  | .null => tag = none && style = .plain && (text.isEmpty || readsNull text)
  | .bool b => tag = none && style = .plain && readsBool? text = some b
  | .nat n => tag = none && style = .plain && readsNat? text = some n
  | .text s => tag = none && text = s && (style ≠ .plain || plainText text)
  | .tagged name s => tag = some (.custom (some name)) && text = s
  | .sequence _ | .mapping _ => false

mutual

/-- Whether a located value denotes a value. -/
def Node.denotes : Node → Value → Bool
  | .scalar h style text, v => scalarDenotes h.tag style text v
  | .sequence h items, .sequence vs => h.tag = none && itemsDenote items vs
  | .mapping h entries, .mapping fields => h.tag = none && entriesDenote entries fields
  | _, _ => false

/-- The same for the items of a sequence, one by one. -/
def itemsDenote : List Node → List Value → Bool
  | [], [] => true
  | n :: items, v :: vs => n.denotes v && itemsDenote items vs
  | _, _ => false

/-- The same for the entries of a mapping, whose keys are texts. -/
def entriesDenote : List (Node × Node) → List (String × Value) → Bool
  | [], [] => true
  | (key, n) :: entries, (name, v) :: fields =>
    key.denotes (.text name) && n.denotes v && entriesDenote entries fields
  | _, _ => false

end

variable {n : Node} {v : Value} {path : Path}

/-- What denotes a scalar is a scalar. -/
theorem exists_scalar (h : n.denotes v = true) (hseq : ∀ vs, v ≠ .sequence vs)
    (hmap : ∀ fields, v ≠ .mapping fields) :
    ∃ header style text, n = .scalar header style text ∧
      scalarDenotes header.tag style text v = true := by
  cases n with
  | scalar header style text => exact ⟨header, style, text, rfl, h⟩
  | sequence header items =>
    cases v with
    | sequence vs => exact absurd rfl (hseq vs)
    | _ => simp [Node.denotes] at h
  | mapping header entries =>
    cases v with
    | mapping fields => exact absurd rfl (hmap fields)
    | _ => simp [Node.denotes] at h
  | reference mark number => cases v <;> simp [Node.denotes] at h

theorem exists_text {s : String} (h : n.denotes (.text s) = true) :
    ∃ header style, n = .scalar header style s ∧ header.tag = none ∧
      (style = .plain → plainText s = true) := by
  obtain ⟨header, style, text, rfl, hdenotes⟩ := exists_scalar h nofun nofun
  simp only [scalarDenotes, Bool.and_eq_true, decide_eq_true_eq, Bool.or_eq_true] at hdenotes
  obtain ⟨⟨htag, rfl⟩, hplain⟩ := hdenotes
  exact ⟨header, style, rfl, htag, fun hstyle => hplain.resolve_left (· hstyle)⟩

theorem exists_tagged {name s : String} (h : n.denotes (.tagged name s) = true) :
    ∃ header style, n = .scalar header style s ∧ header.tag = some (.custom (some name)) := by
  obtain ⟨header, style, text, rfl, hdenotes⟩ := exists_scalar h nofun nofun
  simp only [scalarDenotes, Bool.and_eq_true, decide_eq_true_eq] at hdenotes
  obtain ⟨htag, rfl⟩ := hdenotes
  exact ⟨header, style, rfl, htag⟩

theorem exists_sequence {vs : List Value} (h : n.denotes (.sequence vs) = true) :
    ∃ header items, n = .sequence header items ∧ itemsDenote items vs = true := by
  cases n with
  | sequence header items =>
    simp only [Node.denotes, Bool.and_eq_true] at h
    exact ⟨header, items, rfl, h.2⟩
  | _ => simp [Node.denotes, scalarDenotes] at h

theorem exists_mapping {fields : List (String × Value)} (h : n.denotes (.mapping fields) = true) :
    ∃ header entries, n = .mapping header entries ∧ entriesDenote entries fields = true := by
  cases n with
  | mapping header entries =>
    simp only [Node.denotes, Bool.and_eq_true] at h
    exact ⟨header, entries, rfl, h.2⟩
  | _ => simp [Node.denotes, scalarDenotes] at h

/-! ## Scalars -/

theorem textAs_of_denotes {s : String} (expected : String) (h : n.denotes (.text s) = true) :
    textAs expected path n = pure s := by
  obtain ⟨header, style, rfl, -, -⟩ := exists_text h
  rfl

theorem text_of_denotes {s : String} (h : n.denotes (.text s) = true) : text path n = pure s :=
  textAs_of_denotes _ h

theorem truth_of_denotes {b : Bool} (h : n.denotes (.bool b) = true) : truth path n = pure b := by
  obtain ⟨header, style, text, rfl, hdenotes⟩ := exists_scalar h nofun nofun
  simp only [scalarDenotes, Bool.and_eq_true, decide_eq_true_eq] at hdenotes
  obtain ⟨⟨-, rfl⟩, hbool⟩ := hdenotes
  simp [truth, follow, readsAs, hbool]

theorem word_of_denotes {k : Nat} (h : n.denotes (.nat k) = true) (hk : k < Number.wordLimit) :
    word path n = pure k := by
  obtain ⟨header, style, text, rfl, hdenotes⟩ := exists_scalar h nofun nofun
  simp only [scalarDenotes, Bool.and_eq_true, decide_eq_true_eq] at hdenotes
  obtain ⟨⟨-, rfl⟩, hnat⟩ := hdenotes
  simp [word, follow, readsAs, hnat, hk]

theorem optional_of_null {α : Type} {read : Read α} (h : n.denotes .null = true) :
    optional read path n = pure none := by
  obtain ⟨header, style, text, rfl, hdenotes⟩ := exists_scalar h nofun nofun
  simp only [scalarDenotes, Bool.and_eq_true, decide_eq_true_eq] at hdenotes
  obtain ⟨⟨htag, rfl⟩, hnull⟩ := hdenotes
  simp [optional, follow, isNothing, htag, hnull]

theorem not_nothing_of_plainText {s : String} (h : plainText s = true) :
    (s.isEmpty || readsNull s) = false := by
  cases hnothing : (s.isEmpty || readsNull s) with
  | false => rfl
  | true =>
    have hresolve : resolve s = .nothing := by rw [resolve, if_pos hnothing]
    simp [plainText, hresolve] at h

/-- A text stands for something, so what is read from it is there. -/
theorem optional_of_text {α : Type} {read : Read α} {s : String} {a : α}
    (h : n.denotes (.text s) = true) (hread : read path n = pure a) :
    optional read path n = pure (some a) := by
  obtain ⟨header, style, rfl, htag, hplain⟩ := exists_text h
  have hthere : isNothing header.tag style s = pure false := by
    rw [htag]
    cases style with
    | plain => rw [isNothing, not_nothing_of_plainText (hplain rfl)]
    | _ => rfl
  simp [optional, follow, hthere, hread]

/-- What may be missing is read as missing from nothing, and otherwise from its text. -/
theorem optional_of_denotes {α : Type} {read : Read α} {write : α → String} {o : Option α}
    (h : n.denotes ((o.map fun a => Value.text (write a)).getD .null) = true)
    (hread : ∀ a, n.denotes (.text (write a)) = true → read path n = pure a) :
    optional read path n = pure o := by
  cases o with
  | none => exact optional_of_null h
  | some a => exact optional_of_text h (hread a h)

/-! ## Values with names -/

/-- A scalar without a tag gives its text as the name. -/
theorem variant_untagged {header : Header} {style : Style} {s : String} (htag : header.tag = none) :
    variant path (.scalar header style s) = pure (s, false) := by
  simp [variant, Node.tagName?, Node.tag, htag]

/-- A scalar with a local tag gives the name of the tag. -/
theorem variant_tagged {header : Header} {style : Style} {name s : String}
    (htag : header.tag = some (.custom (some name))) :
    variant path (.scalar header style s) = pure (name, true) := by
  simp [variant, Node.tagName?, Node.tag, htag]

/-- A value that is nothing but its name is read from that name. -/
theorem choice_of_denotes {α : Type} {known : List String} {ofName? : String → Option α} {s : String}
    {a : α} (h : n.denotes (.text s) = true) (hname : ofName? s = some a) :
    choice known ofName? path n = pure a := by
  obtain ⟨header, style, rfl, htag, -⟩ := exists_text h
  simp [choice, named, variant_untagged htag, hname]

/-! ## Collections -/

theorem placed_pure {α : Type} (a : α) : placed path n (pure a) = pure a := rfl

theorem mapM_items {α : Type} {read : Read α} {write : α → Value} {items : List Node} {xs : List α}
    (hdenote : itemsDenote items (xs.map write) = true)
    (hread : ∀ x ∈ xs, ∀ n path, n.denotes (write x) = true → read path n = pure x) (path : Path)
    (start : Nat) :
    (items.zipIdx start).mapM (fun e => read (.index e.2 :: path) e.1) = pure xs := by
  induction items generalizing xs start with
  | nil =>
    cases xs with
    | nil => rfl
    | cons x xs => simp [itemsDenote] at hdenote
  | cons item items ih =>
    cases xs with
    | nil => simp [itemsDenote] at hdenote
    | cons x xs =>
      simp only [List.map_cons, itemsDenote, Bool.and_eq_true] at hdenote
      have hitem := hread x List.mem_cons_self item (.index start :: path) hdenote.1
      have hitems := ih hdenote.2 (fun y hy => hread y (List.mem_cons_of_mem x hy)) (start + 1)
      simp [List.zipIdx_cons, hitem, hitems]

/-- A sequence is read if its items are. -/
theorem list_of_denotes {α : Type} {read : Read α} {write : α → Value} {xs : List α}
    (h : n.denotes (.sequence (xs.map write)) = true)
    (hread : ∀ x ∈ xs, ∀ n path, n.denotes (write x) = true → read path n = pure x) :
    list read path n = pure xs := by
  obtain ⟨header, items, rfl, hdenote⟩ := exists_sequence h
  have hitems := mapM_items hdenote hread path 0
  calc list read path (.sequence header items)
      = placed path (.sequence header items)
          (items.zipIdx.mapM fun e => read (.index e.2 :: path) e.1) := rfl
    _ = pure xs := by rw [hitems, placed_pure]

/-- The entries of a mapping are read one by one: the key as a text, the value as `read` says. -/
theorem mapM_entries {α : Type} {read : Read α} {tells : α → Node → Prop}
    {entries : List (Node × Node)} {es : List (String × α)}
    (htells : List.Forall₂ (fun e entry => entry.1.denotes (.text e.1) = true ∧ tells e.2 entry.2)
      es entries)
    (hread : ∀ e ∈ es, ∀ n path, tells e.2 n → read path n = pure e.2) (path : Path) :
    entries.mapM (fun e => do
      let name ← text path e.1
      return (name, ← read (.ofKey e.1 name :: path) e.2)) = pure es := by
  induction htells with
  | nil => rfl
  | @cons e entry es entries hhead _ ih =>
    have hname : text path entry.1 = pure e.1 := text_of_denotes hhead.1
    have hentry := hread e List.mem_cons_self entry.2 (.ofKey entry.1 e.1 :: path) hhead.2
    have hentries := ih fun d hd => hread d (List.mem_cons_of_mem e hd)
    rw [List.mapM_cons, hentries]
    simp only [hname, hentry, pure_bind]

/-- A mapping is read as a map if its values are, in whatever order its entries come. -/
theorem nameMap_of_tells {α : Type} {read : Read α} {tells : α → Node → Prop} {header : Header}
    {entries : List (Node × Node)} {es : List (String × α)} {m : NameMap α}
    (hperm : es.Perm m.entries)
    (htells : List.Forall₂ (fun e entry => entry.1.denotes (.text e.1) = true ∧ tells e.2 entry.2)
      es entries)
    (hread : ∀ e ∈ es, ∀ n path, tells e.2 n → read path n = pure e.2) :
    nameMap read path (.mapping header entries) = pure m := by
  have hentries := mapM_entries htells hread path
  calc nameMap read path (.mapping header entries)
      = (do
          let pairs ← placed path (.mapping header entries) (entries.mapM fun e => do
            let name ← text path e.1
            return (name, ← read (.ofKey e.1 name :: path) e.2))
          return NameMap.ofList pairs) := rfl
    _ = pure m := by
        rw [hentries, placed_pure, pure_bind, NameMap.ofList_of_perm hperm]

/-- Entries that denote fields do so one by one. -/
theorem forall₂_of_entriesDenote {entries : List (Node × Node)} {fields : List (String × Value)}
    (h : entriesDenote entries fields = true) :
    List.Forall₂ (fun f entry => entry.1.denotes (.text f.1) = true ∧ entry.2.denotes f.2 = true)
      fields entries := by
  induction entries generalizing fields with
  | nil =>
    cases fields with
    | nil => exact .nil
    | cons f fields => simp [entriesDenote] at h
  | cons entry entries ih =>
    cases fields with
    | nil => simp [entriesDenote] at h
    | cons f fields =>
      simp only [entriesDenote, Bool.and_eq_true] at h
      exact .cons h.1 (ih h.2)

end PlsqlAudit.Yaml
