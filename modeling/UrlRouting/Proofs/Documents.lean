import Mathlib.Data.List.Nodup
import UrlRouting.Toml.Document

/-! # Names in a document

A document may write a table in pieces: under several headers, by dotted names, as an inline table,
as one more table of an array. Whatever it does, no table of it has two fields of one name, however
deep the table lies. So what a document says under a name is one value, and looking a name up is
the same as finding it among the fields.

* `Value.Proper`, `Fields.Proper`: no table has two fields of one name, in a finished value and
  under construction.
* `Value.Proper.lookup_eq_some_iff`: what that says about looking a name up.
* `Fields.Proper.update`, `Fields.Proper.assign`: one change keeps the names apart, however far down
  it is made.
* `Reader.Yields`: what all that a reader reads has in common; `yields_value` for values.
* `Draft.proper_of_add?`, `proper_of_parse?`: so do one statement and a whole document. -/

namespace UrlRouting.Toml

/-- Where names differ, looking one up finds the field that has it. -/
theorem lookup_eq_some_iff_mem {α : Type} {fields : List (String × α)} {name : String} {a : α}
    (nodup : (fields.map Prod.fst).Nodup) : fields.lookup name = some a ↔ (name, a) ∈ fields := by
  rw [List.lookup_eq_some_iff]
  constructor
  · rintro ⟨before, after, rfl, -⟩
    simp
  · intro h
    obtain ⟨before, after, rfl⟩ := List.append_of_mem h
    rw [List.map_append, List.map_cons, List.nodup_append] at nodup
    refine ⟨before, after, rfl, fun field hf => ?_⟩
    have hne : field.1 ≠ name :=
      nodup.2.2 field.1 (List.mem_map_of_mem hf) name List.mem_cons_self
    simpa using hne.symm

/-- What every step of a run that succeeds preserves, the whole run preserves. -/
theorem foldlM_preserves {σ τ : Type} {step : σ → τ → Option σ} {P : σ → Prop} {items : List τ}
    {s s' : σ} (hstep : ∀ s, ∀ item ∈ items, ∀ s', P s → step s item = some s' → P s') (h : P s)
    (hrun : items.foldlM step s = some s') : P s' := by
  induction items generalizing s with
  | nil => exact Option.some.inj hrun ▸ h
  | cons item items ih =>
    obtain ⟨next, hnext, hrest⟩ := Option.bind_eq_some_iff.mp hrun
    refine ih (fun s item hitem => hstep s item (List.mem_cons_of_mem _ hitem)) ?_ hrest
    exact hstep s item List.mem_cons_self next h hnext

/-! ### Finished values -/

/-- No table in the value has two fields of one name. -/
inductive Value.Proper : Value → Prop
  | text (s : String) : Proper (.text s)
  | number (n : Number) : Proper (.number n)
  | boolean (b : Bool) : Proper (.boolean b)
  | moment (m : Moment) : Proper (.moment m)
  | array {items : List Value} (items_proper : ∀ item ∈ items, Proper item) : Proper (.array items)
  | table {fields : List (String × Value)} (nodup : (fields.map Prod.fst).Nodup)
      (fields_proper : ∀ field ∈ fields, Proper field.2) : Proper (.table fields)

theorem Value.Proper.lookup_eq_some_iff {fields : List (String × Value)} {name : String}
    {value : Value} (h : (Value.table fields).Proper) :
    fields.lookup name = some value ↔ (name, value) ∈ fields := by
  cases h with
  | table nodup _ => exact lookup_eq_some_iff_mem nodup

theorem Value.Proper.lookup_eq_none_iff {fields : List (String × Value)} {name : String}
    (h : (Value.table fields).Proper) :
    fields.lookup name = none ↔ ∀ value, (name, value) ∉ fields := by
  simp [Option.eq_none_iff_forall_ne_some, h.lookup_eq_some_iff]

theorem Value.Proper.of_mem {fields : List (String × Value)} {name : String} {value : Value}
    (h : (Value.table fields).Proper) (hmem : (name, value) ∈ fields) : value.Proper := by
  cases h with
  | table _ fields_proper => exact fields_proper (name, value) hmem

/-! ### Tables under construction -/

mutual

/-- No table in the node has two fields of one name. -/
inductive Node.Proper : Node → Prop
  | closed {value : Value} (proper : value.Proper) : Node.Proper (.closed value)
  | table {origin : Origin} {fields : List (String × Node)} (proper : Fields.Proper fields) :
      Node.Proper (.table origin fields)
  | elements {before : List (List (String × Node))} {last : List (String × Node)}
      (before_proper : ∀ fields ∈ before, Fields.Proper fields)
      (last_proper : Fields.Proper last) : Node.Proper (.elements before last)

/-- The fields have different names, and so have those of all tables in them. -/
inductive Fields.Proper : List (String × Node) → Prop
  | intro {fields : List (String × Node)} (nodup : (fields.map Prod.fst).Nodup)
      (nodes_proper : ∀ field ∈ fields, Node.Proper field.2) : Fields.Proper fields

end

namespace Fields

variable {fields fields' below below' : Fields} {node : Node} {name part : String}
  {path : List String} {value : Value}

theorem Proper.nodup : Fields.Proper fields → (fields.map Prod.fst).Nodup
  | .intro nodup _ => nodup

theorem Proper.nodes_proper : Fields.Proper fields → ∀ field ∈ fields, field.2.Proper
  | .intro _ nodes_proper => nodes_proper

theorem Proper.nil : Fields.Proper [] := .intro List.nodup_nil (by simp)

theorem Proper.of_find? (h : Fields.Proper fields) (hn : fields.find? name = some node) :
    node.Proper :=
  h.nodes_proper _ ((lookup_eq_some_iff_mem h.nodup).mp hn)

theorem find?_isSome : (fields.find? name).isSome ↔ name ∈ fields.map Prod.fst := by
  simp [find?, List.lookup_isSome_iff]

/-- A name is put at the end, unless it is there already. -/
theorem map_fst_put : (fields.put name node).map Prod.fst =
    if (fields.find? name).isSome then fields.map Prod.fst else fields.map Prod.fst ++ [name] := by
  unfold put
  split
  · rw [List.map_map]
    refine List.map_congr_left fun field _ => ?_
    by_cases hf : field.1 = name <;> simp [hf]
  · simp

theorem mem_put {field : String × Node} (h : field ∈ fields.put name node) :
    field ∈ fields ∨ field = (name, node) := by
  unfold put at h
  split at h
  · obtain ⟨old, hold, rfl⟩ := List.mem_map.mp h
    split
    · exact .inr rfl
    · exact .inl hold
  · simpa using h

theorem Proper.put (h : Fields.Proper fields) (hn : node.Proper) :
    Fields.Proper (fields.put name node) := by
  refine .intro ?_ fun field hf => ?_
  · rw [map_fst_put]
    split
    · exact h.nodup
    · next hnew =>
      rw [← List.concat_eq_append]
      exact List.Nodup.concat (mt find?_isSome.mpr hnew) h.nodup
  · rcases mem_put hf with hold | rfl
    · exact h.nodes_proper field hold
    · exact hn

/-! ### Changes at the end of a path -/

/-- A name leads to fields that are still open: those of a new table, of a table that is there, or
of the last table of an array. With other fields there, the node under the name is `rebuild` of
them. -/
inductive Opens : Option Node → Fields → (Fields → Node) → Prop
  | new (origin : Origin) : Opens none [] (.table origin)
  | table (origin : Origin) (below : Fields) :
      Opens (some (.table origin below)) below (.table origin)
  | last (before : List Fields) (below : Fields) :
      Opens (some (.elements before below)) below (.elements before)

/-- The fields with those that a name leads to changed by `f` and put back. -/
theorem Opens.exists_put {rebuild : Fields → Node} {f : Fields → Option Fields}
    (ho : Opens (fields.find? part) below rebuild)
    (h : (do return fields.put part (rebuild (← f below))) = some fields') :
    ∃ below below' rebuild, Opens (fields.find? part) below rebuild ∧ f below = some below' ∧
      fields' = fields.put part (rebuild below') := by
  obtain ⟨below', hbelow, hput⟩ := Option.bind_eq_some_iff.mp h
  exact ⟨below, below', rebuild, ho, hbelow, (Option.some.inj hput).symm⟩

/-- On the way along a path, the fields that a name leads to are changed and put back. -/
theorem exists_opens_of_update {change : Fields → Option Fields}
    (hu : fields.update change (part :: path) = some fields') :
    ∃ below below' rebuild, Opens (fields.find? part) below rebuild ∧
      update change path below = some below' ∧ fields' = fields.put part (rebuild below') := by
  rw [update] at hu
  split at hu
  · next hfind => exact Opens.exists_put (f := update change path) (hfind ▸ .new _) hu
  · cases hu
  · next hfind => exact Opens.exists_put (f := update change path) (hfind ▸ .table _ _) hu
  · next hfind => exact Opens.exists_put (f := update change path) (hfind ▸ .last _ _) hu

/-- So it is on the way of a dotted name, where not every table is open. -/
theorem exists_opens_of_assign (ha : fields.assign name value (part :: path) = some fields') :
    ∃ below below' rebuild, Opens (fields.find? part) below rebuild ∧
      assign name value path below = some below' ∧ fields' = fields.put part (rebuild below') := by
  rw [assign] at ha
  split at ha
  · next hfind => exact Opens.exists_put (f := assign name value path) (hfind ▸ .new _) ha
  · cases ha
  · cases ha
  · next hfind =>
    split at ha
    · cases ha
    · exact Opens.exists_put (f := assign name value path) (hfind ▸ .table _ _) ha
  · next hfind => exact Opens.exists_put (f := assign name value path) (hfind ▸ .table _ _) ha
  · next hfind =>
    split at ha
    · cases ha
    · exact Opens.exists_put (f := assign name value path) (hfind ▸ .last _ _) ha

theorem Opens.proper {rebuild : Fields → Node} (ho : Opens (fields.find? part) below rebuild)
    (h : Fields.Proper fields) :
    Fields.Proper below ∧ ∀ below', Fields.Proper below' → (rebuild below').Proper := by
  generalize hfind : fields.find? part = found at ho
  cases ho with
  | new origin => exact ⟨.nil, fun _ => .table⟩
  | table origin below =>
    cases h.of_find? hfind with
    | table hbelow => exact ⟨hbelow, fun _ => .table⟩
  | last before below =>
    cases h.of_find? hfind with
    | elements hbefore hbelow => exact ⟨hbelow, fun _ => .elements hbefore⟩

/-- A change that keeps the names of a table apart does so at the end of a path as well. -/
theorem Proper.update {change : Fields → Option Fields}
    (hchange : ∀ below below', Fields.Proper below → change below = some below' →
      Fields.Proper below')
    (h : Fields.Proper fields) (hu : fields.update change path = some fields') :
    Fields.Proper fields' := by
  induction path generalizing fields fields' with
  | nil => exact hchange fields fields' h hu
  | cons part path ih =>
    obtain ⟨below, below', rebuild, ho, hbelow, rfl⟩ := exists_opens_of_update hu
    have hp := ho.proper h
    exact h.put (hp.2 below' (ih hp.1 hbelow))

theorem Proper.assign (hv : value.Proper) (h : Fields.Proper fields)
    (ha : fields.assign name value path = some fields') : Fields.Proper fields' := by
  induction path generalizing fields fields' with
  | nil =>
    rw [Fields.assign] at ha
    split at ha
    · cases ha
    · cases ha
      exact h.put (.closed hv)
  | cons part path ih =>
    obtain ⟨below, below', rebuild, ho, hbelow, rfl⟩ := exists_opens_of_assign ha
    have hp := ho.proper h
    exact h.put (hp.2 below' (ih hp.1 hbelow))

theorem Proper.openTable {key : Key} (h : Fields.Proper fields)
    (ho : fields.openTable key = some fields') : Fields.Proper fields' := by
  refine h.update (fun below below' hbelow hchange => ?_) ho
  split at hchange
  · cases hchange
    exact hbelow.put (.table .nil)
  · next inner hfind =>
    cases hchange
    cases hbelow.of_find? hfind with
    | table hinner => exact hbelow.put (.table hinner)
  · cases hchange

theorem Proper.openElement {key : Key} (h : Fields.Proper fields)
    (ho : fields.openElement key = some fields') : Fields.Proper fields' := by
  refine h.update (fun below below' hbelow hchange => ?_) ho
  split at hchange
  · cases hchange
    exact hbelow.put (.elements (by simp) .nil)
  · next before last hfind =>
    cases hchange
    cases hbelow.of_find? hfind with
    | elements hbefore hlast =>
      refine hbelow.put (.elements (fun fields hf => ?_) .nil)
      rcases List.mem_append.mp hf with hf | hf
      · exact hbefore fields hf
      · rw [List.mem_singleton.mp hf]
        exact hlast
  · cases hchange

end Fields

/-! ### Closing -/

theorem closeFields_eq_map (fields : Fields) :
    closeFields fields = fields.map fun field => (field.1, field.2.close) := by
  induction fields with
  | nil => rfl
  | cons field fields ih => rw [closeFields, ih, List.map_cons]

theorem closeElements_eq_map (elements : List Fields) :
    closeElements elements = elements.map fun fields => .table (closeFields fields) := by
  induction elements with
  | nil => rfl
  | cons fields elements ih => rw [closeElements, ih, List.map_cons]

theorem map_fst_closeFields (fields : Fields) :
    (closeFields fields).map Prod.fst = fields.map Prod.fst := by
  rw [closeFields_eq_map, List.map_map]
  rfl

mutual

theorem Node.Proper.close : {node : Node} → node.Proper → node.close.Proper
  | _, .closed proper => by
    rw [Node.close]
    exact proper
  | _, .table proper => by
    rw [Node.close]
    exact proper.close
  | _, .elements before_proper last_proper => by
    rw [Node.close, closeElements_eq_map]
    refine .array fun item hitem => ?_
    rcases List.mem_append.mp hitem with hitem | hitem
    · obtain ⟨fields, hf, rfl⟩ := List.mem_map.mp hitem
      exact (before_proper fields hf).close
    · rw [List.mem_singleton.mp hitem]
      exact last_proper.close

/-- **Closing** keeps the names of all tables apart. -/
theorem Fields.Proper.close : {fields : Fields} → Fields.Proper fields →
    (Value.table (closeFields fields)).Proper
  | fields, .intro nodup nodes_proper => by
    refine .table (by rwa [map_fst_closeFields]) fun field hf => ?_
    rw [closeFields_eq_map] at hf
    obtain ⟨open_field, ho, rfl⟩ := List.mem_map.mp hf
    exact (nodes_proper open_field ho).close

end

/-! ### What readers read -/

namespace Reader

variable {α β : Type} {r : Reader α} {P Q : α → Prop}

/-- Whatever the reader takes off the front of a text has the property. -/
def Yields (r : Reader α) (P : α → Prop) : Prop := ∀ s a rest, r s = some (a, rest) → P a

theorem yields_true (r : Reader α) : r.Yields fun _ => True := fun _ _ _ _ => trivial

theorem Yields.pure {a : α} (h : P a) : Yields (Pure.pure a) P := by
  rintro s b rest hr
  cases hr
  exact h

theorem yields_failure : Yields failure P := by
  rintro s a rest hr
  cases hr

theorem Yields.bind {k : α → Reader β} {Q : β → Prop} (h : r.Yields P)
    (hk : ∀ a, P a → (k a).Yields Q) : (r >>= k).Yields Q := by
  rintro s b rest hr
  obtain ⟨⟨a, s'⟩, ha, hb⟩ := Option.bind_eq_some_iff.mp hr
  exact hk a (h s a s' ha) s' b rest hb

theorem Yields.map {f : α → β} {Q : β → Prop} (h : r.Yields P) (hf : ∀ a, P a → Q (f a)) :
    (f <$> r).Yields Q := by
  rintro s b rest hr
  obtain ⟨⟨a, s'⟩, ha, hb⟩ := Option.bind_eq_some_iff.mp hr
  have hb : f a = b := congrArg Prod.fst (Option.some.inj hb)
  exact hb ▸ hf a (h s a s' ha)

theorem Yields.orElse {r' : Reader α} (h : r.Yields P) (h' : r'.Yields P) :
    (r <|> r').Yields P := by
  intro s a rest hr
  have hr : (r s <|> r' s) = some (a, rest) := hr
  cases hs : r s with
  | none => exact h' s a rest (by simpa [hs] using hr)
  | some found => exact h s a rest (by simpa [hs] using hr)

theorem Yields.seqRight {r' : Reader β} (h : r.Yields P) : (r' *> r).Yields P :=
  (yields_true r').bind fun _ _ => h

theorem Yields.seqLeft {r' : Reader β} (h : r.Yields P) : (r <* r').Yields P :=
  h.bind fun _ ha => (yields_true r').bind fun _ _ => .pure ha

theorem Yields.optional (h : r.Yields P) : (optional r).Yields fun a? => ∀ a ∈ a?, P a :=
  (h.map fun a ha => by simpa using ha).orElse (.pure (by simp))

theorem Yields.manyUpTo (h : r.Yields P) (n : Nat) {found : List α} (hfound : ∀ a ∈ found, P a) :
    (manyUpTo r n found).Yields fun all => ∀ a ∈ all, P a := by
  induction n generalizing found with
  | zero => exact .pure (by simpa using hfound)
  | succ n ih =>
    intro s all rest hr
    simp only [Reader.manyUpTo] at hr
    split at hr
    · next a s' ha =>
      refine ih (fun b hb => ?_) s' all rest hr
      rcases List.mem_cons.mp hb with rfl | hb
      · exact h s b s' ha
      · exact hfound b hb
    · cases hr
      simpa using hfound

/-- Many of what a reader reads are each what it reads. -/
theorem Yields.many (h : r.Yields P) : (many r).Yields fun all => ∀ a ∈ all, P a := by
  intro s all rest hr
  rw [Reader.many] at hr
  split at hr
  · next a s' ha => exact h.manyUpTo _ (by simpa using h s a s' ha) s' all rest hr
  · cases hr
    simp

theorem Yields.sepBy1 {separator : Reader β} (h : r.Yields P) :
    (sepBy1 r separator).Yields fun all => ∀ a ∈ all, P a :=
  h.bind fun _ ha => h.seqRight.many.bind fun _ hrest =>
    .pure (List.forall_mem_cons.mpr ⟨ha, hrest⟩)

theorem Yields.sepBy {separator : Reader β} (h : r.Yields P) :
    (sepBy r separator).Yields fun all => ∀ a ∈ all, P a :=
  h.sepBy1.orElse (.pure (by simp))

end Reader

open Reader

/-! ### Values -/

theorem yields_atom : atom.Yields Value.Proper :=
  (((yields_true text).map fun s _ => .text s).orElse <|
    ((yields_true boolean).map fun b _ => .boolean b).orElse <|
    ((yields_true moment).map fun m _ => .moment m).orElse <|
    (yields_true number).map fun n _ => .number n)

section

variable {item : Reader Value}

theorem yields_array (h : item.Yields Value.Proper) : (array item).Yields Value.Proper := by
  refine (yields_true _).bind fun _ _ => h.seqRight.seqLeft.sepBy.bind fun items hitems => ?_
  have hclosing : Yields (do gap; char ']'; return Value.array items) Value.Proper :=
    (yields_true _).bind fun _ _ => (yields_true _).bind fun _ _ => .pure (.array hitems)
  split
  · exact hclosing
  · exact (yields_true _).bind fun _ _ => hclosing

theorem yields_assignment (h : item.Yields Value.Proper) :
    (assignment item).Yields fun field => field.2.Proper :=
  (yields_true _).bind fun _ _ => (yields_true _).bind fun _ _ => (yields_true _).bind fun _ _ =>
    h.bind fun _ hvalue => .pure hvalue

theorem yields_inlineTable (h : item.Yields Value.Proper) :
    (inlineTable item).Yields Value.Proper := by
  refine (yields_true _).bind fun _ _ => (yields_assignment h).seqLeft.sepBy.bind
    fun fields hfields => (yields_true _).bind fun _ _ => (yields_true _).bind fun _ _ => ?_
  dsimp only
  split
  · next table htable =>
    have hproper : Fields.Proper table :=
      foldlM_preserves (fun _ field hfield _ hdone => hdone.assign (hfields field hfield)) .nil htable
    exact .pure hproper.close
  · exact yields_failure

end

/-- **Values** are proper, however deep they nest. -/
theorem yields_value (depth : Nat) : (value depth).Yields Value.Proper := by
  induction depth with
  | zero => exact yields_atom
  | succ depth ih => exact yields_atom.orElse ((yields_array ih).orElse (yields_inlineTable ih))

/-! ### Statements -/

/-- The value that the statement gives a field, if it does, is proper. -/
def Statement.Proper : Statement → Prop
  | .assign _ value => value.Proper
  | _ => True

theorem yields_statement : statement.Yields Statement.Proper :=
  ((yields_true _).map fun _ _ => trivial).orElse <|
    ((yields_true _).map fun _ _ => trivial).orElse <|
    (yields_assignment (yields_value _)).map fun _ hvalue => hvalue

theorem yields_lines : lines.Yields fun all => ∀ line ∈ all, ∀ said ∈ line, said.Proper :=
  (yields_statement.optional.seqRight.seqLeft).many.seqLeft

/-- **One statement** keeps the names of all tables of a document apart. -/
theorem Draft.proper_of_add? {draft draft' : Draft} {said : Statement} (hs : said.Proper)
    (h : Fields.Proper draft.fields) (ha : draft.add? said = some draft') :
    Fields.Proper draft'.fields := by
  cases said with
  | table key =>
    obtain ⟨fields, hopen, hdraft⟩ := Option.bind_eq_some_iff.mp ha
    cases hdraft
    exact h.openTable hopen
  | element key =>
    obtain ⟨fields, hopen, hdraft⟩ := Option.bind_eq_some_iff.mp ha
    cases hdraft
    exact h.openElement hopen
  | assign key value =>
    obtain ⟨fields, hupdate, hdraft⟩ := Option.bind_eq_some_iff.mp ha
    cases hdraft
    exact h.update (fun _ _ hbelow => hbelow.assign hs) hupdate

/-- **Documents** are proper: none of their tables has two fields of one name. -/
theorem proper_of_parse? {source : String} {fields : List (String × Value)}
    (h : parse? source = some fields) : (Value.table fields).Proper := by
  obtain ⟨⟨all, rest⟩, hlines, h⟩ := Option.bind_eq_some_iff.mp h
  obtain ⟨draft, hdraft, h⟩ := Option.bind_eq_some_iff.mp h
  cases h
  have hsaid : ∀ said ∈ all.filterMap id, said.Proper := by
    intro said hs
    obtain ⟨line, hline, rfl⟩ := List.mem_filterMap.mp hs
    exact yields_lines _ all rest hlines _ hline said rfl
  have hproper : Fields.Proper draft.fields :=
    foldlM_preserves (P := fun draft => Fields.Proper draft.fields)
      (fun _ said hs _ hdone => Draft.proper_of_add? (hsaid said hs) hdone) .nil hdraft
  exact hproper.close

end UrlRouting.Toml
