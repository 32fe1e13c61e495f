import UrlRouting.Policy.Document
import UrlRouting.Proofs.Documents

/-! # Policies in documents, files, and values

Which policy a document, a file, or a value holds, said of what is in it and not of how it is read.

* `Policy.IsIn`: the policy that a value of a document is, by the fields of a table or the first
  two items of an array.
* `Policy.IsOf`: the policy of a document, which is in its field `router`.
* `Policy.ofSource_eq_ok_iff`, `Policy.ofSource_congr`: texts hold the policy of their document, and
  nothing else in it matters.
* `Policy.ofFile_of_ofSource`, `Policy.ofFile_eq_error_iff`: files hold the policy of their text, and
  what is wrong with a file that holds none.
* `Policy.Mirrors`, `Policy.ofValue?_eq_some_iff_of_mirrors`: values hold the policy of a table or an
  array that has the same booleans.
* `Policy.read_from_texts_files_and_values`: all of it. -/

namespace UrlRouting

namespace Policy

/-! ### Fields -/

section
variable {α β : Type} {bool? : α → Option Bool} {bool?' : β → Option Bool}

theorem ofFields?_eq_some_iff {passOver handOver : Option α} {policy : Policy} :
    ofFields? bool? passOver handOver = some policy ↔
      field? bool? false passOver = some policy.passOver ∧
        field? bool? true handOver = some policy.handOver := by
  obtain ⟨p, h⟩ := policy
  simp [ofFields?, Option.bind_eq_some_iff]

/-- Fields are set alike by items that are the same boolean, or no boolean both. -/
theorem field?_congr {default : Bool} {item : Option α} {item' : Option β}
    (h : Option.Rel (fun a b => bool? a = bool?' b) item item') :
    field? bool? default item = field? bool?' default item' := by
  cases h with
  | none => rfl
  | some hsame => exact hsame

theorem ofFields?_congr {passOver handOver : Option α} {passOver' handOver' : Option β}
    (hp : Option.Rel (fun a b => bool? a = bool?' b) passOver passOver')
    (hh : Option.Rel (fun a b => bool? a = bool?' b) handOver handOver') :
    ofFields? bool? passOver handOver = ofFields? bool?' passOver' handOver' := by
  rw [ofFields?, ofFields?, field?_congr hp, field?_congr hh]

end

/-! ### Documents -/

/-- A table gives a field the value `b`: it has a boolean of the name, or nothing of the name, and
the default is `b`. -/
def Gives (fields : List (String × Toml.Value)) (name : String) (default b : Bool) : Prop :=
  (name, .boolean b) ∈ fields ∨ (∀ value, (name, value) ∉ fields) ∧ b = default

/-- An array gives a field the value `b`, by a boolean at its place or by being too short. -/
def GivesAt (items : List Toml.Value) (place : Nat) (default b : Bool) : Prop :=
  items[place]? = some (.boolean b) ∨ items.length ≤ place ∧ b = default

/-- The policy that a value of a document is. A date or a time is read as a table without fields,
hence as the default policy. -/
inductive IsIn : Toml.Value → Policy → Prop
  | table {fields : List (String × Toml.Value)} {policy : Policy}
      (passOver : Gives fields "ignore_unmatched" false policy.passOver)
      (handOver : Gives fields "open_external_fallback" true policy.handOver) :
      IsIn (.table fields) policy
  | array {items : List Toml.Value} {policy : Policy}
      (passOver : GivesAt items 0 false policy.passOver)
      (handOver : GivesAt items 1 true policy.handOver) : IsIn (.array items) policy
  | moment (m : Toml.Moment) : IsIn (.moment m) ⟨false, true⟩

/-- The policy of a document: that in its field `router`, or the default one. -/
def IsOf (fields : List (String × Toml.Value)) (policy : Policy) : Prop :=
  (∃ value, ("router", value) ∈ fields ∧ IsIn value policy) ∨
    (∀ value, ("router", value) ∉ fields) ∧ policy = ⟨false, true⟩

theorem boolean?_eq_some_iff {value : Toml.Value} {b : Bool} :
    value.boolean? = some b ↔ value = .boolean b := by
  cases value <;> simp [Toml.Value.boolean?]

theorem field?_eq_some_iff {default b : Bool} {item : Option Toml.Value} :
    field? Toml.Value.boolean? default item = some b ↔
      item = some (.boolean b) ∨ item = none ∧ b = default := by
  cases item with
  | none => simp [field?, eq_comm]
  | some item => simp [field?, boolean?_eq_some_iff]

theorem field?_lookup_eq_some_iff {fields : List (String × Toml.Value)}
    (h : (Toml.Value.table fields).Proper) {name : String} {default b : Bool} :
    field? Toml.Value.boolean? default (fields.lookup name) = some b ↔
      Gives fields name default b := by
  rw [field?_eq_some_iff, h.lookup_eq_some_iff, h.lookup_eq_none_iff, Gives]

theorem field?_getElem?_eq_some_iff {items : List Toml.Value} {place : Nat} {default b : Bool} :
    field? Toml.Value.boolean? default items[place]? = some b ↔ GivesAt items place default b := by
  rw [field?_eq_some_iff, List.getElem?_eq_none_iff, GivesAt]

/-- A value of a document is **the policy that is decoded from it**. -/
theorem decode?_shape_eq_some_iff {value : Toml.Value} (h : value.Proper) {policy : Policy} :
    decode? Toml.Value.boolean? value.shape = some policy ↔ IsIn value policy := by
  cases value with
  | table fields =>
    rw [Toml.Value.shape, decode?, ofFields?_eq_some_iff, field?_lookup_eq_some_iff h,
      field?_lookup_eq_some_iff h]
    refine ⟨fun ⟨hp, hh⟩ => .table hp hh, ?_⟩
    rintro (⟨hp, hh⟩ | _)
    exact ⟨hp, hh⟩
  | array items =>
    rw [Toml.Value.shape, decode?, ofFields?_eq_some_iff, field?_getElem?_eq_some_iff,
      field?_getElem?_eq_some_iff]
    refine ⟨fun ⟨hp, hh⟩ => .array hp hh, ?_⟩
    rintro (_ | ⟨hp, hh⟩)
    exact ⟨hp, hh⟩
  | moment m =>
    refine ⟨?_, ?_⟩
    · rintro ⟨⟩
      exact .moment m
    · rintro ⟨⟩
      rfl
  | text s | number n | boolean b =>
    refine ⟨?_, ?_⟩ <;> rintro ⟨⟩

theorem ofDocumentValue?_lookup_eq_some_iff {fields : List (String × Toml.Value)}
    (h : (Toml.Value.table fields).Proper) {policy : Policy} :
    ofDocumentValue? (fields.lookup "router") = some policy ↔ IsOf fields policy := by
  cases hfound : fields.lookup "router" with
  | none =>
    have habsent : ∀ value, ("router", value) ∉ fields := h.lookup_eq_none_iff.mp hfound
    constructor
    · rintro ⟨⟩
      exact .inr ⟨habsent, rfl⟩
    · rintro (⟨value, hmem, -⟩ | ⟨-, rfl⟩)
      · exact absurd hmem (habsent value)
      · rfl
  | some value =>
    have hmem : ("router", value) ∈ fields := h.lookup_eq_some_iff.mp hfound
    rw [ofDocumentValue?, decode?_shape_eq_some_iff (h.of_mem hmem)]
    constructor
    · intro hin
      exact .inl ⟨value, hmem, hin⟩
    · rintro (⟨other, hother, hin⟩ | ⟨habsent, -⟩)
      · have hsame : some value = some other := hfound.symm.trans (h.lookup_eq_some_iff.mpr hother)
        exact Option.some.inj hsame ▸ hin
      · exact absurd hmem (habsent value)

/-- A text holds a policy, or it is invalid. -/
theorem ofSource_eq_ok_or (source : String) :
    (∃ policy, ofSource source = .ok policy) ∨ ofSource source = .error .invalid := by
  unfold ofSource
  split
  · exact .inl ⟨_, rfl⟩
  · exact .inr rfl

theorem ofSource_eq_ok_iff_ofDocumentValue? {source : String} {policy : Policy} :
    ofSource source = .ok policy ↔ ∃ fields, Toml.parse? source = some fields ∧
      ofDocumentValue? (fields.lookup "router") = some policy := by
  have hread : ofSource source = .ok policy ↔
      (do ofDocumentValue? ((← Toml.parse? source).lookup "router")) = some policy := by
    unfold ofSource
    split
    · next hread => rw [hread, Except.ok.injEq, Option.some.injEq]
    · next hread => simp [hread]
  exact hread.trans Option.bind_eq_some_iff

/-- **Texts** hold the policy of the document that they are. -/
theorem ofSource_eq_ok_iff {source : String} {policy : Policy} :
    ofSource source = .ok policy ↔
      ∃ fields, Toml.parse? source = some fields ∧ IsOf fields policy := by
  rw [ofSource_eq_ok_iff_ofDocumentValue?]
  exact exists_congr fun fields => and_congr_right fun hparse =>
    ofDocumentValue?_lookup_eq_some_iff (Toml.proper_of_parse? hparse)

/-- A document with something under `router` holds the policy that this is. -/
theorem ofSource_eq_ok_iff_of_mem {source : String} {fields : List (String × Toml.Value)}
    {router : Toml.Value} {policy : Policy} (hparse : Toml.parse? source = some fields)
    (hrouter : ("router", router) ∈ fields) :
    ofSource source = .ok policy ↔ ofDocumentValue? (some router) = some policy := by
  have hlookup : fields.lookup "router" = some router :=
    (Toml.proper_of_parse? hparse).lookup_eq_some_iff.mpr hrouter
  simp [ofSource_eq_ok_iff_ofDocumentValue?, hparse, hlookup]

/-- A text without a policy is invalid. -/
theorem ofSource_eq_error_iff {source : String} {error : PolicyError} :
    ofSource source = .error error ↔
      (∀ policy, ofSource source ≠ .ok policy) ∧ error = .invalid := by
  rcases ofSource_eq_ok_or source with ⟨policy, h⟩ | h
  · simp [h]
  · simp [h, eq_comm]

theorem isOf_congr {fields fields' : List (String × Toml.Value)}
    (h : ∀ value, ("router", value) ∈ fields ↔ ("router", value) ∈ fields') {policy : Policy} :
    IsOf fields policy ↔ IsOf fields' policy := by
  simp [IsOf, h]

/-- **Nothing else in a document matters**: two documents with one value under `router`, or none
both, are read alike. -/
theorem ofSource_congr {source source' : String} {fields fields' : List (String × Toml.Value)}
    (hparse : Toml.parse? source = some fields) (hparse' : Toml.parse? source' = some fields')
    (h : ∀ value, ("router", value) ∈ fields ↔ ("router", value) ∈ fields') :
    ofSource source = ofSource source' := by
  have hok : ∀ policy, ofSource source = .ok policy ↔ ofSource source' = .ok policy := by
    intro policy
    simp [ofSource_eq_ok_iff, hparse, hparse', isOf_congr h]
  rcases ofSource_eq_ok_or source' with ⟨policy, h'⟩ | h'
  · rw [h', hok policy, h']
  · rw [h', ofSource_eq_error_iff]
    exact ⟨fun policy hp => by simp [(hok policy).mp hp] at h', rfl⟩

end Policy

/-! ### Files -/

/-- A path leads to a text when it leads to a file with the octets of the text. -/
theorem Resource.text?_eq_some_iff {resource : Resource} {source : String} :
    resource.text? = some source ↔ resource = .file source.toUTF8 := by
  cases resource with
  | absent | directory => simp [Resource.text?]
  | file contents =>
    rw [Resource.text?, String.fromUTF8?, Resource.file.injEq]
    constructor
    · intro h
      split at h
      · cases h
        rfl
      · cases h
    · rintro rfl
      exact dif_pos source.isValidUTF8

/-- A path leads to no text when it leads nowhere, to a directory, or to a file in which no text is
written. -/
def Resource.IsTextless (resource : Resource) : Prop :=
  resource = .absent ∨ resource = .directory ∨
    ∃ contents, resource = .file contents ∧ ∀ source : String, contents ≠ source.toUTF8

theorem Resource.text?_eq_none_iff {resource : Resource} :
    resource.text? = none ↔ resource.IsTextless := by
  have hsome : resource.text? = none ↔ ∀ source : String, resource ≠ .file source.toUTF8 := by
    simp [Option.eq_none_iff_forall_ne_some, text?_eq_some_iff]
  rw [hsome]
  cases resource <;> simp [IsTextless]

namespace Policy

variable {path : String} {resource : Resource} {source : String} {policy : Policy}

theorem ofFile_of_text? (h : resource.text? = some source) :
    ofFile path resource = (ofSource source).mapError fun _ => .unparsable path := by
  rw [ofFile, h]

theorem ofFile_of_textless (h : resource.text? = none) :
    ofFile path resource = .error (.unreadable path) := by
  rw [ofFile, h]

/-- **Files** hold the policy of their text. -/
theorem ofFile_of_ofSource (h : ofSource source = .ok policy) :
    ofFile path (.file source.toUTF8) = .ok policy := by
  rw [ofFile_of_text? (Resource.text?_eq_some_iff.mpr rfl), h]
  rfl

theorem ofFile_of_forall_ne (h : ∀ policy, ofSource source ≠ .ok policy) :
    ofFile path (.file source.toUTF8) = .error (.unparsable path) := by
  rw [ofFile_of_text? (Resource.text?_eq_some_iff.mpr rfl), ofSource_eq_error_iff.mpr ⟨h, rfl⟩]
  rfl

/-- **Files without a policy** have a text without one, or no text. -/
theorem ofFile_eq_error_iff {error : PolicyError} :
    ofFile path resource = .error error ↔
      (∃ source : String, resource = .file source.toUTF8 ∧ (∀ policy, ofSource source ≠ .ok policy) ∧
        error = .unparsable path) ∨
      resource.IsTextless ∧ error = .unreadable path := by
  constructor
  · intro h
    cases htext : resource.text? with
    | none =>
      rw [ofFile_of_textless htext] at h
      cases h
      exact .inr ⟨Resource.text?_eq_none_iff.mp htext, rfl⟩
    | some source =>
      obtain rfl := Resource.text?_eq_some_iff.mp htext
      rcases ofSource_eq_ok_or source with ⟨policy, hok⟩ | herror
      · rw [ofFile_of_ofSource hok] at h
        cases h
      · have hnone := (ofSource_eq_error_iff.mp herror).1
        rw [ofFile_of_forall_ne hnone] at h
        cases h
        exact .inl ⟨source, rfl, hnone, rfl⟩
  · rintro (⟨source, rfl, hnone, rfl⟩ | ⟨htextless, rfl⟩)
    · exact ofFile_of_forall_ne hnone
    · exact ofFile_of_textless (Resource.text?_eq_none_iff.mpr htextless)

theorem mapError_chain_eq_error_iff {result : Except PolicyError Policy} {chain : List String} :
    result.mapError PolicyError.chain = .error chain ↔
      ∃ error, result = .error error ∧ error.chain = chain := by
  cases result <;> simp [Except.mapError]

theorem mapError_chain_ofFile_unparsable_iff :
    (ofFile path resource).mapError PolicyError.chain =
        .error ["failed to parse " ++ path, "invalid router configuration"] ↔
      ∃ source : String, resource = .file source.toUTF8 ∧
        ∀ policy, ofSource source ≠ .ok policy := by
  simp only [mapError_chain_eq_error_iff, ofFile_eq_error_iff]
  constructor
  · rintro ⟨_, ⟨source, hfile, hnone, -⟩ | ⟨-, rfl⟩, hchain⟩
    · exact ⟨source, hfile, hnone⟩
    · simp [PolicyError.chain] at hchain
  · rintro ⟨source, hfile, hnone⟩
    exact ⟨.unparsable path, .inl ⟨source, hfile, hnone, rfl⟩, rfl⟩

theorem mapError_chain_ofFile_unreadable_iff :
    (ofFile path resource).mapError PolicyError.chain = .error ["failed to read " ++ path] ↔
      resource.IsTextless := by
  simp only [mapError_chain_eq_error_iff, ofFile_eq_error_iff]
  constructor
  · rintro ⟨_, ⟨source, -, -, rfl⟩ | ⟨htextless, -⟩, hchain⟩
    · simp [PolicyError.chain] at hchain
    · exact htextless
  · intro htextless
    exact ⟨.unreadable path, .inr ⟨htextless, rfl⟩, rfl⟩

/-! ### Values -/

/-- A value has the booleans of a value of a document: an object those of a table under the same
names, an array those of an array at the same places. What is no boolean in the one is none in the
other. -/
inductive Mirrors : Value → Toml.Value → Prop
  | object {members : List (String × Value)} {fields : List (String × Toml.Value)}
      (same : ∀ name, Option.Rel (fun a b => a.bool? = b.boolean?) (members.lookup name)
        (fields.lookup name)) : Mirrors (.object members) (.table fields)
  | array {items : List Value} {items' : List Toml.Value}
      (same : List.Forall₂ (fun a b => a.bool? = b.boolean?) items items') :
      Mirrors (.array items) (.array items')

theorem rel_getElem? {α β : Type} {r : α → β → Prop} {items : List α} {items' : List β}
    (h : List.Forall₂ r items items') (place : Nat) : Option.Rel r items[place]? items'[place]? := by
  induction h generalizing place with
  | nil => exact .none
  | cons hfirst _ ih =>
    cases place with
    | zero => exact .some hfirst
    | succ place => exact ih place

/-- **Values** are read as the tables and arrays that they mirror, but for arrays with more items
than fields, which are refused. -/
theorem ofValue?_eq_some_iff_of_mirrors {value : Value} {router : Toml.Value}
    (h : Mirrors value router) :
    ofValue? value = some policy ↔ ofDocumentValue? (some router) = some policy ∧
      ∀ items, value = .array items → items.length ≤ 2 := by
  cases h with
  | object same =>
    have hread : ofValue? (.object _) = ofDocumentValue? (some (.table _)) :=
      ofFields?_congr (same "ignore_unmatched") (same "open_external_fallback")
    simp [hread]
  | @array items items' same =>
    by_cases hlength : items.length ≤ 2
    · have hread : ofValue? (.array items) = ofDocumentValue? (some (.array items')) := by
        rw [ofValue?, if_pos hlength]
        exact ofFields?_congr (rel_getElem? same 0) (rel_getElem? same 1)
      simp [hread, hlength]
    · rw [ofValue?, if_neg hlength]
      simp [decode?, hlength]

theorem ofValue?_eq_none {value : Value} (hobject : ∀ members, value ≠ .object members)
    (harray : ∀ items, value ≠ .array items) : ofValue? value = none := by
  cases value with
  | object members => exact absurd rfl (hobject members)
  | array items => exact absurd rfl (harray items)
  | null | bool | int | decimal | string => rfl

/-! ### All of them -/

/-- **Where policies come from.** A text holds the policy of the document that it is, and is invalid
without one; nothing but the value under `router` matters. A file holds the policy of its text, and
the error says whether the text or the file is at fault. An object or array holds the policy of a
table or array under `router` that has the same booleans, unless it is an array with more than two
items; no other value holds a policy. -/
theorem read_from_texts_files_and_values (path : String) :
    -- texts
    (∀ source policy, ofSource source = .ok policy ↔
      ∃ fields, Toml.parse? source = some fields ∧ IsOf fields policy) ∧
    (∀ source, (∀ policy, ofSource source ≠ .ok policy) →
      (ofSource source).mapError PolicyError.chain = .error ["invalid router configuration"]) ∧
    (∀ source source' fields fields', Toml.parse? source = some fields →
      Toml.parse? source' = some fields' →
      (∀ value, ("router", value) ∈ fields ↔ ("router", value) ∈ fields') →
      ofSource source = ofSource source') ∧
    -- files
    (∀ source policy, ofSource source = .ok policy →
      ofFile path (.file source.toUTF8) = .ok policy) ∧
    (∀ resource, (ofFile path resource).mapError PolicyError.chain =
        .error ["failed to parse " ++ path, "invalid router configuration"] ↔
      ∃ source : String, resource = .file source.toUTF8 ∧ ∀ policy, ofSource source ≠ .ok policy) ∧
    (∀ resource, (ofFile path resource).mapError PolicyError.chain =
        .error ["failed to read " ++ path] ↔ resource.IsTextless) ∧
    -- values
    (∀ value router source fields policy, Mirrors value router →
      Toml.parse? source = some fields → ("router", router) ∈ fields →
      (ofValue? value = some policy ↔ ofSource source = .ok policy ∧
        ∀ items, value = .array items → items.length ≤ 2)) ∧
    (∀ value, (∀ members, value ≠ .object members) → (∀ items, value ≠ .array items) →
      ofValue? value = none) := by
  refine ⟨fun _ _ => ofSource_eq_ok_iff, fun source hnone => ?_,
    fun _ _ _ _ hparse hparse' hsame => ofSource_congr hparse hparse' hsame,
    fun _ _ hok => ofFile_of_ofSource hok, fun _ => mapError_chain_ofFile_unparsable_iff,
    fun _ => mapError_chain_ofFile_unreadable_iff, ?_, fun _ => ofValue?_eq_none⟩
  · have hinvalid : ofSource source = .error .invalid := ofSource_eq_error_iff.mpr ⟨hnone, rfl⟩
    rw [hinvalid]
    rfl
  · intro value router source fields policy hmirrors hparse hrouter
    rw [ofSource_eq_ok_iff_of_mem hparse hrouter]
    exact ofValue?_eq_some_iff_of_mirrors hmirrors

/-- A day under `router` is none of the values that a policy is written as, and is read as the
default policy. -/
theorem ofSource_day : Toml.parse? "router = 1979-05-27" =
      some [("router", .moment (.date ⟨1979, 5, 27⟩))] ∧
    ofSource "router = 1979-05-27" = .ok ⟨false, true⟩ :=
  ⟨by decide +kernel, by decide +kernel⟩

/-- The same policy in a document with another key, in the file of that array alone, and in a value;
a number and a null hold none. -/
theorem read_quiet_policy :
    ofSource "title = 'shop'\nrouter = [true, false]" = .ok ⟨true, false⟩ ∧
      ofFile "shop.toml" (.file "router = [true, false]".toUTF8) = .ok ⟨true, false⟩ ∧
      (ofSource "router = 1").mapError PolicyError.chain =
        .error ["invalid router configuration"] ∧
      ofValue? (.array [.bool true, .bool false]) = some ⟨true, false⟩ ∧
      ofValue? .null = none := by
  obtain ⟨htext, hinvalid, hsame, hfile, -, -, hvalue, hother⟩ :=
    read_from_texts_files_and_values "shop.toml"
  have hparse : Toml.parse? "router = [true, false]" =
      some [("router", .array [.boolean true, .boolean false])] := by decide +kernel
  have hparse' : Toml.parse? "title = 'shop'\nrouter = [true, false]" =
      some [("title", .text "shop"), ("router", .array [.boolean true, .boolean false])] := by
    decide +kernel
  have hbare : ofSource "router = [true, false]" = .ok ⟨true, false⟩ :=
    (htext _ _).mpr ⟨_, hparse, .inl ⟨_, List.mem_singleton_self _, .array (.inl rfl) (.inl rfl)⟩⟩
  have hnumber : ofSource "router = 1" = .error .invalid := by decide +kernel
  refine ⟨?_, hfile _ _ hbare, hinvalid _ (by simp [hnumber]), ?_, hother _ (by simp) (by simp)⟩
  · exact (hsame _ _ _ _ hparse' hparse (by simp)).trans hbare
  · refine (hvalue _ _ _ _ _ (.array ?_) hparse (List.mem_singleton_self _)).mpr ⟨hbare, by simp⟩
    exact .cons rfl (.cons rfl .nil)

end Policy

end UrlRouting
