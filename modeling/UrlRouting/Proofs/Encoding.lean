import Mathlib.Data.List.Forall2
import UrlRouting.Proofs.Requests

/-! # Encoded queries

The many ways to write a list of names and values as a query, and that reading any of them gives
back the list.

* `Percent.IsEscape`: an octet as a percent sign and two hexadecimal digits, each in either case.
* `Query.Writes`: a text as it may be written, character by character: as itself, as the escapes of
  its octets, or, for a blank, as a plus sign.
* `Query.Encodes`: a query that has a list of names and values, with empty items anywhere.
* `Request.pairs_of_encodes`: the names and values of a URL with such a query. -/

namespace UrlRouting.Url

/-! ### Escapes -/

namespace Percent

/-- A hexadecimal digit, in either case. -/
def IsDigit (n : ℕ) (c : Char) : Prop := c = n.digitChar ∨ c = n.digitChar.toUpper

instance (n : ℕ) (c : Char) : Decidable (IsDigit n c) := inferInstanceAs (Decidable (_ ∨ _))

/-- A percent sign and the two digits of an octet. -/
def IsEscape (octet : UInt8) (text : List Char) : Prop :=
  ∃ high low, text = ['%', high, low] ∧ IsDigit (octet.toNat / 16) high ∧
    IsDigit (octet.toNat % 16) low

theorem hexDigit?_of_isDigit {n : ℕ} (hn : n < 16) {c : Char} (h : IsDigit n c) :
    ∃ b, String.utf8EncodeChar c = [b] ∧ hexDigit? b = some (UInt8.ofNat n) := by
  have hall : ∀ n < 16,
      (String.utf8EncodeChar n.digitChar).map hexDigit? = [some (UInt8.ofNat n)] ∧
      (String.utf8EncodeChar n.digitChar.toUpper).map hexDigit? = [some (UInt8.ofNat n)] := by
    decide
  obtain ⟨hlower, hupper⟩ := hall n hn
  rcases h with rfl | rfl
  · simpa [List.map_eq_cons_iff] using hlower
  · simpa [List.map_eq_cons_iff] using hupper

theorem escape?_of_digits {octet b c : UInt8}
    (hb : hexDigit? b = some (UInt8.ofNat (octet.toNat / 16)))
    (hc : hexDigit? c = some (UInt8.ofNat (octet.toNat % 16))) :
    escape? 0x25 b c = some octet := by
  have hlt := octet.toNat_lt
  have hsum : UInt8.ofNat (octet.toNat / 16) * 16 + UInt8.ofNat (octet.toNat % 16) = octet := by
    rw [← UInt8.toNat_inj]
    simp
    omega
  simp [escape?, hb, hc, hsum]

/-- An octet other than a percent sign is kept. -/
theorem decode_cons_of_ne {octet : UInt8} (h : octet ≠ 0x25) (rest : List UInt8) :
    decode (octet :: rest) = octet :: decode rest := by
  rcases rest with _ | ⟨b, _ | ⟨c, rest⟩⟩
  · rfl
  · rfl
  · rw [decode, escape?, if_neg h]

theorem decode_append_of_not_mem {octets : List UInt8} (h : 0x25 ∉ octets) (rest : List UInt8) :
    decode (octets ++ rest) = octets ++ decode rest := by
  induction octets with
  | nil => rfl
  | cons octet octets ih =>
    rw [List.mem_cons, not_or] at h
    rw [List.cons_append, decode_cons_of_ne (Ne.symm h.1), ih h.2, List.cons_append]

/-- **An escape is read as its octet.** -/
theorem decode_escape {octet : UInt8} {text : List Char} (h : IsEscape octet text)
    (rest : List UInt8) :
    decode (text.flatMap String.utf8EncodeChar ++ rest) = octet :: decode rest := by
  obtain ⟨high, low, rfl, hhigh, hlow⟩ := h
  have hlt := octet.toNat_lt
  obtain ⟨b, hb, hb'⟩ := hexDigit?_of_isDigit (by omega) hhigh
  obtain ⟨c, hc, hc'⟩ := hexDigit?_of_isDigit (by omega) hlow
  have hpercent : String.utf8EncodeChar '%' = [0x25] := by decide
  have hoctets : ['%', high, low].flatMap String.utf8EncodeChar ++ rest =
      0x25 :: b :: c :: rest := by
    simp [hpercent, hb, hc]
  rw [hoctets, decode, escape?_of_digits hb' hc']

theorem decode_escapes {octets : List UInt8} {texts : List (List Char)}
    (h : List.Forall₂ IsEscape octets texts) (rest : List UInt8) :
    decode (texts.flatten.flatMap String.utf8EncodeChar ++ rest) = octets ++ decode rest := by
  induction h with
  | nil => rfl
  | cons hescape _ ih =>
    rw [List.flatten_cons, List.flatMap_append, List.append_assoc, decode_escape hescape, ih,
      List.cons_append]

/-- No separator is in an escape. -/
theorem IsEscape.not_mem {octet : UInt8} {text : List Char} (h : IsEscape octet text) {c : Char}
    (hc : c ∈ text) : c ∉ ['+', '&', '=', '#'] := by
  obtain ⟨high, low, rfl, hhigh, hlow⟩ := h
  have hlt := octet.toNat_lt
  have hall : ∀ n < 16, n.digitChar ∉ ['+', '&', '=', '#'] ∧
      n.digitChar.toUpper ∉ ['+', '&', '=', '#'] := by decide
  have hdigit : ∀ {n : ℕ} {digit : Char}, n < 16 → IsDigit n digit →
      digit ∉ ['+', '&', '=', '#'] := by
    rintro n digit hn (rfl | rfl)
    · exact (hall n hn).1
    · exact (hall n hn).2
  simp only [List.mem_cons, List.not_mem_nil, or_false] at hc
  rcases hc with rfl | rfl | rfl
  · decide
  · exact hdigit (Nat.div_lt_of_lt_mul hlt) hhigh
  · exact hdigit (Nat.mod_lt _ (by decide)) hlow

theorem not_mem_of_mem_escapes {octets : List UInt8} {texts : List (List Char)}
    (h : List.Forall₂ IsEscape octets texts) {c : Char} (hc : c ∈ texts.flatten) :
    c ∉ ['+', '&', '=', '#'] := by
  induction h with
  | nil => simp at hc
  | cons hescape _ ih =>
    rw [List.flatten_cons, List.mem_append] at hc
    rcases hc with hc | hc
    · exact hescape.not_mem hc
    · exact ih hc

/-- Only a percent sign has the octet of a percent sign. -/
theorem not_mem_utf8EncodeChar {c : Char} (h : c ≠ '%') : 0x25 ∉ String.utf8EncodeChar c := by
  have hval : c.toNat ≠ 37 := fun hc => h (Char.toNat_inj.mp hc)
  intro hm
  have hm' := List.mem_map_of_mem (f := UInt8.toNat) hm
  -- Above the ASCII range every octet is at least 128.
  simp only [String.utf8EncodeChar, Char.toNat_val] at hm'
  split_ifs at hm' <;> simp at hm' <;> omega

end Percent

/-! ### Texts -/

namespace Query

/-- **The ways to write a character**, where `plain` says which characters stand for themselves. -/
inductive WritesChar (plain : Char → Prop) : Char → List Char → Prop where
  | itself {c : Char} (h : plain c) : WritesChar plain c [c]
  | plus : WritesChar plain ' ' ['+']
  | escaped {c : Char} {texts : List (List Char)}
      (h : List.Forall₂ Percent.IsEscape (String.utf8EncodeChar c) texts) :
      WritesChar plain c texts.flatten

/-- The ways to write a text, character by character. -/
inductive Writes (plain : Char → Prop) : List Char → List Char → Prop where
  | nil : Writes plain [] []
  | cons {c : Char} {cs text rest : List Char} (hc : WritesChar plain c text)
      (hcs : Writes plain cs rest) : Writes plain (c :: cs) (text ++ rest)

/-- The characters that stand for themselves in a value. -/
def PlainInValue (c : Char) : Prop := c ∉ ['%', '+', '&', '#']

/-- The characters that stand for themselves in a name. -/
def PlainInName (c : Char) : Prop := PlainInValue c ∧ c ≠ '='

instance (c : Char) : Decidable (PlainInValue c) := inferInstanceAs (Decidable (c ∉ _))

instance (c : Char) : Decidable (PlainInName c) := inferInstanceAs (Decidable (_ ∧ _))

/-- The ways to write a name with its value; without a value, the equals sign can be left out. -/
inductive WritesPair : String × String → List Char → Prop where
  | both {name value : String} {front back : List Char}
      (hname : Writes PlainInName name.toList front)
      (hvalue : Writes PlainInValue value.toList back) :
      WritesPair (name, value) (front ++ '=' :: back)
  | alone {name : String} {text : List Char} (hname : Writes PlainInName name.toList text) :
      WritesPair (name, "") text

/-- The ways to write names with their values, an item for each, with empty items anywhere. -/
inductive WritesItems : List (String × String) → List (List Char) → Prop where
  | nil : WritesItems [] []
  | blank {pairs : List (String × String)} {items : List (List Char)}
      (hitems : WritesItems pairs items) : WritesItems pairs ([] :: items)
  | cons {pair : String × String} {item : List Char} {pairs : List (String × String)}
      {items : List (List Char)} (hpair : WritesPair pair item)
      (hitems : WritesItems pairs items) : WritesItems (pair :: pairs) (item :: items)

/-- **The queries that have a list of names and values**: items of it between ampersands. -/
def Encodes (query : String) (pairs : List (String × String)) : Prop :=
  ∃ items, WritesItems pairs items ∧ query.toList = ['&'].intercalate items

/-- A text with blanks for its plus signs. -/
def unplus (raw : List Char) : List Char := raw.map fun c => if c = '+' then ' ' else c

theorem unplus_of_not_mem {raw : List Char} (h : '+' ∉ raw) : unplus raw = raw := by
  induction raw with
  | nil => rfl
  | cons c raw ih =>
    rw [List.mem_cons, not_or] at h
    rw [unplus, List.map_cons, if_neg (Ne.symm h.1), ← unplus, ih h.2]

@[simp] theorem unplus_append (front back : List Char) :
    unplus (front ++ back) = unplus front ++ unplus back := List.map_append

theorem fromUTF8?_octets (cs : List Char) :
    String.fromUTF8? (octets cs).toByteArray = some (.ofList cs) := by
  have h : (octets cs).toByteArray.IsValidUTF8 := ByteArray.isValidUTF8_utf8Encode (l := cs)
  rw [String.fromUTF8?, dif_pos h]
  rfl

section
variable {plain : Char → Prop}

/-- **A written character is read as its octets.** -/
theorem decode_of_writesChar (hplain : ∀ c, plain c → c ∉ ['%', '+']) {c : Char}
    {text : List Char} (h : WritesChar plain c text) (rest : List UInt8) :
    Percent.decode (octets (unplus text) ++ rest) =
      String.utf8EncodeChar c ++ Percent.decode rest := by
  cases h with
  | itself hc =>
    have hne := hplain c hc
    simp only [List.mem_cons, not_or] at hne
    rw [unplus_of_not_mem (by simpa using Ne.symm hne.2.1), octets, List.flatMap_singleton]
    exact Percent.decode_append_of_not_mem (Percent.not_mem_utf8EncodeChar hne.1) rest
  | plus =>
    exact Percent.decode_append_of_not_mem (by decide) rest
  | escaped h =>
    rw [unplus_of_not_mem fun hplus => Percent.not_mem_of_mem_escapes h hplus (by simp)]
    exact Percent.decode_escapes h rest

/-- The octets of a text are read off any way to write it. -/
theorem decode_of_writes (hplain : ∀ c, plain c → c ∉ ['%', '+']) {cs raw : List Char}
    (h : Writes plain cs raw) : Percent.decode (octets (unplus raw)) = octets cs := by
  induction h with
  | nil => rfl
  | @cons c cs text rest hc _ ih =>
    rw [unplus_append, octets, List.flatMap_append, ← octets, ← octets,
      decode_of_writesChar hplain hc, ih, octets, octets, List.flatMap_cons]

/-- **A written text is read as it was meant.** -/
theorem component_of_writes (hplain : ∀ c, plain c → c ∉ ['%', '+']) {cs raw : List Char}
    (h : Writes plain cs raw) : component raw = .ofList cs := by
  have hdecode := decode_of_writes hplain h
  calc component raw
      = (String.fromUTF8? (Percent.decode (octets (unplus raw))).toByteArray).getD
          (.ofList (unplus raw)) := rfl
    _ = .ofList cs := by rw [hdecode, fromUTF8?_octets, Option.getD_some]

/-- No separator is in a written text, unless it stands for itself. -/
theorem not_mem_of_writes {mark : Char} (hmark : mark ∈ ['&', '=', '#']) (hplain : ¬ plain mark)
    {cs raw : List Char} (h : Writes plain cs raw) : mark ∉ raw := by
  induction h with
  | nil => exact List.not_mem_nil
  | @cons c cs text rest hc _ ih =>
    rw [List.mem_append, not_or]
    refine ⟨?_, ih⟩
    cases hc with
    | itself hc =>
      rw [List.mem_singleton]
      rintro rfl
      exact hplain hc
    | plus =>
      rw [List.mem_singleton]
      rintro rfl
      simp at hmark
    | escaped h =>
      exact fun hm => Percent.not_mem_of_mem_escapes h hm (List.mem_cons_of_mem _ hmark)

end

/-! ### Names and values -/

theorem component_of_writesName {name : String} {text : List Char}
    (h : Writes PlainInName name.toList text) : component text = name := by
  have hplain : ∀ c, PlainInName c → c ∉ ['%', '+'] := fun c hc hm =>
    hc.1 (List.mem_append_left ['&', '#'] hm)
  rw [component_of_writes hplain h, String.ofList_toList]

theorem component_of_writesValue {value : String} {text : List Char}
    (h : Writes PlainInValue value.toList text) : component text = value := by
  have hplain : ∀ c, PlainInValue c → c ∉ ['%', '+'] := fun c hc hm =>
    hc (List.mem_append_left ['&', '#'] hm)
  rw [component_of_writes hplain h, String.ofList_toList]

theorem equals_not_mem_of_writesName {cs text : List Char} (h : Writes PlainInName cs text) :
    '=' ∉ text :=
  not_mem_of_writes (by simp) (fun hplain => hplain.2 rfl) h

/-- **A written name and value are read as they were meant**, if there is a name. -/
theorem pair?_of_writesPair {pair : String × String} {item : List Char} (h : WritesPair pair item)
    (hne : pair.1 ≠ "") : pair? item = some pair := by
  cases h with
  | both hname hvalue =>
    rw [pair?, Text.cut_append_cons (equals_not_mem_of_writesName hname)]
    simp only [component_of_writesName hname, Option.getD_some, component_of_writesValue hvalue]
    exact if_neg hne
  | alone hname =>
    rw [pair?, Text.cut_of_not_mem (equals_not_mem_of_writesName hname)]
    simp only [component_of_writesName hname]
    exact if_neg hne

theorem not_mem_of_writesPair {pair : String × String} {item : List Char}
    (h : WritesPair pair item) : ∀ mark ∈ ['&', '#'], mark ∉ item := by
  intro mark hm
  have hinValue : ¬ PlainInValue mark := fun hplain => hplain (List.mem_append_right ['%', '+'] hm)
  have hinName : ¬ PlainInName mark := fun hplain => hinValue hplain.1
  have hequals : mark ≠ '=' := by rintro rfl; simp at hm
  have hmark : mark ∈ ['&', '=', '#'] := (by simp : ['&', '#'] ⊆ ['&', '=', '#']) hm
  cases h with
  | both hname hvalue =>
    rw [List.mem_append, List.mem_cons, not_or, not_or]
    exact ⟨not_mem_of_writes hmark hinName hname, hequals,
      not_mem_of_writes hmark hinValue hvalue⟩
  | alone hname => exact not_mem_of_writes hmark hinName hname

/-! ### Queries -/

theorem not_mem_of_writesItems {pairs : List (String × String)} {items : List (List Char)}
    (h : WritesItems pairs items) : ∀ mark ∈ ['&', '#'], ∀ item ∈ items, mark ∉ item := by
  intro mark hm
  induction h with
  | nil => simp
  | blank _ ih => exact List.forall_mem_cons.mpr ⟨List.not_mem_nil, ih⟩
  | cons hpair _ ih => exact List.forall_mem_cons.mpr ⟨not_mem_of_writesPair hpair mark hm, ih⟩

theorem filterMap_pair?_of_writesItems {pairs : List (String × String)} {items : List (List Char)}
    (h : WritesItems pairs items) (hne : ∀ pair ∈ pairs, pair.1 ≠ "") :
    items.filterMap pair? = pairs := by
  induction h with
  | nil => rfl
  | blank _ ih => rw [List.filterMap_cons, ih hne]; rfl
  | cons hpair _ ih =>
    rw [List.forall_mem_cons] at hne
    rw [List.filterMap_cons, pair?_of_writesPair hpair hne.1, ih hne.2]

theorem not_mem_intercalate {sep mark : Char} (hne : mark ≠ sep) {items : List (List Char)}
    (h : ∀ item ∈ items, mark ∉ item) : mark ∉ [sep].intercalate items := by
  induction items with
  | nil => simp
  | cons item items ih =>
    rw [List.forall_mem_cons] at h
    by_cases hi : items = []
    · subst hi; simpa using h.1
    · rw [List.intercalate_cons_of_ne_nil hi]
      simp [h.1, hne, ih h.2]

/-- No mark that ends a query is in it. -/
theorem Encodes.not_mem {query : String} {pairs : List (String × String)}
    (h : Encodes query pairs) : '#' ∉ query.toList := by
  obtain ⟨items, hitems, hquery⟩ := h
  rw [hquery]
  exact not_mem_intercalate (by decide) (not_mem_of_writesItems hitems '#' (by simp))

/-- **An encoded list is read as it was meant**, if it has no empty names. -/
theorem Encodes.pairs_eq {query : String} {pairs : List (String × String)}
    (h : Encodes query pairs) (hne : ∀ pair ∈ pairs, pair.1 ≠ "") :
    Query.pairs query = pairs := by
  obtain ⟨items, hitems, hquery⟩ := h
  have hread := filterMap_pair?_of_writesItems hitems hne
  by_cases hi : items = []
  · subst hi
    rw [Query.pairs, hquery, ← hread]
    rfl
  · rw [Query.pairs, hquery,
      List.splitOn_intercalate '&' (not_mem_of_writesItems hitems '&' (by simp)) hi, hread]

end Query

end UrlRouting.Url

namespace UrlRouting.Request

open Url

/-- **Reading a query undoes every encoding.** Whatever query has a list of names and values, none
of them without a name, a URL with this query has that list, in order, with any path in front and
any fragment behind. -/
theorem pairs_of_encodes {pairs : List (String × String)} (hne : ∀ pair ∈ pairs, pair.1 ≠ "")
    {query : String} (h : Query.Encodes query pairs) {path tail : String} (hpath : MarkFree path)
    (htail : IsFragment tail) : (ofUrl (path ++ "?" ++ query ++ tail)).pairs = pairs := by
  rw [ofUrl_query hpath h.not_mem htail]
  exact h.pairs_eq hne

/-- One character as itself and as escapes, a blank as a plus sign, an escaped equals sign in a
name, a name on its own, and empty items. -/
theorem pairs_of_mixed_query :
    let pairs := [("a=", "é é"), ("flag", "")]
    Query.Encodes "&a%3D=é+%C3%a9&&flag" pairs ∧
      (ofUrl "find/?&a%3D=é+%C3%a9&&flag#?x=1").pairs = pairs := by
  intro pairs
  have hequals : Query.WritesChar Query.PlainInName '=' "%3D".toList := by
    have h : List.Forall₂ Percent.IsEscape (String.utf8EncodeChar '=') ["%3D".toList] :=
      .cons ⟨'3', 'D', by decide, by decide, by decide⟩ .nil
    exact .escaped h
  have haccent : Query.WritesChar Query.PlainInValue 'é' "%C3%a9".toList := by
    have h : List.Forall₂ Percent.IsEscape (String.utf8EncodeChar 'é')
        ["%C3".toList, "%a9".toList] :=
      .cons ⟨'C', '3', by decide, by decide, by decide⟩
        (.cons ⟨'a', '9', by decide, by decide, by decide⟩ .nil)
    exact .escaped h
  have hname : Query.Writes Query.PlainInName "a=".toList "a%3D".toList :=
    .cons (.itself (by decide)) (.cons hequals .nil)
  have hvalue : Query.Writes Query.PlainInValue "é é".toList "é+%C3%a9".toList :=
    .cons (.itself (by decide)) (.cons .plus (.cons haccent .nil))
  have hflag : Query.Writes Query.PlainInName "flag".toList "flag".toList :=
    .cons (.itself (by decide)) (.cons (.itself (by decide))
      (.cons (.itself (by decide)) (.cons (.itself (by decide)) .nil)))
  have h : Query.Encodes "&a%3D=é+%C3%a9&&flag" pairs :=
    ⟨[[], "a%3D=é+%C3%a9".toList, [], "flag".toList],
      .blank (.cons (.both hname hvalue) (.blank (.cons (.alone hflag) .nil))), by decide⟩
  exact ⟨h, @pairs_of_encodes pairs (by decide) _ h "find/" "#?x=1" (by decide) (by decide)⟩

end UrlRouting.Request
