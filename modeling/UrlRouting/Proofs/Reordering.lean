import Mathlib.Logic.Equiv.Fin.Rotate
import UrlRouting.Proofs.Selection

/-! # Reordered routers

The first entry that fits a request is taken, so the order of the entries matters, but only between
entries that can fit the same request. Parts that fit a common segment are compatible, which can be
read off how they are written; entries conflict if they are of one kind and their templates are
compatible position by position.

* `Part.compatible_iff`: parts are compatible just if they fit a common segment.
* `IsReordering.find?_eq`: the first element that passes a test stays the first one, if the elements
  that pass it conflict pairwise.
* `Router.resolve_reordered`: a router resolves alike after a reordering that keeps the order of the
  conflicting entries. -/

namespace UrlRouting

/-! ### Reordered lists -/

/-- A renumbering that takes a list to another one and keeps the order of conflicting elements. -/
structure IsReordering {α : Type} (conflicts : α → α → Prop) {xs ys : List α}
    (place : Fin xs.length ≃ Fin ys.length) : Prop where
  get_place : ∀ i, ys.get (place i) = xs.get i
  place_lt : ∀ i j, i < j → conflicts (xs.get i) (xs.get j) → place i < place j

section
variable {α : Type} {conflicts : α → α → Prop} {xs ys : List α}
  {place : Fin xs.length ≃ Fin ys.length} (h : IsReordering conflicts place)
include h

theorem IsReordering.get_symm (k : Fin ys.length) : xs.get (place.symm k) = ys.get k := by
  rw [← h.get_place, place.apply_symm_apply]

/-- **The first element that passes a test** is the same after a reordering, if all that pass it
conflict. -/
theorem IsReordering.find?_eq {test : α → Bool}
    (htest : ∀ a b, test a = true → test b = true → conflicts a b) :
    ys.find? test = xs.find? test := by
  cases hfind : xs.find? test with
  | none =>
    rw [List.find?_eq_none] at hfind ⊢
    intro a ha
    obtain ⟨k, rfl⟩ := List.get_of_mem ha
    rw [← h.get_symm]
    exact hfind _ (List.get_mem _ _)
  | some a =>
    obtain ⟨hpass, i, hi, rfl, hfirst⟩ := List.find?_eq_some_iff_getElem.mp hfind
    have hget : ys.get (place ⟨i, hi⟩) = xs.get ⟨i, hi⟩ := h.get_place ⟨i, hi⟩
    refine List.find?_eq_some_iff_getElem.mpr
      ⟨hpass, place ⟨i, hi⟩, (place ⟨i, hi⟩).isLt, hget, fun k hk => ?_⟩
    rw [Bool.not_eq_true', Bool.eq_false_iff]
    intro hk'
    obtain ⟨j, hj⟩ := place.surjective ⟨k, hk.trans (place ⟨i, hi⟩).isLt⟩
    have hpass' : test (xs.get j) = true := by rw [← h.get_place, hj]; exact hk'
    -- The one at `j` has come to stand before the first one, but it conflicts with it.
    rcases lt_trichotomy (⟨i, hi⟩ : Fin xs.length) j with hlt | rfl | hgt
    · have hkeep := h.place_lt _ _ hlt (htest _ _ hpass hpass')
      rw [hj] at hkeep
      exact lt_asymm hk hkeep
    · rw [hj] at hk
      exact lt_irrefl k hk
    · have hmiss := hfirst j hgt
      rw [Bool.not_eq_true', Bool.eq_false_iff] at hmiss
      exact hmiss hpass'

end

/-! ### Conflicts -/

/-- Whether parts are compatible, as they are written. -/
def Part.Compatible : Part → Part → Prop
  | .literal a, .literal b => a = b
  | .literal text, .param name => name ≠ "" ∧ text ≠ ""
  | .param name, .literal text => name ≠ "" ∧ text ≠ ""
  | .param a, .param b => a ≠ "" ∧ b ≠ ""

instance Part.decidableCompatible : ∀ a b : Part, Decidable (a.Compatible b)
  | .literal a, .literal b => inferInstanceAs (Decidable (a = b))
  | .literal text, .param name => inferInstanceAs (Decidable (name ≠ "" ∧ text ≠ ""))
  | .param name, .literal text => inferInstanceAs (Decidable (name ≠ "" ∧ text ≠ ""))
  | .param a, .param b => inferInstanceAs (Decidable (a ≠ "" ∧ b ≠ ""))

/-- **Compatible parts** are those that fit a common segment. -/
theorem Part.compatible_iff {a b : Part} :
    a.Compatible b ↔ ∃ segment, a.fits segment = true ∧ b.fits segment = true := by
  cases a with
  | literal text =>
    cases b with
    | literal other =>
      simp only [Compatible, fits, beq_iff_eq]
      constructor
      · rintro rfl; exact ⟨text, rfl, rfl⟩
      · rintro ⟨segment, ht, ho⟩; exact ht.trans ho.symm
    | param name => simp [Compatible, fits]
  | param name =>
    cases b with
    | literal text => simp [Compatible, fits]
    | param other =>
      simp only [Compatible, fits, Bool.and_eq_true, bne_iff_ne]
      constructor
      · rintro ⟨hn, ho⟩; exact ⟨name, ⟨hn, hn⟩, ho, hn⟩
      · rintro ⟨segment, ⟨hn, -⟩, ho, -⟩; exact ⟨hn, ho⟩

/-- Parts that fit the same segments are compatible position by position, up to the end of the
shorter list. -/
theorem Part.compatible_of_fitAll : ∀ {ps qs : List Part} {segments : List String},
    ps.length ≤ segments.length → fitAll ps segments = true → fitAll qs segments = true →
      ∀ pair ∈ ps.zip qs, pair.1.Compatible pair.2
  | [], _, _, _, _, _ => by simp
  | _ :: _, [], _, _, _, _ => by simp
  | _ :: _, _ :: _, [], hlen, _, _ => by simp at hlen
  | p :: ps, q :: qs, segment :: segments, hlen, hp, hq => by
    rw [fitAll_cons, Bool.and_eq_true] at hp hq
    rw [List.zip_cons_cons, List.forall_mem_cons]
    exact ⟨compatible_iff.mpr ⟨segment, hp.1, hq.1⟩,
      compatible_of_fitAll (by simpa using hlen) hp.2 hq.2⟩

namespace Template

/-- Whether templates are compatible part for part. -/
def Clashes (a b : Template) : Prop := List.Forall₂ Part.Compatible a.parts b.parts

/-- Whether templates are compatible up to the end of the shorter one. -/
def ClashesAhead (a b : Template) : Prop :=
  ∀ pair ∈ a.parts.zip b.parts, pair.1.Compatible pair.2

instance (a b : Template) : Decidable (a.Clashes b) :=
  inferInstanceAs (Decidable (List.Forall₂ _ _ _))

instance (a b : Template) : Decidable (a.ClashesAhead b) :=
  inferInstanceAs (Decidable (∀ pair ∈ a.parts.zip b.parts, _))

variable {a b : Template} {segments : List String}

theorem clashes_of_fits (ha : a.fits segments = true) (hb : b.fits segments = true) :
    a.Clashes b := by
  obtain ⟨hla, hfa⟩ := fits_iff.mp ha
  obtain ⟨hlb, hfb⟩ := fits_iff.mp hb
  refine List.forall₂_iff_zip.mpr ⟨hla.symm.trans hlb, fun hm => ?_⟩
  exact Part.compatible_of_fitAll hla.ge hfa hfb _ hm

theorem clashesAhead_of_leads (ha : a.leads segments = true) (hb : b.leads segments = true) :
    a.ClashesAhead b := by
  obtain ⟨hla, hfa⟩ := leads_iff.mp ha
  obtain ⟨-, hfb⟩ := leads_iff.mp hb
  exact Part.compatible_of_fitAll hla.le hfa hfb

end Template

/-- Whether the order of two entries of a router can matter: both have handlers, and their templates
are compatible part for part, or both are mounts, and their templates are compatible up to the end
of the shorter one. -/
def Entry.Conflicts (a b : Route) : Prop :=
  match a.target, b.target with
  | .handler _, .handler _ => a.template.Clashes b.template
  | .mount _, .mount _ => a.template.ClashesAhead b.template
  | _, _ => False

instance (a b : Route) : Decidable (a.Conflicts b) := by
  unfold Entry.Conflicts
  split <;> infer_instance

theorem Entry.conflicts_of_fits {segments : List String} {a b : Route}
    (ha : a.leaf?.any (·.template.fits segments) = true)
    (hb : b.leaf?.any (·.template.fits segments) = true) : a.Conflicts b := by
  obtain ⟨s, _ | _, _⟩ := a
  · obtain ⟨t, _ | _, _⟩ := b
    · exact Template.clashes_of_fits (by simpa using ha) (by simpa using hb)
    · simp at hb
  · simp at ha

theorem Entry.conflicts_of_leads {segments : List String} {a b : Route}
    (ha : a.mount?.any (·.template.leads segments) = true)
    (hb : b.mount?.any (·.template.leads segments) = true) : a.Conflicts b := by
  obtain ⟨s, _ | _, _⟩ := a
  · simp at ha
  · obtain ⟨t, _ | _, _⟩ := b
    · simp at hb
    · exact Template.clashesAhead_of_leads (by simpa using ha) (by simpa using hb)

namespace Router

section
variable {router other : Router} {place : Fin router.routes.length ≃ Fin other.routes.length}
  (h : IsReordering Entry.Conflicts place) (segments : List String)
include h

theorem find?_leaves_reordered :
    other.leaves.find? (·.template.fits segments) =
      router.leaves.find? (·.template.fits segments) := by
  rw [leaves, leaves, List.find?_filterMap, List.find?_filterMap,
    h.find?_eq fun _ _ => Entry.conflicts_of_fits]

theorem find?_mounts_reordered :
    other.mounts.find? (·.template.leads segments) =
      router.mounts.find? (·.template.leads segments) := by
  rw [mounts, mounts, List.find?_filterMap, List.find?_filterMap,
    h.find?_eq fun _ _ => Entry.conflicts_of_leads]

theorem resolution?_reordered (layers : Layers) :
    (other.trail segments).resolution? layers = (router.trail segments).resolution? layers := by
  rw [resolution?_trail, resolution?_trail, find?_leaves_reordered h, find?_mounts_reordered h]

omit segments in
/-- **The order of entries matters only between those that conflict.** A router resolves each URL as
it does after a reordering of its entries that keeps the order of any two entries with handlers that
conflict, and of any two mounts that do. -/
theorem resolve_reordered (url : String) (extra : Parameters) :
    router.resolve url extra = other.resolve url extra := by
  rw [resolve, resolve, resolution?_reordered h]

end

/-- The last entry can come first if it conflicts with none of the others. -/
theorem resolve_rotated :
    let view (name : String) : Target Router := .handler (.view ⟨name⟩)
    let newUser : Route := ⟨.ofFormat "users/new", view "NewUser", {}⟩
    let user : Route := ⟨.ofFormat "users/:id", view "User", {}⟩
    let other : Route := ⟨.ofFormat ":kind", .mount ⟨0, .empty⟩, {}⟩
    let team : Route := ⟨.ofFormat "teams/:id", view "Team", {}⟩
    @IsReordering _ Entry.Conflicts [newUser, user, other, team] [team, newUser, user, other]
        (finRotate 4) ∧
      (ofRoutes [newUser, user, other, team]).resolve "users/new" ∅ =
        (ofRoutes [team, newUser, user, other]).resolve "users/new" ∅ := by
  intro view newUser user other team
  have h : @IsReordering _ Entry.Conflicts [newUser, user, other, team]
      [team, newUser, user, other] (finRotate 4) := {
    get_place := fun (i : Fin 4) => match i with
      | 0 => rfl
      | 1 => rfl
      | 2 => rfl
      | 3 => rfl
    place_lt := by decide }
  exact ⟨h, @resolve_reordered (ofRoutes [newUser, user, other, team])
    (ofRoutes [team, newUser, user, other]) _ h "users/new" ∅⟩

end Router

end UrlRouting
