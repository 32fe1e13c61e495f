import UrlRouting.Proofs.Mounting

/-! # Only the path routes

The query of a URL, its fragment, the slashes around its path and the parameters given with the call
have no say in what handles the URL, nor in what its path binds.

* `Trail.Binds`: the names that a trail binds, at its leaf or at a mount on the way.
* `Trail.getElem?_stack_of_binds`: the value of such a name comes from the path alone.
* `Router.resolve_of_trim_path_eq`: two URLs with one path resolve alike. -/

namespace UrlRouting

open Url

/-- What a trail binds to a name: the leaf at its end first, then its mounts from the inside out. -/
def Trail.bound? (trail : Trail) (name : String) : Option Value :=
  (trail.landing?.bind (·.bound? name)).or (trail.taken.reverse.findSome? (·.bound? name))

/-- Whether a trail binds a name: its leaf does, or a mount on the way. -/
def Trail.Binds (trail : Trail) (name : String) : Prop :=
  (∃ leaf, trail.landing? = some leaf ∧ (leaf.bound? name).isSome) ∨
    ∃ mount ∈ trail.taken, (mount.bound? name).isSome

theorem Trail.isSome_bound? {trail : Trail} {name : String} (h : trail.Binds name) :
    (trail.bound? name).isSome := by
  rw [bound?, Option.isSome_or, Bool.or_eq_true]
  rcases h with ⟨leaf, hleaf, hbound⟩ | ⟨mount, hmount, hbound⟩
  · left
    rwa [hleaf, Option.bind_some]
  · right
    rw [List.findSome?_isSome_iff]
    exact ⟨mount, List.mem_reverse.mpr hmount, hbound⟩

/-- **A bound name has its value from the path**, whatever the layers handed to the trail, as long
as they bind nothing themselves. -/
theorem Trail.getElem?_stack_of_binds {trail : Trail} {leaf : Taken Handler}
    (hleaf : trail.landing? = some leaf) {name : String} (h : trail.Binds name)
    (query : Parameters) :
    (Parameters.overlay (trail.stack (.ofQuery query) leaf))[name]? = trail.bound? name := by
  obtain ⟨value, hvalue⟩ := Option.isSome_iff_exists.mp (isSome_bound? h)
  rw [getElem?_stack]
  simp only [Option.orElse_eq_orElse, Option.orElse_eq_or, ← Option.or_assoc]
  rw [bound?, hleaf, Option.bind_some] at hvalue
  rw [hvalue, bound?, hleaf, Option.bind_some, hvalue]
  simp

namespace Router

variable {router : Router} {u v : String}

/-- **Only the path routes.** Two URLs with the same path, up to the slashes around it, resolve
alike whatever their queries and fragments and the extra parameters: both miss, or both hit with one
handler, presentation and template, and with one value at each name that the path binds and that no
extra parameter hides. If the extra parameters and those of the queries are the same, so is all. -/
theorem resolve_of_trim_path_eq
    (h : Path.trim (Request.ofUrl u).path = Path.trim (Request.ofUrl v).path) (x y : Parameters) :
    Option.Rel
        (Resolution.AlikeOn fun name =>
          (router.trail (Request.ofUrl u).segments).Binds name ∧ name ∉ x ∧ name ∉ y)
        (router.resolve u x).toOption (router.resolve v y).toOption ∧
      (x = y → (Request.ofUrl u).parameters = (Request.ofUrl v).parameters →
        (router.resolve u x).toOption = (router.resolve v y).toOption) := by
  have hsegments : (Request.ofUrl u).segments = (Request.ofUrl v).segments := by
    rw [Request.segments, Request.segments, ← Path.split_trim, h, Path.split_trim]
  rw [toOption_resolve, toOption_resolve, ← hsegments]
  constructor
  · rw [Trail.resolution?_eq, Trail.resolution?_eq]
    cases hleaf : (router.trail (Request.ofUrl u).segments).landing? with
    | none => exact .none
    | some leaf =>
      refine .some ⟨rfl, ?_, rfl, rfl⟩
      rintro name ⟨hbinds, hx, hy⟩
      simp only [Parameters.overlay_cons, Parameters.overlay_nil, Parameters.union_empty,
        Std.ExtTreeMap.getElem?_union, Std.ExtTreeMap.getElem?_eq_none hx,
        Std.ExtTreeMap.getElem?_eq_none hy, Option.none_or]
      have hu := Trail.getElem?_stack_of_binds hleaf hbinds (Request.ofUrl u).parameters
      have hv := Trail.getElem?_stack_of_binds hleaf hbinds (Request.ofUrl v).parameters
      exact hu.trans hv.symm
  · rintro rfl hquery
    rw [hquery]

/-- A query cannot set what the path binds, at a mount or at the leaf. -/
theorem resolve_of_forged_query :
    let teams : Router := .ofRoutes [⟨.ofFormat "teams/:id", .handler (.view ⟨"Team"⟩), {}⟩]
    let router : Router := .ofRoutes [⟨.ofFormat "orgs/:org", .mount ⟨0, teams⟩, {}⟩]
    let x : Parameters := .ofTexts [("tab", "all")]
    Option.Rel
        (Resolution.AlikeOn fun name => (router.trail ["orgs", "acme", "teams", "7"]).Binds name ∧
          name ∉ x ∧ name ∉ (∅ : Parameters))
        (router.resolve "/orgs/acme/teams/7?org=evil&id=0#top" x).toOption
        (router.resolve "orgs/acme/teams/7//?page=2" ∅).toOption ∧
      (router.trail ["orgs", "acme", "teams", "7"]).Binds "org" ∧ "org" ∉ x ∧
      (router.resolve "/orgs/acme/teams/7?page=2#top" x).toOption =
        (router.resolve "orgs/acme/teams/7//?page=2" x).toOption := by
  intro teams router x
  have hs : (Request.ofUrl "/orgs/acme/teams/7?org=evil&id=0#top").segments =
      ["orgs", "acme", "teams", "7"] := by decide
  have hrel := (@resolve_of_trim_path_eq router "/orgs/acme/teams/7?org=evil&id=0#top"
    "orgs/acme/teams/7//?page=2" (by decide +kernel) x ∅).1
  have heq := (@resolve_of_trim_path_eq router "/orgs/acme/teams/7?page=2#top"
    "orgs/acme/teams/7//?page=2" (by decide +kernel) x x).2 rfl (by decide +kernel)
  have hbinds : (router.trail ["orgs", "acme", "teams", "7"]).Binds "org" := by
    have htaken : (router.trail ["orgs", "acme", "teams", "7"]).taken =
        [⟨⟨.ofFormat "orgs/:org", ⟨0, teams⟩, {}⟩, ["orgs", "acme", "teams", "7"]⟩] := by cbv
    rw [Trail.Binds, htaken]
    exact Or.inr ⟨_, List.mem_singleton_self _, by decide⟩
  rw [hs] at hrel
  exact ⟨hrel, hbinds, by decide +kernel, heq⟩

end Router

end UrlRouting
