import UrlRouting.Router.Resolve

/-! # The layers of a trail

A trail hands its layers down from mount to mount, merging at each of them. All this merging comes
to one stack of layers, read off the trail: the entries that it takes (`Trail.taken`,
`Trail.landing?`), each with the segments that it is taken for.

* `Trail.resolution?_eq`: what a trail resolves to, from any layers, in terms of that stack.
* `getElem?_params_of_resolve`: the value of a name in what a URL resolves to is the first of the
  extra parameters, what the leaf binds, what the mounts bind from the inside out, the query, the
  defaults of the leaf, and those of the mounts from the inside out. -/

namespace UrlRouting

/-- An entry with the segments that it is taken for. -/
structure Taken (τ : Type) where
  entry : Entry τ
  segments : List String

namespace Taken

variable {τ : Type}

/-- The default parameters of the entry. -/
def defaults (taken : Taken τ) : Parameters := taken.entry.presentation.defaults

/-- What the entry binds. -/
def bindings (taken : Taken τ) : Parameters := taken.entry.template.bindings taken.segments

/-- What the entry binds to a name: the segment at the last position where there is a parameter of
that name, as it stands in the path. Nothing is bound to the empty name. -/
def bound? (taken : Taken τ) (name : String) : Option Value :=
  if name = "" then none
  else
    ((taken.entry.template.parts.zip taken.segments).findRev? (·.1 == .param name)).map fun at_ =>
      .string at_.2

theorem getElem?_bindings (taken : Taken τ) (name : String) :
    taken.bindings[name]? = taken.bound? name := by
  rw [bindings, Template.bindings, Part.bindAll, Parameters.getElem?_ofTexts, bound?]
  simp only [List.findRev?_eq_find?_reverse, ← List.filterMap_reverse]
  induction (taken.entry.template.parts.zip taken.segments).reverse with
  | nil => simp
  | cons pair rest ih =>
    obtain ⟨_ | other, segment⟩ := pair
    · simpa [Part.binding?] using ih
    · by_cases ho : other = ""
      · subst ho
        by_cases hn : name = ""
        · simpa [Part.binding?, hn] using ih
        · simpa [Part.binding?, hn, Ne.symm hn] using ih
      · by_cases hn : other = name
        · subst hn; simp [Part.binding?, ho]
        · simpa [Part.binding?, ho, hn] using ih

end Taken

namespace Trail

/-- The mounts that the trail takes, the outermost first. -/
def taken : Trail → List (Taken (Mount Router))
  | .hit _ _ => []
  | .miss _ => []
  | .via visit mount rest => ⟨mount, visit.segments⟩ :: rest.taken

/-- The leaf that the trail takes at its end. -/
def landing? : Trail → Option (Taken Handler)
  | .hit visit leaf => some ⟨leaf, visit.segments⟩
  | .miss _ => none
  | .via _ _ rest => rest.landing?

theorem leaf?_eq (trail : Trail) : trail.leaf? = trail.landing?.map (·.entry) := by
  induction trail with
  | hit visit leaf => rfl
  | miss visit => rfl
  | via visit mount rest ih => exact ih

/-- The layers of a trail with a leaf at its end, the weakest first. -/
def stack (trail : Trail) (layers : Layers) (leaf : Taken Handler) : List Parameters :=
  [layers.defaults] ++ trail.taken.map Taken.defaults ++
    [leaf.defaults, layers.query, layers.bindings] ++ trail.taken.map Taken.bindings ++
    [leaf.bindings]

/-- **The layers handed down come to one stack.** -/
theorem resolution?_eq (trail : Trail) (layers : Layers) :
    trail.resolution? layers = trail.landing?.map fun leaf =>
      ⟨leaf.entry.target, .overlay (trail.stack layers leaf), leaf.entry.presentation,
        leaf.entry.template⟩ := by
  induction trail generalizing layers with
  | hit visit leaf => rfl
  | miss visit => rfl
  | via visit mount rest ih =>
    rw [resolution?, ih, landing?]
    congr 1
    funext leaf
    -- What the mount merged at its two places spreads out again in the stack.
    simp [stack, taken, Layers.below, Taken.defaults, Taken.bindings, Parameters.overlay_cons,
      Parameters.overlay_append, Parameters.union_assoc]

theorem getElem?_stack (trail : Trail) (layers : Layers) (leaf : Taken Handler) (name : String) :
    (Parameters.overlay (trail.stack layers leaf))[name]? = (leaf.bound? name
      <|> trail.taken.reverse.findSome? (·.bound? name)
      <|> layers.bindings[name]? <|> layers.query[name]?
      <|> leaf.defaults[name]?
      <|> trail.taken.reverse.findSome? (·.defaults[name]?)
      <|> layers.defaults[name]?) := by
  simp only [stack, Parameters.overlay_append, Parameters.overlay_cons, Parameters.overlay_nil,
    Parameters.union_empty, Std.ExtTreeMap.getElem?_union, Parameters.getElem?_overlay,
    ← List.map_reverse, List.findSome?_map, Function.comp_def, Taken.getElem?_bindings,
    Option.or_assoc, Option.orElse_eq_orElse, Option.orElse_eq_or]

end Trail

/-- The last value that the query gives to a name. -/
def Request.queried? (request : Request) (name : String) : Option Value :=
  (request.pairs.findRev? (·.1 == name)).map fun pair => .string pair.2

theorem Request.getElem?_parameters (request : Request) (name : String) :
    request.parameters[name]? = request.queried? name :=
  Parameters.getElem?_ofTexts request.pairs name

namespace Router

variable {router : Router} {url : String}

theorem resolve_of_landing {leaf : Taken Handler} (extra : Parameters)
    (h : (router.trail (Request.ofUrl url).segments).landing? = some leaf) :
    router.resolve url extra = .ok
      { handler := leaf.entry.target
        params := .overlay [.overlay ((router.trail (Request.ofUrl url).segments).stack
          (.ofQuery (Request.ofUrl url).parameters) leaf), extra]
        presentation := leaf.entry.presentation
        template := leaf.entry.template } := by
  rw [resolve, Trail.resolution?_eq, h]
  rfl

theorem resolve_of_landing_eq_none (extra : Parameters)
    (h : (router.trail (Request.ofUrl url).segments).landing? = none) :
    router.resolve url extra = .error (.unmatched url) := by
  rw [resolve, Trail.resolution?_eq, h]
  rfl

/-- **The order of the layers.** The value of a name in what a URL resolves to is the first that
there is: the extra one, the one that the leaf binds, those that the mounts bind, the innermost
first, the last one in the query, the default of the leaf, and those of the mounts, the innermost
first. -/
theorem getElem?_params_of_resolve {extra : Parameters} {found : Resolution}
    (h : router.resolve url extra = .ok found) (name : String) :
    let request := Request.ofUrl url
    let trail := router.trail request.segments
    ∃ leaf, trail.landing? = some leaf ∧ found.template = leaf.entry.template ∧
      found.params[name]? = (extra[name]?
        <|> leaf.bound? name
        <|> trail.taken.reverse.findSome? (·.bound? name)
        <|> request.queried? name
        <|> leaf.defaults[name]?
        <|> trail.taken.reverse.findSome? (·.defaults[name]?)) := by
  intro request trail
  cases hleaf : trail.landing? with
  | none => rw [resolve_of_landing_eq_none extra hleaf] at h; cases h
  | some leaf =>
    rw [resolve_of_landing extra hleaf] at h
    obtain rfl := Except.ok.inj h
    refine ⟨leaf, rfl, rfl, ?_⟩
    simp only [Parameters.overlay_cons, Parameters.overlay_nil, Parameters.union_empty,
      Std.ExtTreeMap.getElem?_union, Trail.getElem?_stack, Layers.ofQuery,
      Request.getElem?_parameters, Std.ExtTreeMap.getElem?_empty, Option.orElse_eq_orElse,
      Option.orElse_eq_or, Option.none_or, Option.or_none]
    rfl

/-- What a mount binds hides the query, and the query hides the defaults. -/
theorem params_of_mounted_team :
    let shown : Presentation := { defaults := .ofTexts [("tab", "all"), ("org", "none")] }
    let teams : Router := .ofRoutes [⟨.ofFormat "teams/:id", .handler (.view ⟨"Team"⟩), shown⟩]
    let router : Router := .ofRoutes [⟨.ofFormat "orgs/:org", .mount ⟨0, teams⟩, shown⟩]
    ∃ found, router.resolve "orgs/acme/teams/7?org=evil&tab=posts" ∅ = .ok found ∧
      found.params["org"]? = some (.string "acme") ∧
      found.params["tab"]? = some (.string "posts") := by
  intro shown teams router
  have hs : (Request.ofUrl "orgs/acme/teams/7?org=evil&tab=posts").segments =
      ["orgs", "acme", "teams", "7"] := by decide
  have hl : (router.trail ["orgs", "acme", "teams", "7"]).landing? =
      some ⟨⟨.ofFormat "teams/:id", .view ⟨"Team"⟩, shown⟩, ["teams", "7"]⟩ := by cbv
  rw [← hs] at hl
  have h := resolve_of_landing ∅ hl
  obtain ⟨leaf, hleaf, -, horg⟩ := getElem?_params_of_resolve h "org"
  obtain ⟨leaf', hleaf', -, htab⟩ := getElem?_params_of_resolve h "tab"
  obtain rfl := Option.some.inj (hl.symm.trans hleaf)
  obtain rfl := Option.some.inj (hl.symm.trans hleaf')
  refine ⟨_, h, horg.trans ?_, htab.trans ?_⟩
  · decide +kernel
  · decide +kernel

end Router

end UrlRouting
