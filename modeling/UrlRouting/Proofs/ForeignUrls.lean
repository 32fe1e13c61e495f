import UrlRouting.Proofs.Filling
import UrlRouting.Proofs.Schemes
import UrlRouting.Proofs.Sessions

/-! # Foreign URLs

A URL with a scheme is a path like any other to a router, and parameters fit almost anything. Yet a
router does not take foreign URLs by accident: the second of the two slashes behind the scheme makes
an empty segment, which no parameter fits.

* `Url.afterScheme`: what a URL has between its first `://` and its query or fragment.
* `IsSchemeText.segments_ofUrl`: the segments of a URL with a scheme.
* `Template.fitAll_of_empty_second`: a template without doubled slashes does not fit them.
* `Router.resolve_foreign`: a foreign URL resolves to nothing, and the dispatcher hands it over. -/

namespace UrlRouting

open Url

/-! ### Segments of foreign URLs -/

namespace Url

/-- What a URL has between its first `://` and the query or the fragment behind it; nothing if there
is no `://`. -/
def afterScheme (url : String) : List Char :=
  match Text.before? [':', '/', '/'] url.toList with
  | some front => (url.toList.drop (front.length + 3)).takeWhile fun c => c ≠ '?' ∧ c ≠ '#'
  | none => []

section
variable {scheme : String} (h : IsSchemeText scheme)
include h

theorem IsSchemeText.afterScheme_eq (rest : String) :
    afterScheme (scheme ++ "://" ++ rest) = (Request.ofUrl rest).path.toList := by
  have hdrop : (scheme ++ "://" ++ rest).toList.drop (scheme.toList.length + 3) = rest.toList := by
    rw [String.toList_append, List.drop_left' (by simp)]
  unfold afterScheme
  rw [h.before?_eq]
  show ((scheme ++ "://" ++ rest).toList.drop (scheme.toList.length + 3)).takeWhile _ = _
  rw [hdrop]
  simp [Request.ofUrl, Text.cut, List.takeWhile_takeWhile]

/-- **The segments of a URL with a scheme** and anything but slashes behind it: the scheme with its
colon, an empty one, and others. -/
theorem IsSchemeText.segments_ofUrl {rest : String}
    (hrest : ¬ Path.IsRoot (Request.ofUrl rest).path) :
    ∃ others,
      (Request.ofUrl (scheme ++ "://" ++ rest)).segments = (scheme ++ ":") :: "" :: others := by
  have hne : scheme ++ ":" ≠ "" := by simp
  have hreg : Path.Regular [scheme ++ ":"] := {
    ne_nil := by simp
    noSlash := by simp [h.not_mem (c := '/') (by decide)]
    ends := Or.inr (by simp [hne]) }
  have hsplit : Path.split (scheme ++ ":") = [scheme ++ ":"] := by
    simpa [Path.join] using hreg.split_join
  have htrim : Path.trim (scheme ++ ":") = scheme ++ ":" := by
    rw [← Path.join_split, hsplit]
    simp [Path.join]
  have hpath : (Request.ofUrl (scheme ++ "://" ++ rest)).path =
      scheme ++ ":" ++ "/" ++ ("/" ++ (Request.ofUrl rest).path) := by
    rw [h.path_ofUrl, ← String.toList_inj]
    simp
  have hroot : ¬ Path.IsRoot ("/" ++ (Request.ofUrl rest).path) := by
    simpa [Path.IsRoot] using hrest
  rw [Request.segments, hpath, Path.split_append_slash htrim hne hroot, hsplit]
  simp [List.replicate_succ]

end

end Url

/-! ### Templates and foreign URLs -/

namespace Template

variable {template : Template}

/-- In a template without doubled slashes no part fits an empty segment, unless it is the only
part. -/
theorem fits_empty_eq_false (hslash : ¬ ['/', '/'] <:+: (Path.trim template.format).toList)
    (h2 : 2 ≤ template.size) {part : Part} (hm : part ∈ template.parts) :
    part.fits "" = false := by
  have hsplit := template.map_text_parts
  have hlen : 2 ≤ (Path.split template.format).length := by
    rw [← hsplit, List.length_map]
    exact h2
  have hne : part.text ≠ "" := by
    refine Path.ne_empty_of_mem_split hslash hlen _ ?_
    rw [← hsplit]
    exact List.mem_map_of_mem hm
  cases part with
  | literal text => simpa [Part.fits, Part.text] using hne
  | param name => simp [Part.fits]

theorem fitAll_of_empty_second
    (hslash : ¬ ['/', '/'] <:+: (Path.trim template.format).toList) (h2 : 2 ≤ template.size)
    (first : String) (others : List String) :
    Part.fitAll template.parts (first :: "" :: others) = false := by
  have hempty : ∀ part ∈ template.parts, part.fits "" = false :=
    fun part hm => fits_empty_eq_false hslash h2 hm
  rw [size] at h2
  rcases hparts : template.parts with _ | ⟨one, _ | ⟨two, parts⟩⟩
  · simp [hparts] at h2
  · simp [hparts] at h2
  · rw [Part.fitAll_cons, Part.fitAll_cons, hempty two (by simp [hparts]), Bool.false_and,
      Bool.and_false]

end Template

/-! ### Routers and foreign URLs -/

namespace Router

/-- Whether the entries of a router are for local paths: no format has a doubled slash inside, and a
mount with one part has a literal there, which does not end in a colon. -/
structure Local (router : Router) : Prop where
  noDoubled : ∀ route ∈ router.routes, ¬ ['/', '/'] <:+: (Path.trim route.template.format).toList
  literal_of_size : ∀ mount ∈ router.mounts, mount.template.size = 1 →
    ∃ text, mount.template.parts = [.literal text] ∧ text.toList.getLast? ≠ some ':'

namespace Local

variable {router : Router} (h : router.Local) {scheme : String} {others : List String}
include h

theorem fits_eq_false {leaf : Entry Handler} (hm : leaf ∈ router.leaves) :
    leaf.template.fits ((scheme ++ ":") :: "" :: others) = false := by
  obtain ⟨route, hroute, hleaf⟩ := List.mem_filterMap.mp hm
  have hslash := h.noDoubled route hroute
  rw [← Entry.template_of_leaf? hleaf] at hslash
  rw [Bool.eq_false_iff]
  intro hfit
  obtain ⟨hlen, hall⟩ := Template.fits_iff.mp hfit
  have h2 : 2 ≤ leaf.template.size := by
    simp only [List.length_cons] at hlen
    omega
  rw [Template.fitAll_of_empty_second hslash h2] at hall
  cases hall

theorem leads_eq_false {mount : Entry (Mount Router)} (hm : mount ∈ router.mounts) :
    mount.template.leads ((scheme ++ ":") :: "" :: others) = false := by
  obtain ⟨route, hroute, hmount⟩ := List.mem_filterMap.mp hm
  have hslash := h.noDoubled route hroute
  rw [← Entry.template_of_mount? hmount] at hslash
  rw [Bool.eq_false_iff]
  intro hlead
  have hall := (Template.leads_iff.mp hlead).2
  rcases Nat.lt_or_ge mount.template.size 2 with hlt | h2
  · have hpos := mount.template.size_pos
    obtain ⟨text, hparts, hcolon⟩ := h.literal_of_size mount hm (by omega)
    -- The one literal would have to be the scheme with its colon.
    have htext : text = scheme ++ ":" := by simpa [hparts, Part.fitAll, Part.fits] using hall
    rw [htext] at hcolon
    simp at hcolon
  · rw [Template.fitAll_of_empty_second hslash h2] at hall
    cases hall

/-- **A router for local paths has no entry for the segments of a foreign URL.** -/
theorem trail_eq_miss :
    router.trail ((scheme ++ ":") :: "" :: others) =
      .miss ⟨router, (scheme ++ ":") :: "" :: others⟩ := by
  have hleaf : router.leaves.find? (·.template.fits ((scheme ++ ":") :: "" :: others)) = none :=
    List.find?_eq_none.mpr fun leaf hm => by simp [h.fits_eq_false hm]
  have hmount : router.mounts.find? (·.template.leads ((scheme ++ ":") :: "" :: others)) = none :=
    List.find?_eq_none.mpr fun mount hm => by simp [h.leads_eq_false hm]
  rw [trail_eq, hleaf, hmount]

end Local

/-- **Foreign URLs** are none of a router's business, whatever parameters it has. If the entries of
a router are for local paths, a URL with a scheme and anything but slashes behind it resolves to
nothing, and a dispatcher that hands URLs over does so with this one, and does nothing else. -/
theorem resolve_foreign {router : Router} (h : router.Local) {url : String}
    (hscheme : hasScheme url = true) (hafter : ∃ c ∈ afterScheme url, c ≠ '/')
    (extra : Parameters) :
    router.resolve url extra = .error (.unmatched url) ∧
    ∀ (host : Host) (policy : Policy), policy.handOver = true →
      Dispatcher.reply ⟨router, host, policy⟩ ⟨url, extra⟩ =
        ([.handOver url], (host.handOver url).map fun _ => .handedOver) := by
  have hmiss : router.resolve url extra = .error (.unmatched url) := by
    obtain ⟨scheme, rest, rfl, htext⟩ := hasScheme_iff_exists.mp hscheme
    have hrest : ¬ Path.IsRoot (Request.ofUrl rest).path := by
      rw [htext.afterScheme_eq] at hafter
      simpa [Path.IsRoot] using hafter
    obtain ⟨others, hsegments⟩ := htext.segments_ofUrl hrest
    rw [resolve, hsegments, h.trail_eq_miss]
    rfl
  refine ⟨hmiss, fun host policy hpolicy => ?_⟩
  exact Dispatcher.reply_handOver hmiss ⟨hpolicy, hscheme⟩

/-- A web link does not get to an entry that takes any four segments. -/
theorem resolve_web_link :
    let view (name : String) : Target Router := .handler (.view ⟨name⟩)
    let users : Router := .ofRoutes [⟨.ofFormat ":id", view "User", {}⟩]
    let router : Router := .ofRoutes [⟨.ofFormat "orgs/:org", .mount ⟨0, users⟩, {}⟩,
      ⟨.ofFormat "/users/", .mount ⟨1, users⟩, {}⟩, ⟨.ofFormat ":a/:b/:c/:d", view "Any", {}⟩]
    let host : Host := ⟨fun _ _ _ => .ok (), Host.refuse⟩
    let url := "https://example.com/users?id=7"
    (Request.ofUrl url).segments = ["https:", "", "example.com", "users"] ∧ router.Local ∧
    router.resolve url ∅ = .error (.unmatched url) ∧
    Dispatcher.reply ⟨router, host, { passOver := true }⟩ ⟨url, ∅⟩ =
      ([.handOver url], .error (.noReceiver url)) := by
  intro view users router host url
  have hlocal : router.Local := {
    noDoubled := by decide +kernel
    literal_of_size := by
      have hmounts : router.mounts = [⟨.ofFormat "orgs/:org", ⟨0, users⟩, {}⟩,
        ⟨.ofFormat "/users/", ⟨1, users⟩, {}⟩] := rfl
      rw [hmounts, List.forall_mem_cons, List.forall_mem_singleton]
      exact ⟨fun hsize => absurd hsize (by decide), fun _ => ⟨"users", by decide, by decide⟩⟩ }
  obtain ⟨hmiss, hreply⟩ :=
    @resolve_foreign router hlocal url (by decide) ⟨'e', by decide, by decide⟩ ∅
  exact ⟨by decide, hlocal, hmiss, hreply host { passOver := true } rfl⟩

end Router

end UrlRouting
