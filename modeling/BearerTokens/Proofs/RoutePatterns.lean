/-
BearerTokens.Proofs.RoutePatterns — at most one route for a request.

A route is a pattern for the characters of a path: a literal stands for itself, a
parameter for one or more characters other than a slash, and the pattern ends where
the path does or in front of one last line feed. `Spells` says this. A line feed at
the end of a path may thus belong to the last parameter or to none; each parameter is
as long as it can be, which makes it the parameter's (`IsReading`). Looking for
segments finds that reading and no other (`params?_eq_some_iff`).

A pattern fits only paths of as many segments as it has itself, whatever these hold.
Two routes with one method differ in this number, so it does not matter in which order
the routes are tried (`findRouteIn_perm`).
-/
import BearerTokens.Proofs.Addresses
import Mathlib.Data.List.Forall2
import Mathlib.Data.List.Perm.Basic

namespace BearerTokens

/-- The pieces of a text, with the separator in front of all but the first, are the text. -/
theorem Text.append_flatMap_of_splitAt {c : Char} {cs piece : List Char}
    {pieces : List (List Char)} (h : splitAt c cs = piece :: pieces) :
    piece ++ pieces.flatMap (c :: ·) = cs := by
  induction cs generalizing piece pieces with
  | nil =>
    cases h
    rfl
  | cons d rest ih =>
    obtain ⟨first, more, hsplit⟩ := List.exists_cons_of_ne_nil (splitAt_ne_nil c rest)
    rw [splitAt, hsplit] at h
    split at h
    · rename_i hd
      cases h
      rw [List.nil_append, List.flatMap_cons, List.cons_append, ih hsplit, eq_of_beq hd]
    · cases h
      rw [List.cons_append, ih hsplit]

namespace Http

/-! ## Segments -/

/-- A path is put together from the segments that are found in it. -/
theorem eq_pathOf {path : String} {segments : List String}
    (h : pathSegments? path = some segments) : path = pathOf segments := by
  unfold pathSegments? at h
  split at h
  · rename_i pieces hsplit
    cases h
    rw [← String.toList_inj, pathOf, String.toList_ofList, ← Text.append_flatMap_of_splitAt hsplit,
      List.nil_append, List.flatMap_map]
    simp
  · cases h

/-- The segments at which a route has parameters. -/
def parametersAt : List Segment → List String → List String
  | .parameter :: route, s :: path => s :: parametersAt route path
  | .literal _ :: route, _ :: path => parametersAt route path
  | _, _ => []

/-- A route fits paths of as many segments as it has. -/
theorem Matches.length_eq {route : List Segment} {path params : List String}
    (h : Matches route path params) : path.length = route.length := by
  induction h with
  | nil | line => rfl
  | literal _ _ ih | parameter _ _ ih => rw [List.length_cons, List.length_cons, ih]

/-- And it takes the segments at its parameters. -/
theorem Matches.parametersAt_eq {route : List Segment} {path params : List String}
    (h : Matches route path params) : parametersAt route path = params := by
  induction h with
  | nil | line => rfl
  | literal _ _ ih => exact ih
  | parameter _ _ ih => rw [parametersAt, ih]

/-! ## Characters -/

/-- The characters are spelled by the pattern of a route, with these parameters. -/
inductive Spells : List Segment → List Char → List String → Prop
  | done : Spells [] [] []
  /-- The pattern may end in front of one last line feed. -/
  | line : Spells [] ['\n'] []
  | literal (name : String) {route : List Segment} {cs : List Char} {params : List String}
      (rest : Spells route cs params) :
      Spells (.literal name :: route) ('/' :: (name.toList ++ cs)) params
  | parameter {s : String} (nonempty : s ≠ "") (slash : '/' ∉ s.toList) {route : List Segment}
      {cs : List Char} {params : List String} (rest : Spells route cs params) :
      Spells (.parameter :: route) ('/' :: (s.toList ++ cs)) (s :: params)

/-- Of all parameters that the pattern admits, these are the longest. -/
structure IsReading (route : List Segment) (cs : List Char) (params : List String) : Prop where
  spells : Spells route cs params
  longest : ∀ others, Spells route cs others →
    List.Forall₂ (fun s other => other.length ≤ s.length) params others

/-- What is found in the segments is spelled by the characters. -/
theorem Matches.spells {route : List Segment} {segments params : List String}
    (h : Matches route segments params) (hslash : ∀ s ∈ segments, '/' ∉ s.toList) :
    Spells route (pathOf segments).toList params := by
  rw [pathOf, String.toList_ofList]
  induction h with
  | nil => exact .done
  | line name =>
    rw [List.flatMap_cons, List.flatMap_nil, List.append_nil, String.toList_append]
    exact .literal name .line
  | literal name _ ih => exact .literal name (ih (List.forall_mem_cons.1 hslash).2)
  | parameter nonempty _ ih =>
    obtain ⟨hs, hrest⟩ := List.forall_mem_cons.1 hslash
    exact .parameter nonempty hs (ih hrest)

/-- Is the segment no literal with a slash in it? -/
def Segment.isPlain : Segment → Bool
  | literal name => '/' ∉ name.toList
  | parameter => true

/-- A parameter is taken as it is, or with the line feed that follows it. -/
def TakesUp (s other : String) : Prop :=
  s = other ∨ s = other ++ "\n"

/-- What the characters spell is found in the segments, but for a line feed at the
end, which goes to the last parameter. It is no segment of its own, therefore the
pattern must have one. -/
theorem Spells.exists_matchSegments {segment : Segment} {route : List Segment} {cs : List Char}
    {others : List String} (h : Spells (segment :: route) cs others)
    (hplain : ∀ s ∈ segment :: route, s.isPlain = true) :
    ∃ segments params, (∀ s ∈ segments, '/' ∉ s.toList) ∧ (pathOf segments).toList = cs
      ∧ matchSegments (segment :: route) segments = some params
      ∧ List.Forall₂ TakesUp params others := by
  induction route generalizing segment cs others with
  | nil =>
    -- Only the last segment of the pattern has to do with the line feed.
    cases h with
    | literal name rest =>
      have hname : '/' ∉ name.toList := by simpa [Segment.isPlain] using hplain
      cases rest with
      | done =>
        exact ⟨[name], [], by simpa using hname, by simp [pathOf], by simp [matchSegments], .nil⟩
      | line =>
        exact ⟨[name ++ "\n"], [], by simpa using hname, by simp [pathOf], by simp [matchSegments],
          .nil⟩
    | @parameter s nonempty slash _ _ _ rest =>
      cases rest with
      | done =>
        exact ⟨[s], [s], by simpa using slash, by simp [pathOf],
          by simp [matchSegments, nonempty], .cons (Or.inl rfl) .nil⟩
      | line =>
        exact ⟨[s ++ "\n"], [s ++ "\n"], by simpa using slash, by simp [pathOf],
          by simp [matchSegments], .cons (Or.inr rfl) .nil⟩
  | cons next route ih =>
    obtain ⟨hsegment, hroute⟩ := List.forall_mem_cons.1 hplain
    cases h with
    | literal name rest =>
      obtain ⟨segments, params, hslash, rfl, hmatch, htakes⟩ := ih rest hroute
      have hname : '/' ∉ name.toList := by simpa [Segment.isPlain] using hsegment
      refine ⟨name :: segments, params, List.forall_mem_cons.2 ⟨hname, hslash⟩, by simp [pathOf],
        ?_, htakes⟩
      simp [matchSegments, hmatch]
    | @parameter s nonempty slash _ _ _ rest =>
      obtain ⟨segments, params, hslash, rfl, hmatch, htakes⟩ := ih rest hroute
      refine ⟨s :: segments, s :: params, List.forall_mem_cons.2 ⟨slash, hslash⟩, by simp [pathOf],
        ?_, .cons (Or.inl rfl) htakes⟩
      simp [matchSegments, nonempty, hmatch]

/-! ## Readings -/

section

variable {r : Route} {path : String} {params : List String}

/-- The pattern has a segment, and no literal holds a slash. -/
def Route.IsPlain (r : Route) : Prop :=
  r.path ≠ [] ∧ ∀ s ∈ r.path, s.isPlain = true

theorem isPlain_of_mem_routes : ∀ r ∈ routes, r.IsPlain := by
  unfold Route.IsPlain
  decide

theorem Route.spells_of_params? (h : r.params? path = some params) :
    Spells r.path path.toList params := by
  obtain ⟨segments, hsegments, hmatch⟩ := r.matches_of_params? h
  have hspells := hmatch.spells (slash_not_mem_of_pathSegments? hsegments)
  rwa [← eq_pathOf hsegments] at hspells

theorem Route.exists_params?_of_spells (hplain : r.IsPlain) {others : List String}
    (h : Spells r.path path.toList others) :
    ∃ params, r.params? path = some params ∧ List.Forall₂ TakesUp params others := by
  obtain ⟨segment, route, hroute⟩ := List.exists_cons_of_ne_nil hplain.1
  rw [hroute] at h
  obtain ⟨segments, params, hslash, hpath, hmatch, htakes⟩ :=
    h.exists_matchSegments (hroute ▸ hplain.2)
  refine ⟨params, ?_, htakes⟩
  rw [String.toList_inj] at hpath
  rw [Route.params?, ← hpath, pathSegments?_pathOf hslash, Option.bind_some, hroute, hmatch]

theorem TakesUp.length_le {s other : String} (h : TakesUp s other) : other.length ≤ s.length := by
  rcases h with rfl | rfl
  · exact Nat.le_refl _
  · rw [String.length_append]
    exact Nat.le_add_right _ _

theorem TakesUp.eq_of_length_le {s other : String} (h : TakesUp s other)
    (hlength : s.length ≤ other.length) : s = other := by
  rcases h with rfl | rfl
  · rfl
  · rw [String.length_append] at hlength
    exact absurd hlength (Nat.not_succ_le_self _)

/-- Parameters that are no longer than others take nothing up. -/
theorem eq_of_takesUp {params others : List String} (htakes : List.Forall₂ TakesUp params others)
    (hlengths : List.Forall₂ (fun s other => other.length ≤ s.length) others params) :
    params = others := by
  induction htakes with
  | nil => rfl
  | cons htake _ ih =>
    cases hlengths with
    | cons hle hrest => rw [htake.eq_of_length_le hle, ih hrest]

/-- **Patterns**: what a route finds in a path is the longest reading of the path. -/
theorem Route.params?_eq_some_iff (hplain : r.IsPlain) :
    r.params? path = some params ↔ IsReading r.path path.toList params := by
  constructor
  · intro h
    refine ⟨r.spells_of_params? h, fun others hothers => ?_⟩
    obtain ⟨found, hfound, htakes⟩ := r.exists_params?_of_spells hplain hothers
    obtain rfl : found = params := by rwa [h, Option.some.injEq, eq_comm] at hfound
    exact htakes.imp fun _ _ htake => htake.length_le
  · intro h
    obtain ⟨found, hfound, htakes⟩ := r.exists_params?_of_spells hplain h.spells
    have hlengths := h.longest found (r.spells_of_params? hfound)
    rwa [← eq_of_takesUp htakes hlengths]

end

/-! ## Tables -/

section

variable {table : List Route} {method path : String} {route : Route} {params : List String}

/-- Routes with one method differ in the number of their segments. -/
theorem eq_of_length_eq : ∀ r ∈ routes, ∀ r' ∈ routes,
    r.method = r'.method → r.path.length = r'.path.length → r = r' := by
  decide

/-- **Unambiguity**: routes with one method that find something in one path are the same. -/
theorem eq_of_params? {r r' : Route} (hr : r ∈ routes) (hr' : r' ∈ routes)
    (hmethod : r.method = r'.method) {params params' : List String}
    (h : r.params? path = some params) (h' : r'.params? path = some params') : r = r' := by
  obtain ⟨segments, hsegments, hmatch⟩ := r.matches_of_params? h
  obtain ⟨segments', hsegments', hmatch'⟩ := r'.matches_of_params? h'
  obtain rfl : segments = segments' := by rwa [hsegments, Option.some.injEq] at hsegments'
  exact eq_of_length_eq r hr r' hr' hmethod (hmatch.length_eq.symm.trans hmatch'.length_eq)

/-- The first route of a table that a request fits is any such route. -/
theorem findRouteIn_eq_some_iff (htable : ∀ r ∈ table, r ∈ routes) :
    findRouteIn table method path = some (route, params)
      ↔ route ∈ table ∧ route.method = method ∧ route.params? path = some params := by
  refine ⟨mem_of_findRouteIn, ?_⟩
  rintro ⟨hmem, hmethod, hparams⟩
  have hsome : (findRouteIn table method path).isSome = true := by
    rw [findRouteIn, List.findSome?_isSome_iff]
    exact ⟨route, hmem, by simp [hmethod, hparams]⟩
  obtain ⟨⟨first, found⟩, hfirst⟩ := Option.isSome_iff_exists.1 hsome
  obtain ⟨hmem', hmethod', hfound⟩ := mem_of_findRouteIn hfirst
  obtain rfl : first = route := eq_of_params? (htable _ hmem') (htable _ hmem)
    (hmethod'.trans hmethod.symm) hfound hparams
  rw [hparams, Option.some.injEq] at hfound
  rw [hfirst, hfound]

/-- **Order**: in whichever order the routes are tried, the same one is found. -/
theorem findRouteIn_perm (htable : table.Perm routes) :
    findRouteIn table method path = findRoute? method path := by
  have hsame : findRoute? method path = findRouteIn routes method path := rfl
  refine Option.ext fun found => ?_
  rw [hsame, findRouteIn_eq_some_iff fun r => htable.mem_iff.1, findRouteIn_eq_some_iff fun r => id,
    htable.mem_iff]

/-- **Dispatch**: a request goes to the route that its path reads as, if there is one. -/
theorem find_eq_found_iff_isReading :
    find method path = .found route params
      ↔ route ∈ routes ∧ route.method = method ∧ IsReading route.path path.toList params := by
  have hsame : findRoute? method path = findRouteIn routes method path := rfl
  rw [find_eq_found_iff, hsame, findRouteIn_eq_some_iff fun r => id]
  refine and_congr_right fun hmem => and_congr_right fun _ => ?_
  exact Route.params?_eq_some_iff (isPlain_of_mem_routes _ hmem)

end

/-! ## Scopes -/

/-- The way in which an endpoint names tenants, if it is about one. -/
def Endpoint.scope? : Endpoint → Option Scope
  | health | authenticate | create | describe => none
  | list scope | get scope | revoke scope | revokeTenant scope => some scope

/-- The routes of accounts are shorter than those of services. -/
theorem length_of_scope? : ∀ route ∈ routes,
    (route.endpoint.scope? = some .account → route.path.length ≤ 5)
      ∧ (route.endpoint.scope? = some .service → 7 ≤ route.path.length) := by
  decide

/-- **Unambiguous routing**: whatever the method and the path, two routes with this
method whose patterns spell the path are the same, so that the first match is the same
in every order of the routes. The request goes to a route if and only if there is one
that fits, with the parameters as long as they can be. These are the segments of the
path at the parameters of the route. Below the administrative path, three or more
segments do not lead to an account and one or two do not lead to a service. -/
theorem routing_is_unambiguous (method path : String) :
    (∀ r ∈ routes, ∀ r' ∈ routes, r.method = method → r'.method = method →
        (∃ params, Spells r.path path.toList params) →
        (∃ params, Spells r'.path path.toList params) → r = r')
      ∧ (∀ table : List Route, table.Perm routes →
        findRouteIn table method path = findRoute? method path)
      ∧ (∀ route params, find method path = .found route params
        ↔ route ∈ routes ∧ route.method = method ∧ IsReading route.path path.toList params)
      ∧ ∀ route params, find method path = .found route params →
        ∃ segments, pathSegments? path = some segments
          ∧ segments.length = route.path.length
          ∧ params = parametersAt route.path segments
          ∧ ∀ more, segments = "v1" :: "frontend" :: "auth" :: more →
            (3 ≤ more.length → route.endpoint.scope? ≠ some .account)
              ∧ (more.length = 1 ∨ more.length = 2 → route.endpoint.scope? ≠ some .service) := by
  refine ⟨?_, fun table htable => findRouteIn_perm htable,
    fun route params => find_eq_found_iff_isReading, ?_⟩
  · rintro r hr r' hr' rfl hmethod ⟨others, hspells⟩ ⟨others', hspells'⟩
    obtain ⟨params, hparams, -⟩ := r.exists_params?_of_spells (isPlain_of_mem_routes r hr) hspells
    obtain ⟨params', hparams', -⟩ :=
      r'.exists_params?_of_spells (isPlain_of_mem_routes r' hr') hspells'
    exact eq_of_params? hr hr' hmethod.symm hparams hparams'
  · intro route params hfound
    obtain ⟨hmem, -, hparams⟩ := mem_of_findRouteIn (find_eq_found_iff.1 hfound)
    obtain ⟨segments, hsegments, hmatch⟩ := route.matches_of_params? hparams
    refine ⟨segments, hsegments, hmatch.length_eq, hmatch.parametersAt_eq.symm, ?_⟩
    rintro more rfl
    obtain ⟨haccount, hservice⟩ := length_of_scope? route hmem
    have hlength := hmatch.length_eq
    simp only [List.length_cons] at hlength
    refine ⟨fun hmore hscope => ?_, fun hmore hscope => ?_⟩
    · have hshort := haccount hscope
      omega
    · have hlong := hservice hscope
      omega

/-- The words of the longer routes are parameters like any others, and so is a line feed. -/
example : find "GET" "/v1/frontend/auth/service/mode\n"
    = .found ⟨"GET", accountPath ++ [.parameter], .get .account⟩ ["service", "mode\n"] := by
  decide

end Http
end BearerTokens
