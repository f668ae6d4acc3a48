/-
BearerTokens.Proofs.Addresses — the paths that tenants are addressed by.

`pathOf` puts segments together and `encodedPathOf` percent-encodes each of
them. A path is decoded as a whole before it is cut, so a request finds the
segments again only if no slash is in them: `pathSegments?_pathOf` needs this
of every segment, and `slash_not_mem_of_pathSegments?` says that nothing that is
found holds one. A mode that is known holds none, so what remains is whether
the name of the account or of the service does.

`find_account` and `find_service` look the routes up. They are tried one after
the other, and those that come first have more segments or other literals.
-/
import BearerTokens.Proofs.PercentRoundTrip
import BearerTokens.Proofs.Routing
import Mathlib.Data.List.TakeWhile

namespace BearerTokens

/-! ## Cutting -/

namespace Text

theorem splitAt_of_not_mem {c : Char} {piece : List Char} (h : c ∉ piece) :
    splitAt c piece = [piece] := by
  induction piece with
  | nil => rfl
  | cons d rest ih =>
    rw [List.mem_cons, not_or] at h
    have hne : (d == c) = false := by simpa using fun he => h.1 he.symm
    rw [splitAt, ih h.2, hne]
    rfl

theorem splitAt_append {c : Char} {piece : List Char} (h : c ∉ piece) (rest : List Char) :
    splitAt c (piece ++ c :: rest) = piece :: splitAt c rest := by
  induction piece with
  | nil => simp [splitAt]
  | cons d more ih =>
    rw [List.mem_cons, not_or] at h
    have hne : (d == c) = false := by simpa using fun he => h.1 he.symm
    rw [List.cons_append, splitAt, ih h.2, hne]
    rfl

theorem not_mem_of_mem_splitAt {c : Char} {cs piece : List Char} (h : piece ∈ splitAt c cs) :
    c ∉ piece := by
  induction cs generalizing piece with
  | nil =>
    rw [splitAt, List.mem_singleton] at h
    rw [h]
    exact List.not_mem_nil
  | cons d rest ih =>
    rw [splitAt] at h
    split at h
    · rcases List.mem_cons.1 h with rfl | h
      · exact List.not_mem_nil
      · exact ih h
    · rename_i hne
      split at h
      · rename_i first more hsplit
        rw [hsplit] at ih
        rcases List.mem_cons.1 h with rfl | h
        · rw [List.mem_cons, not_or]
          refine ⟨fun he => hne (by simp [he]), ih List.mem_cons_self⟩
        · exact ih (List.mem_cons_of_mem _ h)
      · rename_i hsplit
        exact absurd hsplit (splitAt_ne_nil c rest)

end Text

/-- The text of a mode holds no slash. -/
theorem Mode.slash_not_mem {text : String} {mode : Mode} (h : Mode.ofText text = .ok mode) :
    '/' ∉ text.toList := by
  have hname : Tag.name mode = Tag.normalise text := by
    unfold Mode.ofText at h
    split at h
    · rename_i parsed hparse
      cases h
      exact Tag.name_of_named? hparse
    · cases h
  intro hmem
  have hstrip : '/' ∈ (Text.strip text).toList := by
    rw [Text.toList_strip]
    exact Text.mem_trimChars hmem (by decide)
  have hupper : '/' ∈ (Tag.normalise text).toList := by
    rw [Tag.normalise, Text.toList_upper]
    exact List.mem_flatMap.2 ⟨'/', hstrip, by decide⟩
  rw [← hname] at hupper
  cases mode <;> exact absurd hupper (by decide)

/-- Nor is it empty. -/
theorem Mode.ne_empty {text : String} {mode : Mode} (h : Mode.ofText text = .ok mode) :
    text ≠ "" := by
  rintro rfl
  cases h

namespace Http

/-! ## Paths -/

/-- The path of segments. -/
def pathOf (segments : List String) : String :=
  String.ofList (segments.flatMap fun s => '/' :: s.toList)

/-- The path of segments as it is sent. -/
def encodedPathOf (segments : List String) : String :=
  pathOf (segments.map Text.percentEncode)

/-- The path of an account as it is sent. -/
theorem encodedPathOf_account (id : String) :
    encodedPathOf ["v1", "frontend", "auth", id]
      = "/v1/frontend/auth/" ++ Text.percentEncode id := by
  have h1 : Text.percentEncode "v1" = "v1" := by decide
  have h2 : Text.percentEncode "frontend" = "frontend" := by decide
  have h3 : Text.percentEncode "auth" = "auth" := by decide
  rw [← String.toList_inj, String.toList_append, encodedPathOf, pathOf, String.toList_ofList]
  simp only [List.map_cons, List.map_nil, h1, h2, h3, List.flatMap_cons, List.flatMap_nil,
    List.append_nil]
  rfl

/-- The path of a service in a mode as it is sent. -/
theorem encodedPathOf_service (id text : String) :
    encodedPathOf ["v1", "frontend", "auth", "service", id, "mode", text]
      = "/v1/frontend/auth/service/" ++ Text.percentEncode id ++ "/mode/"
        ++ Text.percentEncode text := by
  have h1 : Text.percentEncode "v1" = "v1" := by decide
  have h2 : Text.percentEncode "frontend" = "frontend" := by decide
  have h3 : Text.percentEncode "auth" = "auth" := by decide
  have h4 : Text.percentEncode "service" = "service" := by decide
  have h5 : Text.percentEncode "mode" = "mode" := by decide
  rw [← String.toList_inj, String.toList_append, String.toList_append, String.toList_append,
    encodedPathOf, pathOf, String.toList_ofList]
  simp only [List.map_cons, List.map_nil, h1, h2, h3, h4, h5, List.flatMap_cons, List.flatMap_nil,
    List.append_nil, List.append_assoc]
  rfl

theorem encode_pathOf (segments : List String) :
    Text.encode (pathOf segments) = segments.flatMap fun s => 0x2F :: Text.encode s := by
  rw [Text.encode, pathOf, String.toList_ofList, List.flatMap_assoc]
  rfl

/-- **Paths**: what is sent is decoded again. -/
theorem percentDecode_encodedPathOf (segments : List String) :
    Text.percentDecode (encodedPathOf segments) = pathOf segments := by
  have hbytes : Text.percentDecodeBytes (Text.encode (encodedPathOf segments))
      = Text.encode (pathOf segments) := by
    rw [encodedPathOf, encode_pathOf, encode_pathOf, List.flatMap_map]
    induction segments with
    | nil => rfl
    | cons s rest ih =>
      rw [List.flatMap_cons, List.cons_append, Text.percentDecodeBytes_cons (by decide),
        Text.percentDecodeBytes_percentEncode, ih, List.flatMap_cons, List.cons_append]
  rw [Text.percentDecode, hbytes, Text.decodeLossy_encode]

/-- The query does not start in the path. -/
theorem ne_mark_of_mem_encodedPathOf {segments : List String} {c : Char}
    (hc : c ∈ (encodedPathOf segments).toList) : (c != '?') = true := by
  rw [bne_iff_ne]
  rintro rfl
  rw [encodedPathOf, pathOf, String.toList_ofList] at hc
  obtain ⟨s, hs, hc⟩ := List.mem_flatMap.1 hc
  obtain ⟨raw, -, rfl⟩ := List.mem_map.1 hs
  rcases List.mem_cons.1 hc with hc | hc
  · exact absurd hc (by decide)
  · exact Text.mark_not_mem_percentEncode raw hc

/-- The target of a request is a path and a query. -/
theorem path_of_target {r : Request} {segments : List String} {query : String}
    (h : r.target = encodedPathOf segments ++ "?" ++ query) :
    r.path = pathOf segments ∧ r.query = query := by
  have htarget : r.target.toList = (encodedPathOf segments).toList ++ '?' :: query.toList := by
    rw [h, String.toList_append, String.toList_append, List.append_assoc]
    rfl
  constructor
  · rw [Request.path, htarget, List.takeWhile_append_of_pos fun _ => ne_mark_of_mem_encodedPathOf]
    simp [percentDecode_encodedPathOf]
  · rw [Request.query, htarget, List.dropWhile_append_of_pos fun _ => ne_mark_of_mem_encodedPathOf]
    simp

/-- Or a path alone. -/
theorem path_of_target_eq {r : Request} {segments : List String}
    (h : r.target = encodedPathOf segments) : r.path = pathOf segments := by
  rw [Request.path, h, List.takeWhile_eq_self_iff.2 fun _ => ne_mark_of_mem_encodedPathOf,
    String.ofList_toList, percentDecode_encodedPathOf]

/-! ## Segments -/

theorem splitAt_flatMap {s : String} {segments : List String} (hs : '/' ∉ s.toList)
    (h : ∀ s ∈ segments, '/' ∉ s.toList) :
    Text.splitAt '/' (s.toList ++ segments.flatMap fun s => '/' :: s.toList)
      = s.toList :: segments.map String.toList := by
  induction segments generalizing s with
  | nil => rw [List.flatMap_nil, List.append_nil, Text.splitAt_of_not_mem hs, List.map_nil]
  | cons next rest ih =>
    obtain ⟨hnext, hrest⟩ := List.forall_mem_cons.1 h
    rw [List.flatMap_cons, List.cons_append, Text.splitAt_append hs, ih hnext hrest, List.map_cons]

/-- **Segments** without slashes are found again. -/
theorem pathSegments?_pathOf {segments : List String} (h : ∀ s ∈ segments, '/' ∉ s.toList) :
    pathSegments? (pathOf segments) = some segments := by
  have hsplit : Text.splitAt '/' (pathOf segments).toList = [] :: segments.map String.toList := by
    have hempty : '/' ∉ "".toList := by decide
    have hcut := splitAt_flatMap hempty h
    rw [pathOf, String.toList_ofList]
    exact hcut
  rw [pathSegments?, hsplit]
  simp [Function.comp_def]

/-- What is found holds no slash. -/
theorem slash_not_mem_of_pathSegments? {path : String} {segments : List String}
    (h : pathSegments? path = some segments) : ∀ s ∈ segments, '/' ∉ s.toList := by
  intro s hs
  unfold pathSegments? at h
  split at h
  · rename_i pieces hsplit
    cases h
    obtain ⟨piece, hpiece, rfl⟩ := List.mem_map.1 hs
    rw [String.toList_ofList]
    exact Text.not_mem_of_mem_splitAt (hsplit ▸ List.mem_cons_of_mem _ hpiece)
  · cases h

/-- Parameters are segments. -/
theorem Matches.mem_of_mem_params {route : List Segment} {path params : List String}
    (h : Matches route path params) {s : String} (hs : s ∈ params) : s ∈ path := by
  induction h with
  | nil | line => cases hs
  | literal _ _ ih => exact List.mem_cons_of_mem _ (ih hs)
  | parameter _ _ ih =>
    rcases List.mem_cons.1 hs with rfl | hs
    · exact List.mem_cons_self
    · exact List.mem_cons_of_mem _ (ih hs)

/-! ## Routes -/

section

variable {path id text : String}

/-- The route to an account. -/
theorem find_account (hid : id ≠ "")
    (hpath : pathSegments? path = some ["v1", "frontend", "auth", id]) :
    find "GET" path = .found ⟨"GET", accountPath, .list .account⟩ [id]
      ∧ find "DELETE" path = .found ⟨"DELETE", accountPath, .revoke .account⟩ [id] := by
  have hne : id.isEmpty = false := by simpa using hid
  constructor
  · simp [find, findRoute?, routes, Route.params?, hpath, matchSegments, adminPath, servicePath,
      accountPath, hne]
  · simp [find, findRoute?, routes, Route.params?, hpath, matchSegments, adminPath, servicePath,
      accountPath, hne]

/-- The route to a service. -/
theorem find_service (hid : id ≠ "") (htext : text ≠ "")
    (hpath : pathSegments? path
      = some ["v1", "frontend", "auth", "service", id, "mode", text]) :
    find "GET" path = .found ⟨"GET", servicePath, .list .service⟩ [id, text]
      ∧ find "DELETE" path = .found ⟨"DELETE", servicePath, .revoke .service⟩ [id, text] := by
  have hne : id.isEmpty = false := by simpa using hid
  have htne : text.isEmpty = false := by simpa using htext
  constructor
  · simp [find, findRoute?, routes, Route.params?, hpath, matchSegments, adminPath, servicePath,
      accountPath, hne, htne]
  · simp [find, findRoute?, routes, Route.params?, hpath, matchSegments, adminPath, servicePath,
      accountPath, hne, htne]

end

end Http
end BearerTokens
