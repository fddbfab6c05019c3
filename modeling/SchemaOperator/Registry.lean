import SchemaOperator.Client

/-!
# The Schema Registry server

The other side of the client's wire protocol: a registry as the operator reaches it through
the REST API (`GET /subjects`, `POST /subjects/{s}/versions`,
`GET /subjects/{s}/versions/latest`, `DELETE /subjects/{s}`,
`DELETE /subjects/{s}/versions/{v}` and `PUT /config/{s}`). Each subject holds its versions,
each with its number, its global id and the content it was registered with. Registering a
content already under the subject returns that version's id and adds nothing; a new content
becomes the next version when the registry's compatibility rule accepts it under the subject's
level, and is refused with 409 otherwise. The rule itself, `accepts`, is a parameter: which
changes of an Avro, JSON or Protobuf schema a level allows is the registry's business.

A registry served at a base URL answers under that URL's path: it routes a request on the
segments of the path that follow the base path.

`registerSchema` is `RegisterSchema` against one registry with nothing in between: the POST,
then the GET of the latest version.

Results:
* `serve_subjectRequest`: for a well-formed base URL and a plain subject, each request the
  client builds reaches exactly its endpoint, for exactly that subject.
* `registerSchema_eq`: `RegisterSchema` is the server's registration followed by its latest
  version: the id of the content's version paired with the number of the subject's last version.
* `registerSchema_retry_safe`: `RegisterSchema` files the content under exactly its subject and
  touches no other; once it has reported an id, the same call again reports the same and leaves
  the registry as it is.
* `subject_path_escapes`: a subject with `/` addresses another kind of resource:
  `DeleteSubject("a/versions/1")` deletes version 1 of `a` and reports success.
* `registerSchema_rollback`: re-registering the content of an older version returns that
  version's id with the number of the latest version, which carries another id.
-/

namespace SchemaOperator

namespace Registry

open Client

/-! ## State -/

/-- One version of a subject: its number, its global id and the content registered. -/
structure Version where
  version : Nat
  id : Int
  content : RegisterSchemaRequest
deriving DecidableEq, Repr

/-- The value filed under `key`; an earlier entry shadows a later one. -/
def lookup {β : Type} (key : List Char) : List (List Char × β) → Option β
  | [] => none
  | (k, v) :: rest => if k = key then some v else lookup key rest

/-- A registry: the versions of each subject, the compatibility level set for each, the global
level, and the next global id. -/
structure Server where
  subjects : List (List Char × List Version)
  config : List (List Char × String)
  global : String
  nextId : Int
deriving DecidableEq, Repr

/-- A registry with no subject, at the default global level. -/
def Server.empty : Server := ⟨[], [], "BACKWARD", 1⟩

/-- The versions of a subject; none for an unknown subject. -/
def Server.versions (srv : Server) (s : List Char) : List Version :=
  (lookup s srv.subjects).getD []

/-- The subject's versions replaced. -/
def Server.setVersions (srv : Server) (s : List Char) (vs : List Version) : Server :=
  { srv with subjects := (s, vs) :: srv.subjects }

/-- The compatibility level a subject's registrations are checked under. -/
def Server.level (srv : Server) (s : List Char) : String :=
  (lookup s srv.config).getD srv.global

/-- The subjects with at least one version. -/
def Server.names (srv : Server) : List (List Char) :=
  (srv.subjects.map (·.1)).dedup.filter fun s => srv.versions s ≠ []

@[simp] theorem versions_setVersions (srv : Server) (s t : List Char) (vs : List Version) :
    (srv.setVersions s vs).versions t = if s = t then vs else srv.versions t := by
  by_cases h : s = t <;> simp [Server.setVersions, Server.versions, lookup, h]

/-- The registry's compatibility rule: whether a content may follow the contents of the
subject's versions under a level. -/
abbrev Accepts := String → List RegisterSchemaRequest → RegisterSchemaRequest → Bool

/-- The levels `PUT /config/{subject}` accepts. -/
def levels : List String :=
  ["BACKWARD", "BACKWARD_TRANSITIVE", "FORWARD", "FORWARD_TRANSITIVE", "FULL",
    "FULL_TRANSITIVE", "NONE"]

/-! ## Responses -/

/-- Error 40401. -/
def subjectNotFound : Response := ⟨404, .error 40401 "Subject not found."⟩

/-- Error 40402. -/
def versionNotFound : Response := ⟨404, .error 40402 "Version not found."⟩

/-- A path no endpoint serves. -/
def routeNotFound : Response := ⟨404, .error 404 "HTTP 404 Not Found"⟩

/-- Error 409 of a registration the compatibility rule refuses. -/
def incompatible : Response :=
  ⟨409, .error 409 "Schema being registered is incompatible with an earlier schema"⟩

/-- Error 42201. -/
def invalidSchema : Response := ⟨422, .error 42201 "Invalid schema"⟩

/-- Error 42202. -/
def invalidVersion : Response := ⟨422, .error 42202 "The specified version is not a valid version id"⟩

/-- Error 42203. -/
def invalidLevel : Response := ⟨422, .error 42203 "Invalid compatibility level"⟩

/-! ## Endpoints -/

/-- `POST /subjects/{s}/versions`. -/
def Server.register (accepts : Accepts) (srv : Server) (s : List Char)
    (content : RegisterSchemaRequest) : Response × Server :=
  let vs := srv.versions s
  match vs.find? (·.content == content) with
  | some v => (⟨200, .id v.id⟩, srv)
  | none =>
    if accepts (srv.level s) (vs.map (·.content)) content then
      let v : Version := ⟨(vs.getLast?.map (·.version)).getD 0 + 1, srv.nextId, content⟩
      (⟨200, .id srv.nextId⟩, { srv.setVersions s (vs ++ [v]) with nextId := srv.nextId + 1 })
    else (incompatible, srv)

/-- `GET /subjects/{s}/versions/latest`. -/
def Server.latest (srv : Server) (s : List Char) : Response :=
  match (srv.versions s).getLast? with
  | none => subjectNotFound
  | some v => ⟨200, .schema ⟨v.id, v.version, v.content.schema⟩⟩

/-- `DELETE /subjects/{s}`: every version goes, and their numbers are returned. -/
def Server.deleteSubject (srv : Server) (s : List Char) : Response × Server :=
  match srv.versions s with
  | [] => (subjectNotFound, srv)
  | vs => (⟨200, .versions (vs.map fun v => (v.version : Int))⟩, srv.setVersions s [])

/-- The number a version segment spells, when it is all digits. -/
def natOf (cs : List Char) : Option Nat :=
  if cs ≠ [] ∧ cs.all URL.isDigit then some (cs.foldl (fun n c => 10 * n + (c.toNat - 48)) 0)
  else none

/-- `DELETE /subjects/{s}/versions/{v}`, `v` a number or `latest`. -/
def Server.deleteVersion (srv : Server) (s v : List Char) : Response × Server :=
  let vs := srv.versions s
  if vs = [] then (subjectNotFound, srv)
  else
    let n := if v = "latest".toList then vs.getLast?.map (·.version) else natOf v
    match n with
    | none => (invalidVersion, srv)
    | some n =>
      if vs.any (·.version == n) then
        (⟨200, .number n⟩, srv.setVersions s (vs.filter (·.version != n)))
      else (versionNotFound, srv)

/-- `PUT /config/{s}`. -/
def Server.setConfig (srv : Server) (s : List Char) : Body → Response × Server
  | .compatibility level =>
    if level ∈ levels then (⟨200, .compatibility level⟩, { srv with config := (s, level) :: srv.config })
    else (invalidLevel, srv)
  | _ => (invalidLevel, srv)

/-- The endpoint a request's method and path segments select. -/
inductive Route where
  | listSubjects
  | register (s : List Char)
  | latest (s : List Char)
  | deleteSubject (s : List Char)
  | deleteVersion (s v : List Char)
  | setConfig (s : List Char)
  | unknown
deriving DecidableEq, Repr

/-- The registry's routing table. -/
def route : Method → List (List Char) → Route
  | .get, [a] => if a = "subjects".toList then .listSubjects else .unknown
  | .post, [a, s, b] =>
    if a = "subjects".toList ∧ b = "versions".toList then .register s else .unknown
  | .get, [a, s, b, l] =>
    if a = "subjects".toList ∧ b = "versions".toList ∧ l = "latest".toList then .latest s
    else .unknown
  | .delete, [a, s] => if a = "subjects".toList then .deleteSubject s else .unknown
  | .delete, [a, s, b, v] =>
    if a = "subjects".toList ∧ b = "versions".toList then .deleteVersion s v else .unknown
  | .put, [a, s] => if a = "config".toList then .setConfig s else .unknown
  | _, _ => .unknown

/-- What a routed request does. -/
def Server.handle (accepts : Accepts) (srv : Server) : Route → Body → Response × Server
  | .listSubjects, _ => (⟨200, .subjects (srv.names.map String.mk)⟩, srv)
  | .register s, .register content => srv.register accepts s content
  | .register _, _ => (invalidSchema, srv)
  | .latest s, _ => (srv.latest s, srv)
  | .deleteSubject s, _ => srv.deleteSubject s
  | .deleteVersion s v, _ => srv.deleteVersion s v
  | .setConfig s, body => srv.setConfig s body
  | .unknown, _ => (routeNotFound, srv)

/-- The path of the base URL a registry is served at; empty when it does not parse. -/
def basePath (base : String) : List Char :=
  match URL.parse base.toList with
  | .ok u => u.path
  | .error _ => []

/-- The rest of `path` after the prefix `pre`. -/
def relative (pre path : List Char) : Option (List Char) :=
  if pre.isPrefixOf path then some (path.drop pre.length) else none

/-- The registry served at `base` answers a request. -/
def serve (accepts : Accepts) (base : String) (srv : Server) (r : Request) : Response × Server :=
  match relative (basePath base) r.url.path with
  | none => (routeNotFound, srv)
  | some p => srv.handle accepts (route r.method (URL.segments p)) r.body

/-! ## Where the client's requests land -/

/-- The route of an endpoint's request for subject `s`. -/
def routeOf (s : List Char) : Endpoint → Route
  | .versions => .register s
  | .latest => .latest s
  | .subject => .deleteSubject s
  | .config => .setConfig s

theorem route_endpoint (s : List Char) (e : Endpoint) :
    route e.method (e.segments s) = routeOf s e := by
  cases e <;> simp [route, routeOf, Endpoint.method, Endpoint.segments]

theorem relative_append (pre t : List Char) : relative pre (pre ++ t) = some t := by
  simp [relative, List.isPrefixOf_iff_prefix]

/-- For a well-formed base URL and a plain subject, every request the client builds reaches
exactly its endpoint for exactly that subject, with the body it was built with. -/
theorem serve_subjectRequest (accepts : Accepts) (b : URL.BaseURL) (c : SchemaRegistryClient)
    (hc : c.baseURL.toList = b.render) {s : String} (hs : ∀ ch ∈ s.toList, URL.plainChar ch = true)
    (request : RegisterSchemaRequest) (level : String) (e : Endpoint) :
    ∃ r, c.subjectRequest s request level e = .ok r ∧ ∀ srv,
      serve accepts c.baseURL srv r = srv.handle accepts (routeOf s.toList e) (e.body request level) := by
  obtain ⟨r, hr, -, -, -, hpath, hm, hb⟩ := subjectRequest_url b c hc hs request level e
  refine ⟨r, hr, fun srv => ?_⟩
  have hbase : basePath c.baseURL = b.path := by rw [basePath, hc, URL.parse_render]
  have hseg : URL.segments (URL.pathOf (e.segments s.toList)) = e.segments s.toList := by
    have noSlash : '/' ∉ s.data := fun m => by simpa [URL.plainChar] using hs '/' m
    exact URL.segments_pathOf (by cases e <;> simp [Endpoint.segments])
      (by cases e <;> simp [Endpoint.segments, noSlash])
  simp only [serve, hbase, hpath, relative_append, hseg, hm, hb, route_endpoint]

/-! ## What a request does to the other subjects -/

@[simp] theorem versions_nextId (srv : Server) (n : Int) (t : List Char) :
    ({ srv with nextId := n } : Server).versions t = srv.versions t := rfl

@[simp] theorem versions_config (srv : Server) (cfg : List (List Char × String)) (t : List Char) :
    ({ srv with config := cfg } : Server).versions t = srv.versions t := rfl

theorem register_ne_nil (accepts : Accepts) (srv : Server) (s t : List Char)
    (content : RegisterSchemaRequest) (ht : srv.versions t ≠ []) :
    (srv.register accepts s content).2.versions t ≠ [] := by
  dsimp only [Server.register]
  split
  · exact ht
  · split_ifs
    · change (srv.setVersions s _).versions t ≠ []
      by_cases e : s = t
      · subst e; simp
      · simpa [e] using ht
    · exact ht

theorem register_ok (accepts : Accepts) (srv : Server) (s : List Char)
    (content : RegisterSchemaRequest) (h : (srv.register accepts s content).1.statusCode = 200) :
    (srv.register accepts s content).2.versions s ≠ [] := by
  dsimp only [Server.register] at h ⊢
  rcases hv : (srv.versions s).find? (·.content == content) with _ | v <;> simp only [hv] at h ⊢
  · split_ifs at h ⊢
    · change (srv.setVersions s _).versions s ≠ []
      simp
    · cases h
  · exact List.ne_nil_of_mem (List.mem_of_find?_eq_some hv)

theorem register_files (accepts : Accepts) (srv : Server) (s : List Char)
    (content : RegisterSchemaRequest) {r : Response} {srv' : Server}
    (h : srv.register accepts s content = (r, srv')) (hok : r.statusCode = 200) :
    ∃ v, (srv'.versions s).find? (·.content == content) = some v ∧ r = ⟨200, .id v.id⟩ := by
  rcases hv : (srv.versions s).find? (·.content == content) with _ | v
  · by_cases ha : accepts (srv.level s) ((srv.versions s).map (·.content)) content
    · simp only [Server.register, hv, ha, if_true, Prod.mk.injEq] at h
      obtain ⟨rfl, rfl⟩ := h
      simp [List.find?_append, hv]
    · simp only [Server.register, hv, ha, Bool.false_eq_true, if_false, Prod.mk.injEq] at h
      rw [← h.1] at hok
      cases hok
  · simp only [Server.register, hv, Prod.mk.injEq] at h
    obtain ⟨rfl, rfl⟩ := h
    exact ⟨v, hv, rfl⟩

theorem register_again (accepts : Accepts) (srv : Server) (s : List Char)
    (content : RegisterSchemaRequest) {r : Response} {srv' : Server}
    (h : srv.register accepts s content = (r, srv')) (hok : r.statusCode = 200) :
    srv'.register accepts s content = (r, srv') := by
  obtain ⟨v, hv, rfl⟩ := register_files accepts srv s content h hok
  simp only [Server.register, hv]

theorem register_versions_ne (accepts : Accepts) (srv : Server) {s t : List Char}
    (content : RegisterSchemaRequest) (ht : t ≠ s) :
    (srv.register accepts s content).2.versions t = srv.versions t := by
  dsimp only [Server.register]
  split
  · rfl
  · split_ifs
    · change (srv.setVersions s _).versions t = _
      simp [Ne.symm ht]
    · rfl

theorem handle_routeOf_ne_nil (accepts : Accepts) (srv : Server) (s t : List Char) (e : Endpoint)
    (body : Body) (ht : srv.versions t ≠ []) (hdel : e = .subject → s ≠ t) :
    (srv.handle accepts (routeOf s e) body).2.versions t ≠ [] := by
  cases e with
  | versions =>
    cases body <;> simp only [routeOf, Server.handle]
    all_goals first | exact ht | exact register_ne_nil accepts srv s t _ ht
  | latest => exact ht
  | subject =>
    simp only [routeOf, Server.handle, Server.deleteSubject]
    split
    · exact ht
    · simpa [hdel rfl] using ht
  | config =>
    cases body <;> simp only [routeOf, Server.handle, Server.setConfig]
    all_goals first | exact ht | skip
    split_ifs
    · simpa using ht
    · exact ht

end Registry

/-! ## `RegisterSchema` against one registry -/

open Registry in
/-- `RegisterSchema` with nothing between its two round trips: the POST, and when it answered
200 with an id, the GET of the latest version (best effort). -/
def Client.SchemaRegistryClient.registerSchema (accepts : Accepts) (srv : Server)
    (c : Client.SchemaRegistryClient) (subject : String) (request : Client.RegisterSchemaRequest) :
    Except String Client.SchemaResponse × Server :=
  match c.registerSchemaRequest subject request with
  | .error e => (.error e, srv)
  | .ok post =>
    let (resp, srv) := serve accepts c.baseURL srv post
    match Client.registerResult (.ok resp) with
    | .error e => (.error e, srv)
    | .ok id =>
      match c.latestVersionRequest subject with
      | .error e => (.ok (Client.registerSchemaResponse id (.error e)), srv)
      | .ok get =>
        let (resp, srv) := serve accepts c.baseURL srv get
        (.ok (Client.registerSchemaResponse id (Client.latestVersionResult (.ok resp))), srv)

namespace Registry

open Client

/-- `RegisterSchema` is the server's registration followed by its latest version. -/
theorem registerSchema_eq (accepts : Accepts) (b : URL.BaseURL) (c : SchemaRegistryClient)
    (hc : c.baseURL.toList = b.render) {s : String} (hs : ∀ ch ∈ s.toList, URL.plainChar ch = true)
    (request : RegisterSchemaRequest) (srv : Server) :
    c.registerSchema accepts srv s request =
      let (resp, srv') := srv.register accepts s.toList request
      match registerResult (.ok resp) with
      | .error e => (.error e, srv')
      | .ok id => (.ok (registerSchemaResponse id (latestVersionResult (.ok (srv'.latest s.toList)))), srv') := by
  obtain ⟨post, hpost, hserve⟩ := serve_subjectRequest accepts b c hc hs request "" .versions
  obtain ⟨get, hget, hserve'⟩ := serve_subjectRequest accepts b c hc hs request "" .latest
  simp only [SchemaRegistryClient.subjectRequest] at hpost hget
  simp only [SchemaRegistryClient.registerSchema, hpost, hget, hserve, hserve', routeOf,
    Endpoint.body, Server.handle]

/-- `RegisterSchema` files the content under exactly the subject it names, and is safe to retry:
once it has reported an id, that subject has a version with the content and the id, no other
subject has changed, and the same call again reports the same and leaves the registry as it is. -/
theorem registerSchema_retry_safe (accepts : Accepts) (b : URL.BaseURL) (c : SchemaRegistryClient)
    (hc : c.baseURL.toList = b.render) {s : String} (hs : ∀ ch ∈ s.toList, URL.plainChar ch = true)
    (request : RegisterSchemaRequest) (srv : Server) {resp : SchemaResponse} {srv' : Server}
    (h : c.registerSchema accepts srv s request = (.ok resp, srv')) :
    (∃ v ∈ srv'.versions s.toList, v.content = request ∧ v.id = resp.id) ∧
    (∀ t, t ≠ s.toList → srv'.versions t = srv.versions t) ∧
    c.registerSchema accepts srv' s request = (.ok resp, srv') := by
  rw [registerSchema_eq accepts b c hc hs] at h ⊢
  rcases hr : srv.register accepts s.toList request with ⟨r, srv1⟩
  cases hid : registerResult (.ok r) with
  | error e =>
    simp only [hr, hid, Prod.mk.injEq] at h
    cases h.1
  | ok id =>
    simp only [hr, hid, Prod.mk.injEq, Except.ok.injEq] at h
    obtain ⟨rfl, rfl⟩ := h
    obtain ⟨_, ⟨⟩, h200⟩ := registerResult_ok hid
    have hagain := register_again accepts srv _ request hr h200
    obtain ⟨v, hv, rfl⟩ := register_files accepts srv _ request hr h200
    obtain rfl : v.id = id := by simpa [registerResult, RespBody.decodeID] using hid
    refine ⟨⟨v, List.mem_of_find?_eq_some hv, by simpa using List.find?_some hv, by simp⟩,
      fun t ht => by rw [← register_versions_ne accepts srv request ht, hr], ?_⟩
    simp only [hagain, hid]

/-- The client of the examples registers under `users-value`. -/
def usersValue : String := "users-value"

/-- Two Avro contents. -/
def schemaV1 : RegisterSchemaRequest := ⟨"{}", "AVRO", []⟩

/-- The second content. -/
def schemaV2 : RegisterSchemaRequest := ⟨"[]", "AVRO", []⟩

/-- `users-value` with version 1 (id 1, `schemaV1`) and version 2 (id 2, `schemaV2`). -/
def rolledForward : Server :=
  ⟨[(usersValue.toList, [⟨1, 1, schemaV1⟩, ⟨2, 2, schemaV2⟩])], [], "BACKWARD", 3⟩

/-- Rolling back to version 1's content: `RegisterSchema` answers id 1 with version 2, and
version 2 has id 2. -/
theorem registerSchema_rollback :
    (exampleClient.registerSchema (fun _ _ _ => true) rolledForward usersValue schemaV1).1.toOption =
        some ⟨1, 2, ""⟩ ∧
      ((rolledForward.versions usersValue.toList).find? (·.version == 2)).map (·.id) = some 2 := by
  decide

/-- `users-value` once `schemaV1` is registered on an empty registry. -/
def usersOnce : Server := ⟨[(usersValue.toList, [⟨1, 1, schemaV1⟩])], [], "BACKWARD", 2⟩

/-- Registering `schemaV1` under `users-value` on an empty registry, then once more. -/
theorem registerSchema_retry_users :
    (∃ v ∈ usersOnce.versions usersValue.toList, v.content = schemaV1 ∧ v.id = 1) ∧
    (∀ t, t ≠ usersValue.toList → usersOnce.versions t = Server.empty.versions t) ∧
    exampleClient.registerSchema (fun _ _ _ => true) usersOnce usersValue schemaV1 =
      (.ok ⟨1, 1, ""⟩, usersOnce) :=
  registerSchema_retry_safe (fun _ _ _ => true) exampleBase exampleClient (by decide) (by decide)
    schemaV1 Server.empty (by decide : exampleClient.registerSchema (fun _ _ _ => true) Server.empty
      usersValue schemaV1 = (.ok ⟨1, 1, ""⟩, usersOnce))

/-- `a` at versions 1 and 2, and `a/versions/1`, registered by a client that escapes it, at
version 1. -/
def escapeServer : Server :=
  ⟨[("a".toList, [⟨1, 1, schemaV1⟩, ⟨2, 2, schemaV2⟩]), ("a/versions/1".toList, [⟨1, 3, schemaV1⟩])],
    [], "BACKWARD", 4⟩

/-- The subject goes into the path unescaped: `DeleteSubject("a/versions/1")` reports success,
yet the subject it names keeps all its versions and version 1 of `a` is gone. And no request can
be built to register `50%off`. -/
theorem subject_path_escapes :
    ((exampleClient.deleteSubjectRequest "a/versions/1").map fun r =>
        let (resp, srv) := serve (fun _ _ _ => true) exampleClient.baseURL escapeServer r
        (deleteSubjectResult (.ok resp), srv.versions "a".toList,
          srv.versions "a/versions/1".toList)).toOption =
      some (.ok (), [⟨2, 2, schemaV2⟩], [⟨1, 3, schemaV1⟩]) ∧
    (exampleClient.registerSchemaRequest "50%off" ⟨"x", "AVRO", []⟩).toOption = none := by
  decide

end Registry

end SchemaOperator
