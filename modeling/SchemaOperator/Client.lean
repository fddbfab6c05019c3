import SchemaOperator.Api
import SchemaOperator.Url

/-!
# The Schema Registry HTTP client

`internal/client/client.go`. Each operation is cut where it waits for the network:
a request builder (`fmt.Sprintf` of the URL, `http.NewRequestWithContext`, `addAuth`, the
content type) and a function from the round trip's outcome to the operation's result. The
controllers' passes (`SchemaOperator.SchemaController`) take one step per round trip, so that
other steps may come between the POST of `RegisterSchema` and its follow-up GET.

Bodies are kept decoded: `json.Marshal` of a request and `json.Unmarshal` of a response are the
identity on `Body` and `RespBody`, except that, as in Go, a JSON object decodes into a struct
whatever its fields (missing ones read as zero) while an array or an empty body does not.

Results:
* `request_path`: for a base URL `scheme://host[:port][/path]` and a subject free of `/`, `?`,
  `#`, `%` and control characters, each of the four subject requests is built, has no query or
  fragment, and addresses the base path followed by exactly its segments; distinct (endpoint,
  subject) pairs address distinct paths.
-/

namespace SchemaOperator

namespace Client

/-- Results compare by value, so that a client's results can be checked by `decide`. -/
instance instDecidableEqExcept {ε α : Type} [DecidableEq ε] [DecidableEq α] :
    DecidableEq (Except ε α)
  | .ok a, .ok b => if h : a = b then isTrue (h ▸ rfl) else isFalse fun e => h (by cases e; rfl)
  | .error a, .error b => if h : a = b then isTrue (h ▸ rfl) else isFalse fun e => h (by cases e; rfl)
  | .ok _, .error _ => isFalse nofun
  | .error _, .ok _ => isFalse nofun

/-! ## Credentials and the client -/

/-- `tls.Certificate`, kept as the two PEM blocks `tls.X509KeyPair` accepted. -/
structure Certificate where
  certPEM : String
  keyPEM : String
deriving DecidableEq, Repr

/-- `*x509.CertPool`: the PEM data appended to it. -/
structure CertPool where
  pems : List String
deriving DecidableEq, Repr

/-- `client.AuthConfig`. `clientCert` is the zero certificate unless the type is `MTLS`. -/
structure AuthConfig where
  type : String
  username : String
  password : String
  bearerToken : String
  clientCert : Certificate
  caCert : Option CertPool
deriving DecidableEq, Repr

/-- The `tls.Config` fields `NewClient` sets. -/
structure TLSConfig where
  insecureSkipVerify : Bool
  certificates : List Certificate
  rootCAs : Option CertPool
deriving DecidableEq, Repr

/-- `http.Client` with its transport's TLS configuration; `timeout` is a `time.Duration`. -/
structure HttpClient where
  timeout : Int
  tlsClientConfig : TLSConfig
deriving DecidableEq, Repr

/-- `SchemaRegistryClient`. -/
structure SchemaRegistryClient where
  baseURL : String
  httpClient : HttpClient
  auth : AuthConfig
deriving DecidableEq, Repr

/-- `NewClient`: the client certificate and CA pool go into the TLS configuration for `MTLS`.
It never fails. -/
def newClient (baseURL : String) (auth : AuthConfig) (timeout : Int) (insecureSkipVerify : Bool) :
    Except String SchemaRegistryClient :=
  let tlsConfig : TLSConfig :=
    if auth.type = "MTLS" then ⟨insecureSkipVerify, [auth.clientCert], auth.caCert⟩
    else ⟨insecureSkipVerify, [], none⟩
  .ok ⟨baseURL, ⟨timeout, tlsConfig⟩, auth⟩

/-! ## Requests -/

/-- `http.MethodGet` and the others the client uses. -/
inductive Method where
  | get
  | post
  | put
  | delete
deriving DecidableEq, Repr

/-- `SchemaReference` of the client package. -/
structure SchemaReference where
  name : String
  subject : String
  version : Int
deriving DecidableEq, Repr

/-- `RegisterSchemaRequest`. -/
structure RegisterSchemaRequest where
  schema : String
  schemaType : String
  references : List SchemaReference
deriving DecidableEq, Repr

/-- A request body, before `json.Marshal`. -/
inductive Body where
  | none
  | register (r : RegisterSchemaRequest)
  | compatibility (level : String)
deriving DecidableEq, Repr

/-- `*http.Request`: the method, the parsed URL, the headers and the body. -/
structure Request where
  method : Method
  url : URL
  header : List (String × String)
  body : Body
deriving DecidableEq, Repr

/-- `req.Header.Set`: the key's value replaces any earlier one. -/
def Request.setHeader (r : Request) (key value : String) : Request :=
  { r with header := (key, value) :: r.header.filter (·.1 ≠ key) }

/-- `req.Header.Get`. -/
def Request.getHeader (r : Request) (key : String) : Option String :=
  r.header.lookup key

/-- The alphabet of `base64.StdEncoding`. -/
def base64Alphabet : List Char :=
  "ABCDEFGHIJKLMNOPQRSTUVWXYZabcdefghijklmnopqrstuvwxyz0123456789+/".toList

/-- The character for a 6-bit group. -/
def base64Digit (n : Nat) : Char := base64Alphabet.getD n '='

/-- `base64.StdEncoding.EncodeToString`, with `=` padding. -/
def base64Encode : List UInt8 → List Char
  | a :: b :: c :: rest =>
    let n := a.toNat * 65536 + b.toNat * 256 + c.toNat
    base64Digit (n / 262144) :: base64Digit (n / 4096 % 64) :: base64Digit (n / 64 % 64) ::
      base64Digit (n % 64) :: base64Encode rest
  | [a, b] =>
    let n := a.toNat * 65536 + b.toNat * 256
    [base64Digit (n / 262144), base64Digit (n / 4096 % 64), base64Digit (n / 64 % 64), '=']
  | [a] => [base64Digit (a.toNat * 65536 / 262144), base64Digit (a.toNat * 65536 / 4096 % 64), '=', '=']
  | [] => []

/-- `basicAuth` of `net/http`: base64 of the UTF-8 bytes of `username:password`. -/
def basicAuth (username password : String) : String :=
  ⟨base64Encode (username ++ ":" ++ password).toUTF8.data.toList⟩

example : basicAuth "alice" "secret" = "YWxpY2U6c2VjcmV0" := by decide

/-- `req.SetBasicAuth`. -/
def Request.setBasicAuth (r : Request) (username password : String) : Request :=
  r.setHeader "Authorization" ("Basic " ++ basicAuth username password)

/-- `addAuth`: a header for `BASIC` and `BEARER`; `MTLS` is handled by the TLS configuration. -/
def SchemaRegistryClient.addAuth (c : SchemaRegistryClient) (r : Request) : Request :=
  if c.auth.type = "BASIC" then r.setBasicAuth c.auth.username c.auth.password
  else if c.auth.type = "BEARER" then r.setHeader "Authorization" ("Bearer " ++ c.auth.bearerToken)
  else r

/-- `http.NewRequestWithContext`: a request exists exactly when `url.Parse` accepts the URL. -/
def newRequest (method : Method) (url : String) (body : Body) : Except String Request :=
  (URL.parse url.toList).map fun u => ⟨method, u, [], body⟩

/-- The content type of the bodies the client sends. -/
def schemaRegistryContentType : String := "application/vnd.schemaregistry.v1+json"

/-- The request every operation builds: the URL `baseURL ++ path`, `addAuth`, and for a JSON
body the content type. -/
def SchemaRegistryClient.request (c : SchemaRegistryClient) (method : Method) (path : String)
    (body : Body) (json : Bool) : Except String Request :=
  (newRequest method (c.baseURL ++ path) body).map fun r =>
    if json then (c.addAuth r).setHeader "Content-Type" schemaRegistryContentType
    else c.addAuth r

/-- The request of `HealthCheck`. -/
def SchemaRegistryClient.healthCheckRequest (c : SchemaRegistryClient) : Except String Request :=
  c.request .get "/subjects" .none false

/-- The POST of `RegisterSchema`. -/
def SchemaRegistryClient.registerSchemaRequest (c : SchemaRegistryClient) (subject : String)
    (request : RegisterSchemaRequest) : Except String Request :=
  c.request .post ("/subjects/" ++ subject ++ "/versions") (.register request) true

/-- The GET of `getLatestVersionForSubject`. -/
def SchemaRegistryClient.latestVersionRequest (c : SchemaRegistryClient) (subject : String) :
    Except String Request :=
  c.request .get ("/subjects/" ++ subject ++ "/versions/latest") .none false

/-- The DELETE of `DeleteSubject`. -/
def SchemaRegistryClient.deleteSubjectRequest (c : SchemaRegistryClient) (subject : String) :
    Except String Request :=
  c.request .delete ("/subjects/" ++ subject) .none false

/-- The PUT of `SetCompatibility`. -/
def SchemaRegistryClient.setCompatibilityRequest (c : SchemaRegistryClient)
    (subject level : String) : Except String Request :=
  c.request .put ("/config/" ++ subject) (.compatibility level) true

/-! ## Responses -/

/-- `SchemaResponse`. -/
structure SchemaResponse where
  id : Int
  version : Int
  schema : String
deriving DecidableEq, Repr

/-- A response body, decoded: the registry's JSON objects and arrays, or nothing. -/
inductive RespBody where
  | empty
  | subjects (names : List String)
  | versions (numbers : List Int)
  | id (id : Int)
  | number (n : Int)
  | schema (r : SchemaResponse)
  | compatibility (level : String)
  | error (code : Int) (message : String)
deriving DecidableEq, Repr

/-- The body's text, as far as the error messages quote it. -/
def RespBody.text : RespBody → String
  | .error _ message => message
  | _ => ""

/-- A response: the status code and the body. -/
structure Response where
  statusCode : Nat
  body : RespBody
deriving DecidableEq, Repr

/-- `json.Unmarshal` into `struct { ID int }`: an object gives its `id` (zero when absent). -/
def RespBody.decodeID : RespBody → Except String Int
  | .id n => .ok n
  | .schema r => .ok r.id
  | .compatibility _ | .error _ _ => .ok 0
  | .subjects _ | .versions _ => .error "json: cannot unmarshal array into Go value"
  | .number _ => .error "json: cannot unmarshal number into Go value"
  | .empty => .error "unexpected end of JSON input"

/-- `json.NewDecoder(resp.Body).Decode(&result)` into a `SchemaResponse`. -/
def RespBody.decodeSchemaResponse : RespBody → Except String SchemaResponse
  | .schema r => .ok r
  | .id n => .ok ⟨n, 0, ""⟩
  | .compatibility _ | .error _ _ => .ok ⟨0, 0, ""⟩
  | .subjects _ | .versions _ => .error "json: cannot unmarshal array into Go value"
  | .number _ => .error "json: cannot unmarshal number into Go value"
  | .empty => .error "EOF"

/-- `HealthCheck` after its round trip. -/
def healthCheckResult : Except String Response → Except String Unit
  | .error e => .error ("health check failed: " ++ e)
  | .ok r =>
    if r.statusCode ≠ 200 then .error ("health check failed with status: " ++ toString r.statusCode)
    else .ok ()

/-- `RegisterSchema` after its POST: the id the registry answered. -/
def registerResult : Except String Response → Except String Int
  | .error e => .error ("failed to register schema: " ++ e)
  | .ok r =>
    if r.statusCode ≠ 200 then
      .error ("schema registration failed with status " ++ toString r.statusCode ++ ": " ++
        r.body.text)
    else
      match r.body.decodeID with
      | .ok n => .ok n
      | .error e => .error ("failed to decode register response: " ++ e)

theorem registerResult_ok {a : Except String Response} {id : Int} (h : registerResult a = .ok id) :
    ∃ resp, a = .ok resp ∧ resp.statusCode = 200 := by
  rcases a with e | resp
  · cases h
  · refine ⟨resp, rfl, ?_⟩
    by_contra hc
    simp [registerResult, hc] at h

/-- `getLatestVersionForSubject` after its GET. -/
def latestVersionResult : Except String Response → Except String Int
  | .error e => .error ("failed to get latest version: " ++ e)
  | .ok r =>
    if r.statusCode ≠ 200 then
      .error ("get latest version failed with status: " ++ toString r.statusCode)
    else
      match r.body.decodeSchemaResponse with
      | .ok s => .ok s.version
      | .error e => .error ("failed to decode latest version response: " ++ e)

/-- The end of `RegisterSchema`: the version is best effort, zero when its lookup failed. -/
def registerSchemaResponse (id : Int) : Except String Int → SchemaResponse
  | .ok version => ⟨id, version, ""⟩
  | .error _ => ⟨id, 0, ""⟩

@[simp] theorem registerSchemaResponse_id (id : Int) (r : Except String Int) :
    (registerSchemaResponse id r).id = id := by
  cases r <;> rfl

/-- `DeleteSubject` after its round trip: 404 counts as done. -/
def deleteSubjectResult : Except String Response → Except String Unit
  | .error e => .error ("failed to delete subject: " ++ e)
  | .ok r =>
    if r.statusCode = 404 then .ok ()
    else if r.statusCode ≠ 200 then
      .error ("delete subject failed with status " ++ toString r.statusCode ++ ": " ++ r.body.text)
    else .ok ()

/-- `SetCompatibility` after its round trip. -/
def setCompatibilityResult : Except String Response → Except String Unit
  | .error e => .error ("failed to set compatibility: " ++ e)
  | .ok r =>
    if r.statusCode ≠ 200 then
      .error ("set compatibility failed with status " ++ toString r.statusCode ++ ": " ++
        r.body.text)
    else .ok ()

/-! ## The paths a subject addresses -/

/-- The four subject endpoints: `RegisterSchema`, `getLatestVersionForSubject`, `DeleteSubject`
and `SetCompatibility`. -/
inductive Endpoint where
  | versions
  | latest
  | subject
  | config
deriving DecidableEq, Repr

/-- The path segments the registry API gives an endpoint for subject `s`. -/
def Endpoint.segments (s : List Char) : Endpoint → List (List Char)
  | .versions => ["subjects".toList, s, "versions".toList]
  | .latest => ["subjects".toList, s, "versions".toList, "latest".toList]
  | .subject => ["subjects".toList, s]
  | .config => ["config".toList, s]

/-- The method of an endpoint's request. -/
def Endpoint.method : Endpoint → Method
  | .versions => .post
  | .latest => .get
  | .subject => .delete
  | .config => .put

/-- The body of an endpoint's request, and whether it is sent as JSON. -/
def Endpoint.body (request : RegisterSchemaRequest) (level : String) : Endpoint → Body
  | .versions => .register request
  | .config => .compatibility level
  | .latest | .subject => .none

/-- Whether the request carries the registry's JSON content type. -/
def Endpoint.json : Endpoint → Bool
  | .versions | .config => true
  | .latest | .subject => false

/-- The request the client builds for an endpoint. -/
def SchemaRegistryClient.subjectRequest (c : SchemaRegistryClient) (s : String)
    (request : RegisterSchemaRequest) (level : String) : Endpoint → Except String Request
  | .versions => c.registerSchemaRequest s request
  | .latest => c.latestVersionRequest s
  | .subject => c.deleteSubjectRequest s
  | .config => c.setCompatibilityRequest s level

@[simp] theorem setHeader_url (r : Request) (k v : String) : (r.setHeader k v).url = r.url := rfl

@[simp] theorem setHeader_method (r : Request) (k v : String) :
    (r.setHeader k v).method = r.method := rfl

@[simp] theorem setHeader_body (r : Request) (k v : String) : (r.setHeader k v).body = r.body := rfl

@[simp] theorem addAuth_url (c : SchemaRegistryClient) (r : Request) : (c.addAuth r).url = r.url := by
  unfold SchemaRegistryClient.addAuth; split_ifs <;> rfl

@[simp] theorem addAuth_method (c : SchemaRegistryClient) (r : Request) :
    (c.addAuth r).method = r.method := by
  unfold SchemaRegistryClient.addAuth; split_ifs <;> rfl

@[simp] theorem addAuth_body (c : SchemaRegistryClient) (r : Request) :
    (c.addAuth r).body = r.body := by
  unfold SchemaRegistryClient.addAuth; split_ifs <;> rfl

theorem subjectRequest_eq (c : SchemaRegistryClient) (s : String) (request : RegisterSchemaRequest)
    (level : String) (e : Endpoint) :
    c.subjectRequest s request level e =
      c.request e.method ⟨URL.pathOf (e.segments s.toList)⟩ (e.body request level) e.json := by
  have path : ∀ (p : String) (segs : List (List Char)), p.toList = URL.pathOf segs →
      p = ⟨URL.pathOf segs⟩ := fun p _ h => String.ext h
  cases e <;> exact congrArg (c.request _ · _ _)
    (path _ _ (by simp [URL.pathOf, Endpoint.segments, List.intercalate]))

theorem request_ok {c : SchemaRegistryClient} {m : Method} {path : String} {body : Body}
    {json : Bool} {u : URL} (h : URL.parse (c.baseURL ++ path).toList = .ok u) :
    ∃ r, c.request m path body json = .ok r ∧ r.url = u ∧ r.method = m ∧ r.body = body := by
  simp only [SchemaRegistryClient.request, newRequest, h]
  exact ⟨_, rfl, by split_ifs <;> simp⟩

theorem pathOf_segments_inj {e e' : Endpoint} {s s' : List Char} (hs : '/' ∉ s) (hs' : '/' ∉ s')
    (h : URL.pathOf (e.segments s) = URL.pathOf (e'.segments s')) : e = e' ∧ s = s' := by
  have seg : ∀ (e : Endpoint) (s : List Char), '/' ∉ s →
      URL.segments (URL.pathOf (e.segments s)) = e.segments s := fun e s hs =>
    URL.segments_pathOf (by cases e <;> simp [Endpoint.segments])
      (by cases e <;> simp [Endpoint.segments, hs])
  have := seg e s hs
  rw [h, seg e' s' hs'] at this
  cases e <;> cases e' <;> simp [Endpoint.segments] at this ⊢ <;> simp_all

theorem pathOf_pathChars {s : List Char} (hs : ∀ ch ∈ s, URL.pathChar ch = true) (e : Endpoint) :
    ∀ ch ∈ URL.pathOf (e.segments s), URL.pathChar ch = true := by
  cases e <;> simp only [URL.pathOf, Endpoint.segments, List.intercalate, List.intersperse,
    List.flatten, List.forall_mem_cons, List.forall_mem_append, List.append_nil,
    List.not_mem_nil, false_imp_iff, implies_true, and_true, iff_true_intro hs] <;> decide

/-- For a base URL `scheme://host[:port][/path]` and a subject without `/`, `?`, `#`, `%` or
control characters, every subject request is built, carries no query and no fragment, and
addresses the base path followed by exactly the endpoint's segments. -/
theorem subjectRequest_url (b : URL.BaseURL) (c : SchemaRegistryClient) (hc : c.baseURL.toList = b.render)
    {s : String} (hs : ∀ ch ∈ s.toList, URL.plainChar ch = true)
    (request : RegisterSchemaRequest) (level : String) (e : Endpoint) :
    ∃ r, c.subjectRequest s request level e = .ok r ∧ r.url.rawQuery = [] ∧
      r.url.forceQuery = false ∧ r.url.fragment = [] ∧
      r.url.path = b.path ++ URL.pathOf (e.segments s.toList) ∧
      r.method = e.method ∧ r.body = e.body request level := by
  have tail := pathOf_pathChars (fun ch h => (Bool.and_eq_true _ _ ▸ hs ch h).2) e
  have hp := URL.parse_render_append b (t := URL.pathOf (e.segments s.toList)) (.inr rfl) tail
  obtain ⟨r, hr, hu, hm, hb⟩ := @request_ok c e.method _ (e.body request level) e.json _
    (show URL.parse (c.baseURL ++ ⟨URL.pathOf (e.segments s.toList)⟩).toList = _ by
      rw [String.toList, String.data_append, ← String.toList, hc]; exact hp)
  refine ⟨r, (subjectRequest_eq c s request level e).trans hr, ?_, ?_, ?_, ?_, hm, hb⟩ <;>
    simp [hu, URL.blank]

theorem slash_not_mem {t : String} (ht : ∀ ch ∈ t.toList, URL.plainChar ch = true) : '/' ∉ t.toList :=
  fun m => by simpa [URL.plainChar] using ht '/' m

/-- For a base URL `scheme://host[:port][/path]` and a subject without `/`, `?`, `#`, `%` or
control characters, every subject request is built, carries no query and no fragment, and
addresses the base path followed by exactly the endpoint's segments; and two (endpoint,
subject) pairs with the same path are the same. -/
theorem request_path (b : URL.BaseURL) (c : SchemaRegistryClient) (hc : c.baseURL.toList = b.render)
    {s : String} (hs : ∀ ch ∈ s.toList, URL.plainChar ch = true)
    (request : RegisterSchemaRequest) (level : String) :
    (∀ e, ∃ r, c.subjectRequest s request level e = .ok r ∧ r.url.rawQuery = [] ∧
      r.url.forceQuery = false ∧ r.url.fragment = [] ∧
      r.url.path = b.path ++ URL.pathOf (e.segments s.toList) ∧
      r.method = e.method ∧ r.body = e.body request level) ∧
    ∀ (e e' : Endpoint) (s' : String), (∀ ch ∈ s'.toList, URL.plainChar ch = true) →
      URL.pathOf (e.segments s.toList) = URL.pathOf (e'.segments s'.toList) → e = e' ∧ s = s' :=
  ⟨subjectRequest_url b c hc hs request level, fun e e' s' hs' h => by
    obtain ⟨he, hss⟩ := pathOf_segments_inj (slash_not_mem hs) (slash_not_mem hs') h
    exact ⟨he, String.ext hss⟩⟩

/-- The client used for the examples: `NONE` auth against `http://sr:8081`. -/
def exampleClient : SchemaRegistryClient :=
  ⟨"http://sr:8081", ⟨30000000000, ⟨false, [], none⟩⟩, ⟨"NONE", "", "", "", ⟨"", ""⟩, none⟩⟩

/-- `http://sr:8081` as a base URL. -/
def exampleBase : URL.BaseURL :=
  ⟨"http".toList, "sr:8081".toList, [], "sr:8081".toList, [], ⟨'h', "ttp".toList, rfl, by decide, by decide⟩,
    by decide, .inl rfl, nofun, rfl⟩

/-- The theorem for the example client and the subject `orders-value`. -/
theorem request_path_orders :
    (∀ e, ∃ r, exampleClient.subjectRequest "orders-value" ⟨"x", "AVRO", []⟩ "" e = .ok r ∧
      r.url.rawQuery = [] ∧ r.url.forceQuery = false ∧ r.url.fragment = [] ∧
      r.url.path = exampleBase.path ++ URL.pathOf (e.segments "orders-value".toList) ∧
      r.method = e.method ∧ r.body = e.body ⟨"x", "AVRO", []⟩ "") ∧
    ∀ (e e' : Endpoint) (s' : String), (∀ ch ∈ s'.toList, URL.plainChar ch = true) →
      URL.pathOf (e.segments "orders-value".toList) = URL.pathOf (e'.segments s'.toList) →
        e = e' ∧ "orders-value" = s' :=
  request_path exampleBase exampleClient (by decide) (by decide) ⟨"x", "AVRO", []⟩ ""

end Client

end SchemaOperator
