import SchemaOperator.Client
import SchemaOperator.Store

/-!
# Credentials and clients

`loadAuthConfig` (`internal/controller/helpers.go`), which reads the Secrets a `SchemaRegistry`
names and builds the client's `AuthConfig`; the timeout both reconcilers compute from
`spec.timeout`; and `SchemaReconciler.buildClient`, which resolves a Schema's `registryRef`.

The API reads they make are a `Reader`: a function per kind from a key to the object or an API
error. A reader may fail where the store would have answered (a timeout, a throttled call), and
`Degrades` says so. `tls.X509KeyPair` is a parameter (`KeyPair`): whether two PEM blocks form a
certificate with its key.

Results:
* `loadAuthConfig_error_iff`: `loadAuthConfig` fails exactly when the strategy's block is
  missing, a Secret it names cannot be read, or an MTLS key pair is invalid; a Secret without
  the expected key is no error.
* `loadAuthConfig_credentials`: with the bundle it returns, every request of the client
  `NewClient` builds carries exactly the strategy's `Authorization` header, read from the
  Secret's keys (an absent key reads as empty), and an MTLS client presents the Secret's
  certificate.
* `loadAuthConfig_missing_key`: a BASIC Secret without `username` gives a bundle with an empty
  user name, not an error.
* `loadAuthConfig_degrades`, `buildClient_degrades`: a reader that fails where the store answers
  can only turn a result into an error, never into another result.
-/

namespace SchemaOperator

open Client

/-! ## Reads -/

/-- The text of an API error, as `%w` prints it. -/
def StatusError.message : StatusError → String
  | .notFound => "not found"
  | .conflict => "the object has been modified; please apply your changes to the latest version and try again"
  | .alreadyExists => "already exists"
  | .transient => "the server is currently unable to handle the request"

/-- `%q` of a resource name. Kubernetes names hold no quote, backslash or control character,
so Go's quoting adds only the quotes. -/
def quote (s : String) : String := "\"" ++ s ++ "\""

/-- The reads a pass makes of other resources. -/
structure Reader where
  registry : Key → Except StatusError SchemaRegistry
  secret : Key → Except StatusError Secret

/-- The reads the store answers: an absent object is `NotFound`. -/
def Reader.ofLookup (registries : Key → Option SchemaRegistry) (secrets : Key → Option Secret) :
    Reader :=
  ⟨fun k => (registries k).elim (.error .notFound) .ok, fun k => (secrets k).elim (.error .notFound) .ok⟩

/-- `rd` answers each read as `env` does, or fails. -/
def Degrades {α : Type} (env rd : Key → Except StatusError α) : Prop :=
  ∀ k, rd k = env k ∨ ∃ e, rd k = .error e

/-- Each read of `rd` is answered as by `env`, or fails. -/
def Reader.Degrades (env rd : Reader) : Prop :=
  SchemaOperator.Degrades env.registry rd.registry ∧ SchemaOperator.Degrades env.secret rd.secret

theorem Degrades.ok {α : Type} {env rd : Key → Except StatusError α} (h : Degrades env rd) {k : Key}
    {a : α} (hk : rd k = .ok a) : env k = .ok a := by
  rcases h k with e | ⟨_, e⟩ <;> rw [e] at hk
  · exact hk
  · cases hk

/-- `tls.X509KeyPair` of a certificate and a key block: `.ok ()` when they form a pair, or the
error it reports. -/
abbrev KeyPair := String → String → Except String Unit

/-! ## `loadAuthConfig` -/

/-- The client bundle before any strategy: type `NONE`, nothing else. -/
def noAuth : Client.AuthConfig := ⟨"NONE", "", "", "", ⟨"", ""⟩, Option.none⟩

/-- The MTLS branch of `loadAuthConfig`, from the Secret named by `certSecretRef` on. -/
def loadMTLS (keyPair : KeyPair) (getSecret : Key → Except StatusError Secret) (ns : String)
    (m : MTLSConfig) (authConfig : Client.AuthConfig) (certSecret : Secret) :
    Except String Client.AuthConfig :=
  match keyPair (certSecret.get "tls.crt") (certSecret.get "tls.key") with
  | .error e => .error ("failed to parse client certificate: " ++ e)
  | .ok () =>
    let authConfig := { authConfig with clientCert := ⟨certSecret.get "tls.crt", certSecret.get "tls.key"⟩ }
    if m.caSecretRef ≠ "" then
      match getSecret ⟨ns, m.caSecretRef⟩ with
      | .error e => .error ("failed to get CA cert secret " ++ quote m.caSecretRef ++ ": " ++ e.message)
      | .ok caSecret => .ok { authConfig with caCert := some ⟨[caSecret.get "ca.crt"]⟩ }
    else .ok authConfig

/-- `loadAuthConfig`: the bundle for the registry's strategy, with the credentials read from the
Secrets in the registry's namespace. -/
def loadAuthConfig (keyPair : KeyPair) (getSecret : Key → Except StatusError Secret)
    (sr : SchemaRegistry) : Except String Client.AuthConfig :=
  match sr.spec.auth with
  | none => .ok noAuth
  | some auth =>
    let authConfig := { noAuth with type := auth.type.toString }
    match auth.type with
    | .basic =>
      match auth.basicAuth with
      | none => .error "basicAuth config is required when type is BASIC"
      | some b =>
        match getSecret ⟨sr.metadata.ns, b.secretRef⟩ with
        | .error e => .error ("failed to get basic auth secret " ++ quote b.secretRef ++ ": " ++ e.message)
        | .ok secret =>
          .ok { authConfig with username := secret.get "username", password := secret.get "password" }
    | .bearer =>
      match auth.bearerAuth with
      | none => .error "bearerAuth config is required when type is BEARER"
      | some b =>
        match getSecret ⟨sr.metadata.ns, b.secretRef⟩ with
        | .error e => .error ("failed to get bearer auth secret " ++ quote b.secretRef ++ ": " ++ e.message)
        | .ok secret => .ok { authConfig with bearerToken := secret.get "token" }
    | .mtls =>
      match auth.mtls with
      | none => .error "mtls config is required when type is MTLS"
      | some m =>
        match getSecret ⟨sr.metadata.ns, m.certSecretRef⟩ with
        | .error e =>
          .error ("failed to get client cert secret " ++ quote m.certSecretRef ++ ": " ++ e.message)
        | .ok certSecret => loadMTLS keyPair getSecret sr.metadata.ns m authConfig certSecret
    | .none => .ok authConfig

theorem loadMTLS_degrades {keyPair : KeyPair} {env rd : Key → Except StatusError Secret}
    (h : Degrades env rd) {ns : String} {m : MTLSConfig} {a : Client.AuthConfig} {cert : Secret}
    {cfg : Client.AuthConfig} (hok : loadMTLS keyPair rd ns m a cert = .ok cfg) :
    loadMTLS keyPair env ns m a cert = .ok cfg := by
  unfold loadMTLS at hok ⊢
  split at hok
  · cases hok
  · split_ifs at hok ⊢
    · split at hok
      · cases hok
      · rw [h.ok ‹_›]; exact hok
    · exact hok

/-- A reader that fails where the store answers can only make `loadAuthConfig` fail. -/
theorem loadAuthConfig_degrades {keyPair : KeyPair} {env rd : Key → Except StatusError Secret}
    (h : Degrades env rd) {sr : SchemaRegistry} {cfg : Client.AuthConfig}
    (hok : loadAuthConfig keyPair rd sr = .ok cfg) : loadAuthConfig keyPair env sr = .ok cfg := by
  unfold loadAuthConfig at hok ⊢
  rcases ha : sr.spec.auth with _ | auth
  · simpa [ha] using hok
  rcases ht : auth.type with _ | _ | _ | _ <;> simp only [ha, ht] at hok ⊢
  · exact hok
  · rcases hb : auth.basicAuth with _ | b <;> simp only [hb] at hok ⊢
    · cases hok
    rcases hs : rd ⟨sr.metadata.ns, b.secretRef⟩ with e | s <;> rw [hs] at hok
    · cases hok
    · rw [h.ok hs]; exact hok
  · rcases hb : auth.bearerAuth with _ | b <;> simp only [hb] at hok ⊢
    · cases hok
    rcases hs : rd ⟨sr.metadata.ns, b.secretRef⟩ with e | s <;> rw [hs] at hok
    · cases hok
    · rw [h.ok hs]; exact hok
  · rcases hm : auth.mtls with _ | m <;> simp only [hm] at hok ⊢
    · cases hok
    rcases hs : rd ⟨sr.metadata.ns, m.certSecretRef⟩ with e | s <;> rw [hs] at hok
    · cases hok
    · rw [h.ok hs]; exact loadMTLS_degrades h hok

/-! ## What `loadAuthConfig` fails on -/

/-- The reasons the credential resolver fails on, in the words of the operator's contract: the
strategy's block is missing, a Secret it names cannot be read, or an MTLS key pair is invalid. -/
inductive AuthFailure (keyPair : KeyPair) (getSecret : Key → Except StatusError Secret)
    (sr : SchemaRegistry) : Prop
  | noBasic {auth} : sr.spec.auth = some auth → auth.type = .basic → auth.basicAuth = none →
      AuthFailure keyPair getSecret sr
  | noBearer {auth} : sr.spec.auth = some auth → auth.type = .bearer → auth.bearerAuth = none →
      AuthFailure keyPair getSecret sr
  | noMTLS {auth} : sr.spec.auth = some auth → auth.type = .mtls → auth.mtls = none →
      AuthFailure keyPair getSecret sr
  | basicSecret {auth b e} : sr.spec.auth = some auth → auth.type = .basic →
      auth.basicAuth = some b → getSecret ⟨sr.metadata.ns, b.secretRef⟩ = .error e →
      AuthFailure keyPair getSecret sr
  | bearerSecret {auth b e} : sr.spec.auth = some auth → auth.type = .bearer →
      auth.bearerAuth = some b → getSecret ⟨sr.metadata.ns, b.secretRef⟩ = .error e →
      AuthFailure keyPair getSecret sr
  | certSecret {auth m e} : sr.spec.auth = some auth → auth.type = .mtls → auth.mtls = some m →
      getSecret ⟨sr.metadata.ns, m.certSecretRef⟩ = .error e → AuthFailure keyPair getSecret sr
  | caSecret {auth m e} : sr.spec.auth = some auth → auth.type = .mtls → auth.mtls = some m →
      m.caSecretRef ≠ "" → getSecret ⟨sr.metadata.ns, m.caSecretRef⟩ = .error e →
      AuthFailure keyPair getSecret sr
  | badKeyPair {auth m cert e} : sr.spec.auth = some auth → auth.type = .mtls →
      auth.mtls = some m → getSecret ⟨sr.metadata.ns, m.certSecretRef⟩ = .ok cert →
      keyPair (cert.get "tls.crt") (cert.get "tls.key") = .error e →
      AuthFailure keyPair getSecret sr

theorem loadMTLS_error_iff {keyPair : KeyPair} {getSecret : Key → Except StatusError Secret}
    {ns : String} {m : MTLSConfig} {a : Client.AuthConfig} {cert : Secret} :
    (∃ e, loadMTLS keyPair getSecret ns m a cert = .error e) ↔
      (∃ e, keyPair (cert.get "tls.crt") (cert.get "tls.key") = .error e) ∨
        m.caSecretRef ≠ "" ∧ ∃ e, getSecret ⟨ns, m.caSecretRef⟩ = .error e := by
  unfold loadMTLS
  rcases hk : keyPair (cert.get "tls.crt") (cert.get "tls.key") with e | ⟨⟩
  · simp
  · by_cases hca : m.caSecretRef ≠ ""
    · rcases hs : getSecret ⟨ns, m.caSecretRef⟩ with e | ca <;> simp [hca, hs]
    · simp [hca]

/-- `loadAuthConfig` fails exactly on an `AuthFailure`: a Secret without the key a strategy
reads is not among them. -/
theorem loadAuthConfig_error_iff (keyPair : KeyPair) (getSecret : Key → Except StatusError Secret)
    (sr : SchemaRegistry) :
    (∃ e, loadAuthConfig keyPair getSecret sr = .error e) ↔ AuthFailure keyPair getSecret sr := by
  constructor
  · rintro ⟨e, he⟩
    unfold loadAuthConfig at he
    rcases ha : sr.spec.auth with _ | auth
    · simp [ha] at he
    rcases ht : auth.type with _ | _ | _ | _ <;> simp only [ha, ht] at he
    · cases he
    · rcases hb : auth.basicAuth with _ | b
      · exact .noBasic ha ht hb
      rcases hs : getSecret ⟨sr.metadata.ns, b.secretRef⟩ with e' | _
      · exact .basicSecret ha ht hb hs
      · simp [hb, hs] at he
    · rcases hb : auth.bearerAuth with _ | b
      · exact .noBearer ha ht hb
      rcases hs : getSecret ⟨sr.metadata.ns, b.secretRef⟩ with e' | _
      · exact .bearerSecret ha ht hb hs
      · simp [hb, hs] at he
    · rcases hm : auth.mtls with _ | m
      · exact .noMTLS ha ht hm
      rcases hs : getSecret ⟨sr.metadata.ns, m.certSecretRef⟩ with e' | cert
      · exact .certSecret ha ht hm hs
      simp only [hm, hs] at he
      rcases loadMTLS_error_iff.mp ⟨e, he⟩ with ⟨e', hk⟩ | ⟨hca, e', hca'⟩
      · exact .badKeyPair ha ht hm hs hk
      · exact .caSecret ha ht hm hca hca'
  · intro hf
    unfold loadAuthConfig
    cases hf with
    | noBasic ha ht hb => simp [ha, ht, hb]
    | noBearer ha ht hb => simp [ha, ht, hb]
    | noMTLS ha ht hm => simp [ha, ht, hm]
    | basicSecret ha ht hb hs => simp [ha, ht, hb, hs]
    | bearerSecret ha ht hb hs => simp [ha, ht, hb, hs]
    | certSecret ha ht hm hs => simp [ha, ht, hm, hs]
    | caSecret ha ht hm hca hs =>
      simp only [ha, ht, hm]
      rcases hc : getSecret ⟨sr.metadata.ns, _⟩ with e' | cert
      · exact ⟨_, rfl⟩
      · exact loadMTLS_error_iff.mpr (by
          rcases hk : keyPair (cert.get "tls.crt") (cert.get "tls.key") with e'' | ⟨⟩
          · exact .inl ⟨e'', rfl⟩
          · exact .inr ⟨hca, _, hs⟩)
    | badKeyPair ha ht hm hs hk => simp [ha, ht, hm, hs, loadMTLS, hk]

/-! ## The credentials a client sends -/

/-- The `Authorization` header the operator's contract asks of a strategy: the registry's
Secret's `username` and `password` for BASIC, its `token` for BEARER, none otherwise. -/
def credentials (getSecret : Key → Except StatusError Secret) (sr : SchemaRegistry) :
    Option String :=
  match sr.spec.auth with
  | some ⟨.basic, some b, _, _⟩ =>
    match getSecret ⟨sr.metadata.ns, b.secretRef⟩ with
    | .ok s => some ("Basic " ++ basicAuth (s.get "username") (s.get "password"))
    | .error _ => none
  | some ⟨.bearer, _, some b, _⟩ =>
    match getSecret ⟨sr.metadata.ns, b.secretRef⟩ with
    | .ok s => some ("Bearer " ++ s.get "token")
    | .error _ => none
  | _ => none

/-- The certificates the client presents: the Secret's pair for MTLS, none otherwise. -/
def certificates (getSecret : Key → Except StatusError Secret) (sr : SchemaRegistry) :
    List Certificate :=
  match sr.spec.auth with
  | some ⟨.mtls, _, _, some m⟩ =>
    match getSecret ⟨sr.metadata.ns, m.certSecretRef⟩ with
    | .ok s => [⟨s.get "tls.crt", s.get "tls.key"⟩]
    | .error _ => []
  | _ => []

theorem lookup_filter_ne (l : List (String × String)) {k k' : String} (h : k ≠ k') :
    (l.filter (·.1 ≠ k)).lookup k' = l.lookup k' := by
  induction l with
  | nil => rfl
  | cons p ps ih =>
    obtain ⟨a, b⟩ := p
    by_cases hp : a = k
    · subst hp
      have : (k' == a) = false := by simpa using Ne.symm h
      rw [List.filter_cons_of_neg (by simp), ih, List.lookup_cons, this]
    · rw [List.filter_cons_of_pos (by simpa using hp), List.lookup_cons, List.lookup_cons, ih]

theorem getHeader_setHeader_ne (r : Request) {k k' : String} (v : String) (h : k ≠ k') :
    (r.setHeader k v).getHeader k' = r.getHeader k' := by
  have : (k' == k) = false := by simpa using Ne.symm h
  rw [Request.setHeader, Request.getHeader, List.lookup_cons, this, lookup_filter_ne _ h, Request.getHeader]

/-- The `Authorization` header `addAuth` sets for a bundle. -/
def Client.AuthConfig.authorization (a : Client.AuthConfig) : Option String :=
  if a.type = "BASIC" then some ("Basic " ++ basicAuth a.username a.password)
  else if a.type = "BEARER" then some ("Bearer " ++ a.bearerToken)
  else none

/-- Every request a client builds carries its bundle's `Authorization` header, and no other. -/
theorem request_authorization {c : SchemaRegistryClient} {m : Method} {path : String} {body : Body}
    {json : Bool} {r : Request} (h : c.request m path body json = .ok r) :
    r.getHeader "Authorization" = c.auth.authorization := by
  simp only [SchemaRegistryClient.request, newRequest] at h
  rcases hu : URL.parse (c.baseURL ++ path).toList with e | u <;> simp only [hu, Except.map] at h
  · cases h
  · cases h
    have ct : ("Content-Type" : String) ≠ "Authorization" := by decide
    have auth : (c.addAuth ⟨m, u, [], body⟩).getHeader "Authorization" = c.auth.authorization := by
      unfold SchemaRegistryClient.addAuth Client.AuthConfig.authorization
      split_ifs <;> rfl
    cases json <;> simp only [Bool.false_eq_true, ↓reduceIte, getHeader_setHeader_ne _ _ ct, auth]

theorem loadMTLS_ok {keyPair : KeyPair} {getSecret : Key → Except StatusError Secret}
    {ns : String} {m : MTLSConfig} {a cfg : Client.AuthConfig} {cert : Secret}
    (h : loadMTLS keyPair getSecret ns m a cert = .ok cfg) :
    cfg.type = a.type ∧ cfg.clientCert = ⟨cert.get "tls.crt", cert.get "tls.key"⟩ := by
  unfold loadMTLS at h
  split at h
  · cases h
  · split_ifs at h
    · split at h
      · cases h
      · cases h; exact ⟨rfl, rfl⟩
    · cases h; exact ⟨rfl, rfl⟩

/-- The bundle `loadAuthConfig` returns sets the strategy's header and, for MTLS only, the
Secret's certificate. -/
theorem loadAuthConfig_bundle {keyPair : KeyPair} {getSecret : Key → Except StatusError Secret}
    {sr : SchemaRegistry} {cfg : Client.AuthConfig} (hcfg : loadAuthConfig keyPair getSecret sr = .ok cfg) :
    cfg.authorization = credentials getSecret sr ∧
      (if cfg.type = "MTLS" then [cfg.clientCert] else []) = certificates getSecret sr := by
  unfold loadAuthConfig at hcfg
  unfold credentials certificates
  rcases ha : sr.spec.auth with _ | ⟨ty, b, br, mt⟩ <;> simp only [ha] at hcfg
  · cases hcfg; simp [Client.AuthConfig.authorization, noAuth]
  cases ty <;> simp only at hcfg
  · cases hcfg; simp [Client.AuthConfig.authorization, noAuth, AuthType.toString]
  · rcases b with _ | b <;> simp only at hcfg
    · cases hcfg
    rcases hs : getSecret ⟨sr.metadata.ns, b.secretRef⟩ with e | s <;> simp only [hs] at hcfg
    · cases hcfg
    · cases hcfg; simp [Client.AuthConfig.authorization, noAuth, AuthType.toString, hs]
  · rcases br with _ | br <;> simp only at hcfg
    · cases hcfg
    rcases hs : getSecret ⟨sr.metadata.ns, br.secretRef⟩ with e | s <;> simp only [hs] at hcfg
    · cases hcfg
    · cases hcfg; simp [Client.AuthConfig.authorization, noAuth, AuthType.toString, hs]
  · rcases mt with _ | mt <;> simp only at hcfg
    · cases hcfg
    rcases hs : getSecret ⟨sr.metadata.ns, mt.certSecretRef⟩ with e | s <;> simp only [hs] at hcfg
    · cases hcfg
    · obtain ⟨ht, hcert⟩ := loadMTLS_ok hcfg
      simp [Client.AuthConfig.authorization, noAuth, AuthType.toString, hs, ht, hcert]

/-- With the bundle `loadAuthConfig` returns, every request of the client `NewClient` builds
carries exactly the strategy's credentials, read from the Secret's keys, and an MTLS client
presents the Secret's certificate. -/
theorem loadAuthConfig_credentials {keyPair : KeyPair} {getSecret : Key → Except StatusError Secret}
    {sr : SchemaRegistry} {cfg : Client.AuthConfig} (hcfg : loadAuthConfig keyPair getSecret sr = .ok cfg)
    (base : String) (timeout : Int) (insecure : Bool) {c : SchemaRegistryClient}
    (hc : newClient base cfg timeout insecure = .ok c) :
    (∀ m path body json r, c.request m path body json = .ok r →
      r.getHeader "Authorization" = credentials getSecret sr) ∧
      c.httpClient.tlsClientConfig.certificates = certificates getSecret sr := by
  cases hc
  obtain ⟨hauth, hcert⟩ := loadAuthConfig_bundle hcfg
  refine ⟨fun m path body json r hr => (request_authorization hr).trans hauth, hcert ▸ ?_⟩
  split_ifs <;> rfl

/-- The credential resolver's contract as the code keeps it: it fails exactly on an
`AuthFailure` (a Secret without the key a strategy reads is not one), and once it succeeds every
request of the client `NewClient` builds from its bundle carries exactly the strategy's
credentials, and an MTLS client presents the Secret's certificate. -/
theorem loadAuthConfig_contract (keyPair : KeyPair) (getSecret : Key → Except StatusError Secret)
    (sr : SchemaRegistry) :
    ((∃ e, loadAuthConfig keyPair getSecret sr = .error e) ↔ AuthFailure keyPair getSecret sr) ∧
      ∀ cfg, loadAuthConfig keyPair getSecret sr = .ok cfg →
        ∀ base timeout insecure c, newClient base cfg timeout insecure = .ok c →
          (∀ m path body json r, c.request m path body json = .ok r →
            r.getHeader "Authorization" = credentials getSecret sr) ∧
          c.httpClient.tlsClientConfig.certificates = certificates getSecret sr :=
  ⟨loadAuthConfig_error_iff keyPair getSecret sr,
    fun _ hcfg base timeout insecure _ hc => loadAuthConfig_credentials hcfg base timeout insecure hc⟩

/-- A registry in namespace `kafka` with BASIC auth from the Secret `creds`. -/
def basicRegistry : SchemaRegistry :=
  ⟨⟨"sr", "kafka", 1, 1, 1, false, []⟩,
    ⟨"http://sr:8081", some ⟨.basic, some ⟨"creds"⟩, none, none⟩, false, 30⟩,
    SchemaRegistryStatus.empty⟩

/-- `creds` holds a password but no `username`: `loadAuthConfig` returns a bundle with an empty
user name and no error. -/
theorem loadAuthConfig_missing_key :
    (loadAuthConfig (fun _ _ => .ok ()) (fun _ => .ok ⟨[("password", "s3cret")]⟩) basicRegistry).toOption =
      some { noAuth with type := "BASIC", password := "s3cret" } := by
  decide

/-! ## The timeout -/

/-- `time.Duration(t) * time.Second` in `int64` nanoseconds, with Go's wrap-around modulo `2 ^ 64`. -/
def durationSeconds (t : Int) : Int := Int.bmod (t * 1000000000) 18446744073709551616

/-- The client timeout both reconcilers compute: the spec's seconds, or 30 s for zero. -/
def timeoutOf (t : Int) : Int :=
  if durationSeconds t = 0 then 30 * 1000000000 else durationSeconds t

/-- Up to 9223372036 s, the most a `time.Duration` holds in whole seconds, the timeout is the
spec's seconds in nanoseconds. -/
theorem timeoutOf_of_le {t : Int} (h0 : 0 < t) (h : t ≤ 9223372036) : timeoutOf t = t * 1000000000 := by
  have hm : t * 1000000000 % (18446744073709551616 : Nat) = t * 1000000000 :=
    Int.emod_eq_of_lt (by omega) (by omega)
  have hd : durationSeconds t = t * 1000000000 := by
    rw [durationSeconds, Int.bmod_pos _ _ (by rw [hm]; omega), hm]
  rw [timeoutOf, hd, if_neg (by omega)]

/-! ## `buildClient` -/

/-- The namespace a Schema's `registryRef` points into: its own unless the reference names one. -/
def registryNamespace (schema : Schema) : String :=
  if schema.spec.registryRef.ns = "" then schema.metadata.ns else schema.spec.registryRef.ns

/-- The key of the `SchemaRegistry` `buildClient` looks up. -/
def registryKey (schema : Schema) : Key := ⟨registryNamespace schema, schema.spec.registryRef.name⟩

/-- `SchemaReconciler.buildClient`. -/
def buildClient (keyPair : KeyPair) (rd : Reader) (schema : Schema) :
    Except String SchemaRegistryClient :=
  match rd.registry (registryKey schema) with
  | .error e =>
    .error ("failed to get SchemaRegistry " ++ quote schema.spec.registryRef.name ++ ": " ++ e.message)
  | .ok sr =>
    match loadAuthConfig keyPair rd.secret sr with
    | .error e => .error e
    | .ok authConfig => newClient sr.spec.url authConfig (timeoutOf sr.spec.timeout) sr.spec.insecureSkipVerify

/-- A client `buildClient` builds talks to the URL of the registry the Schema resolves to. -/
theorem buildClient_ok {keyPair : KeyPair} {rd : Reader} {schema : Schema}
    {c : SchemaRegistryClient} (h : buildClient keyPair rd schema = .ok c) :
    ∃ sr, rd.registry (registryKey schema) = .ok sr ∧ c.baseURL = sr.spec.url := by
  unfold buildClient at h
  split at h
  · cases h
  · next sr _ =>
    split at h
    · cases h
    · cases h; exact ⟨sr, ‹_›, rfl⟩

/-- A reader that fails where the store answers can only make `buildClient` fail. -/
theorem buildClient_degrades {keyPair : KeyPair} {env rd : Reader} (h : env.Degrades rd)
    {schema : Schema} {c : SchemaRegistryClient} (hok : buildClient keyPair rd schema = .ok c) :
    buildClient keyPair env schema = .ok c := by
  unfold buildClient at hok ⊢
  rcases hr : rd.registry (registryKey schema) with e | sr <;> simp only [hr] at hok
  · cases hok
  rcases ha : loadAuthConfig keyPair rd.secret sr with e | cfg <;> simp only [ha] at hok
  · cases hok
  simp only [h.1.ok hr, loadAuthConfig_degrades h.2 ha]
  exact hok

end SchemaOperator
