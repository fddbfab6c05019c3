import SchemaOperator.Registration

/-!
# A pass left alone

`Reconcile` registers a Schema's content before it sets the compatibility level the spec
declares (`RegisterSchema`, then `SetCompatibility`). A content that the registry accepts only
under the declared level is refused with 409 under the subject's current level, and the pass
records `Ready=False` without ever setting the level (`declared_level_refused`).

What does hold: a pass that runs with every call succeeding and no other step in between, over a
live Schema whose client builds and whose content the registry holds already or accepts under
the subject's current level, finishes with the Schema `Ready` at its generation
(`uninterrupted_pass_ready`). The pass is traced stage by stage: the reads up to the client
(`leads_get`, `leads_build`), the POST (`leads_register`), and the requests after it, whose
failures the pass ignores, up to the commit (`leads_afterPost`).

Left alone, a pass over any live Schema ends with one of three outcomes, by the branches of
`Reconcile` (`uninterrupted_pass_outcome`): `Registered`, `ClientBuildFailed` or
`RegistrationFailed`, the failures traced through `setConditionFailed` (`leads_failGet`).

A deletion pass left alone, over a Schema marked for deletion that carries the finalizer,
removes the finalizer and returns no error whether or not a client builds for it
(`uninterrupted_deletion`). When one builds, it first deletes the subject at the registry server
the client's URL reaches, and only that subject.

Which passes a registry change starts: the change alters the client of the Schemas that resolve
to that registry only, and the router enqueues all of them in the registry's namespace
(`findSchemasForRegistry_covers`).
-/

namespace SchemaOperator

namespace SchemaController

open Client Registry

variable {env : Env} {k : Key}

/-! ## The registry's side -/

/-- The registry takes the content: the subject holds it already, or the registry's rule accepts
it under the subject's current level. -/
def Admits (accepts : Accepts) (srv : Server) (s : List Char) (content : RegisterSchemaRequest) : Bool :=
  ((srv.versions s).find? (·.content == content)).isSome ||
    accepts (srv.level s) ((srv.versions s).map (·.content)) content

theorem register_admits {accepts : Accepts} {srv : Server} {s : List Char}
    {content : RegisterSchemaRequest} (h : Admits accepts srv s content = true) :
    ∃ i, (srv.register accepts s content).1 = ⟨200, .id i⟩ := by
  unfold Admits at h
  rcases hv : (srv.versions s).find? (·.content == content) with _ | v
  · simp only [hv, Option.isSome_none, Bool.false_or] at h
    exact ⟨srv.nextId, by simp [Server.register, hv, h]⟩
  · exact ⟨v.id, by simp [Server.register, hv]⟩

theorem register_refused {accepts : Accepts} {srv : Server} {s : List Char}
    {content : RegisterSchemaRequest} (h : Admits accepts srv s content = false) :
    srv.register accepts s content = (incompatible, srv) := by
  unfold Admits at h
  rcases hv : (srv.versions s).find? (·.content == content) with _ | v
  · simp only [hv, Option.isSome_none, Bool.false_or] at h
    simp [Server.register, hv, h]
  · simp [hv] at h

theorem subjectRequest_built {o : Schema} {c : SchemaRegistryClient} (hwf : WellFormed c.baseURL)
    (hs : Plain o.spec.subject) (e : Endpoint) :
    ∃ r, c.subjectRequest o.spec.subject (registerRequest o) o.spec.compatibilityLevel e = .ok r := by
  obtain ⟨b, hbr⟩ := hwf
  obtain ⟨r, hr, -⟩ := serve_subjectRequest (fun _ _ _ => true) b c hbr hs
    (registerRequest o) o.spec.compatibilityLevel e
  exact ⟨r, hr⟩

theorem wellFormed_client {cl : Cluster} {x : Schema} {c : SchemaRegistryClient}
    (hurl : ∀ sr, cl.registries (registryKey x) = some sr → WellFormed sr.spec.url)
    (hb : buildClient env.keyPair cl.reader x = .ok c) : WellFormed c.baseURL := by
  obtain ⟨sr, hsr, hbase⟩ := registry_of_client hb
  exact hbase ▸ hurl sr hsr

theorem buildClient_congr {keyPair : KeyPair} {rd : Reader} {o o' : Schema} (hs : o'.spec = o.spec)
    (hns : o'.metadata.ns = o.metadata.ns) : buildClient keyPair rd o' = buildClient keyPair rd o := by
  simp only [buildClient, registryKey, registryNamespace, hs, hns]

theorem readyAt_committed (s : SchemaStore) {cur o : Schema} (resp : SchemaResponse)
    (hg : cur.metadata.generation = o.metadata.generation) :
    ReadyAt (s.statusUpdated cur (committed o resp)) := by
  show Option.map _ (findStatusCondition
    (setStatusCondition o.status.conditions (readyCondition resp o.metadata.generation))
    (readyCondition resp o.metadata.generation).type) = _
  rw [findStatusCondition_setStatusCondition]
  simp [readyCondition, Store.statusUpdated, hg]

/-! ## Steps of one pass -/

section Pass

variable {w : SchemaWorld}

theorem leads_get {x : Schema} (hst : w.passes k = some .get) (hx : w.store.objects k = some x)
    (hdt : x.metadata.deletionTimestamp = false) :
    ∃ w' x', Leads controller env k w w' ∧ w'.passes k = some (.build x') ∧ w'.store.objects k = some x' ∧
      x'.spec = x.spec ∧ x'.metadata.ns = x.metadata.ns ∧
      x'.metadata.generation = x.metadata.generation ∧ w'.remote = w.remote := by
  obtain ⟨w₁, h₁, hp₁, hs₁, hr₁⟩ := leads_step controller env hst rfl (answer_get_stored hx)
  by_cases hf : schemaFinalizer ∈ x.metadata.finalizers
  · exact ⟨w₁, x, h₁, by rw [hp₁]; simp [controller, next, hdt, hf], hs₁ ▸ hx, rfl, rfl, rfl, hr₁⟩
  -- the finalizer is added, and the object read again
  have hk : (addFinalizer x).key = k := by simp [addFinalizer, hf, Obj.key, ← w.store.keyed _ _ hx]
  obtain ⟨s', hu, hobj⟩ := Store.update_lands (hk ▸ hx : w.store.objects (addFinalizer x).key = some x)
    (by simp [addFinalizer, hf])
  obtain ⟨x', hx', hspec⟩ : ∃ x', w.store.updated x (addFinalizer x) = some x' ∧
      x'.spec = x.spec ∧ x'.metadata.ns = x.metadata.ns ∧
      x'.metadata.generation = x.metadata.generation := by
    simp [Store.updated, addFinalizer, hf, hdt]
  have hs' : s'.objects k = some x' := by rw [hobj, hk, Function.update_same, hx']
  obtain ⟨w₂, h₂, hp₂, hs₂, hr₂⟩ := leads_step controller env
    (show w₁.passes k = some (.attach x) by rw [hp₁]; simp [controller, next, hdt, hf]) rfl
    (by rw [hs₁, hr₁]; simp only [answer, hu] :
      answer env w₁.cluster w₁.store w₁.remote (.update (addFinalizer x)) .none =
        some (.wrote (.ok ()), s', w.remote))
  obtain ⟨w₃, h₃, hp₃, hs₃, hr₃⟩ := leads_step controller env
    (show w₂.passes k = some (.refetch (addFinalizer x)) by rw [hp₂]; rfl) rfl
    (answer_get_stored (hs₂ ▸ hs'))
  exact ⟨w₃, x', h₁.trans (h₂.trans h₃), by rw [hp₃]; rfl, hs₃ ▸ hs₂ ▸ hs', hspec.1, hspec.2.1,
    hspec.2.2, by rw [hr₃, hr₂]⟩

theorem leads_build {x : Schema} {c : SchemaRegistryClient} {r : Request}
    (hst : w.passes k = some (.build x)) (hb : buildClient env.keyPair w.cluster.reader x = .ok c)
    (hr : c.registerSchemaRequest x.spec.subject (registerRequest x) = .ok r) :
    ∃ w', Leads controller env k w w' ∧ w'.passes k = some (.register x c r) ∧ w'.store = w.store ∧
      w'.remote = w.remote := by
  obtain ⟨w', h, hp, hs, hm⟩ := leads_step controller env hst rfl rfl
  exact ⟨w', h, by rw [hp]; simp [controller, next, hb, toRegister, hr], hs, hm⟩

theorem leads_register {x : Schema} {c : SchemaRegistryClient} {r : Request}
    (hst : w.passes k = some (.register x c r)) (hwf : WellFormed c.baseURL)
    (hr : c.registerSchemaRequest x.spec.subject (registerRequest x) = .ok r) (hs : Plain x.spec.subject)
    (hadm : Admits env.accepts (w.remote (env.server c.baseURL)) x.spec.subject.toList (registerRequest x) = true) :
    ∃ w' i, Leads controller env k w w' ∧ w'.passes k = some (afterPost x c i) ∧ w'.store = w.store := by
  obtain ⟨i, hi⟩ := register_admits hadm
  have hres : registerResult (.ok (env.roundTrip w.remote c.baseURL r).1) = .ok i := by
    rw [Env.roundTrip, serve_built hwf hs (e := .versions) hr]
    show registerResult (.ok ((w.remote (env.server c.baseURL)).register _ _ _).1) = _
    rw [hi]
    rfl
  obtain ⟨w', h, hp, hs', -⟩ := leads_step controller env hst rfl rfl
  exact ⟨w', i, h, by rw [hp]; simp only [controller, next, hres], hs'⟩

theorem leads_reread {x : Schema} {resp : SchemaResponse} (hst : w.passes k = some (.reread x resp))
    (hx : w.store.objects k = some x) :
    ∃ w', Leads controller env k w w' ∧ w'.passes k = some (.done ⟨0⟩ none) ∧
      w'.store.objects k = some (w.store.statusUpdated x (committed x resp)) := by
  obtain ⟨w₁, h₁, hp₁, hs₁, -⟩ := leads_step controller env hst rfl (answer_get_stored hx)
  have hk : (committed x resp).key = k := (w.store.keyed _ _ hx : x.key = k)
  obtain ⟨w₂, h₂, hp₂, hs₂⟩ := leads_updateStatus controller env (x := x)
    (show w₁.passes k = some (.commit x x resp) by rw [hp₁]; rfl) rfl (by rw [hs₁, hk]; exact hx) rfl
  exact ⟨w₂, h₁.trans h₂, hp₂, by rw [← hk, hs₂, hs₁]⟩

theorem leads_afterRegister {x : Schema} {c : SchemaRegistryClient} {resp : SchemaResponse}
    (hst : w.passes k = some (afterRegister x c resp)) (hx : w.store.objects k = some x) :
    ∃ w', Leads controller env k w w' ∧ w'.passes k = some (.done ⟨0⟩ none) ∧
      w'.store.objects k = some (w.store.statusUpdated x (committed x resp)) := by
  unfold afterRegister at hst
  split_ifs at hst
  · split at hst
    · obtain ⟨w₁, h₁, hp₁, hs₁, -⟩ := leads_step controller env hst rfl rfl
      obtain ⟨w₂, h₂, hp₂, hs₂⟩ := leads_reread (show w₁.passes k = some (.reread x resp) by rw [hp₁]; rfl)
        (hs₁ ▸ hx)
      exact ⟨w₂, h₁.trans h₂, hp₂, by rw [hs₂, hs₁]⟩
    · exact leads_reread hst hx
  · exact leads_reread hst hx

theorem leads_afterPost {x : Schema} {c : SchemaRegistryClient} {i : Int}
    (hst : w.passes k = some (afterPost x c i)) (hx : w.store.objects k = some x) :
    ∃ w' resp, Leads controller env k w w' ∧ w'.passes k = some (.done ⟨0⟩ none) ∧
      w'.store.objects k = some (w.store.statusUpdated x (committed x resp)) := by
  unfold afterPost at hst
  split at hst
  · obtain ⟨w₁, h₁, hp₁, hs₁, -⟩ := leads_step controller env hst rfl rfl
    obtain ⟨w₂, h₂, hp₂, hs₂⟩ := leads_afterRegister hp₁ (hs₁ ▸ hx)
    exact ⟨w₂, _, h₁.trans h₂, hp₂, by rw [hs₂, hs₁]⟩
  · obtain ⟨w', h, hp, hs⟩ := leads_afterRegister hst hx
    exact ⟨w', _, h, hp, hs⟩

theorem leads_buildFailed {x : Schema} {e : String} (hst : w.passes k = some (.build x))
    (hb : buildClient env.keyPair w.cluster.reader x = .error e) :
    ∃ w', Leads controller env k w w' ∧ w'.passes k = some (.failGet x ⟨minute⟩ "ClientBuildFailed" e) ∧
      w'.store = w.store := by
  obtain ⟨w', h, hp, hs, -⟩ := leads_step controller env hst rfl rfl
  exact ⟨w', h, by rw [hp]; simp [controller, next, hb], hs⟩

theorem leads_refused {x : Schema} {c : SchemaRegistryClient} {r : Request}
    (hst : w.passes k = some (.register x c r)) (hwf : WellFormed c.baseURL)
    (hr : c.registerSchemaRequest x.spec.subject (registerRequest x) = .ok r) (hs : Plain x.spec.subject)
    (hadm : Admits env.accepts (w.remote (env.server c.baseURL)) x.spec.subject.toList (registerRequest x) = false) :
    ∃ w' e, Leads controller env k w w' ∧ w'.passes k = some (.failGet x ⟨minute⟩ "RegistrationFailed" e) ∧
      w'.store = w.store := by
  have hres : registerResult (.ok (env.roundTrip w.remote c.baseURL r).1) =
      registerResult (.ok incompatible) := by
    rw [Env.roundTrip, serve_built hwf hs (e := .versions) hr]
    show registerResult (.ok ((w.remote (env.server c.baseURL)).register _ _ _).1) = _
    rw [register_refused hadm]
  obtain ⟨w', h, hp, hs', -⟩ := leads_step controller env hst rfl rfl
  exact ⟨w', _, h, by rw [hp]; simp only [controller, next, hres]; rfl, hs'⟩

theorem leads_failGet {x : Schema} {result : Result} {reason message : String}
    (hst : w.passes k = some (.failGet x result reason message)) (hx : w.store.objects k = some x) :
    ∃ w', Leads controller env k w w' ∧ w'.passes k = some (.done result none) ∧
      w'.store.objects k = some (w.store.statusUpdated x (conditionFailed x reason message)) := by
  obtain rfl : x.key = k := w.store.keyed _ _ hx
  obtain ⟨w₁, h₁, hp₁, hs₁, -⟩ := leads_step controller env hst rfl (answer_get_stored hx)
  obtain ⟨w₂, h₂, hp₂, hs₂⟩ := leads_updateStatus controller env (x := x)
    (show w₁.passes x.key = some (.failUpdate x x result reason message) by rw [hp₁]; rfl) rfl
    (hs₁ ▸ hx) rfl
  exact ⟨w₂, h₁.trans h₂, hp₂, by rw [← hs₁]; exact hs₂⟩

end Pass

/-! ## A pass left alone commits -/

/-- A pass over a live Schema, run with every call succeeding and no other step in between, ends
with the Schema `Ready` at its generation, with the spec it had, when its client builds from the
cluster for a registry at a well-formed URL, its subject is plain, and the registry server the URL
reaches holds its content or accepts it under the subject's current level. -/
theorem uninterrupted_pass_ready {w : SchemaWorld} {x : Schema}
    {c : SchemaRegistryClient} (hfree : w.passes k = none) (hx : w.store.objects k = some x)
    (hdt : x.metadata.deletionTimestamp = false) (hs : Plain x.spec.subject)
    (hb : buildClient env.keyPair w.cluster.reader x = .ok c) (hurl : WellFormed c.baseURL)
    (hadm : Admits env.accepts (w.remote (env.server c.baseURL)) x.spec.subject.toList (registerRequest x) =
      true) :
    ∃ n w', w.run controller env (.start k :: List.replicate n (.step k .none) ++ [.finish k]) = some w' ∧
      ∃ x', w'.store.objects k = some x' ∧ x'.spec = x.spec ∧
        x'.metadata.generation = x.metadata.generation ∧ ReadyAt x' := by
  let w₀ : SchemaWorld := { w with passes := Function.update w.passes k (some .get) }
  have hstart : w.exec controller env (.start k) = some w₀ := by simp [World.exec, hfree]; rfl
  obtain ⟨w₁, x₁, h₁, hp₁, hx₁, hspec, hns, hgen, hr₁⟩ := @leads_get env k w₀ _ (by simp [w₀]) hx hdt
  have hb₁ : buildClient env.keyPair w₁.cluster.reader x₁ = .ok c := by
    rw [h₁.cluster, buildClient_congr hspec hns]; exact hb
  have hs₁ : Plain x₁.spec.subject := hspec ▸ hs
  have hreq : registerRequest x₁ = registerRequest x := by simp [registerRequest, hspec]
  obtain ⟨r, hr⟩ := subjectRequest_built hurl hs₁ .versions
  obtain ⟨w₂, h₂, hp₂, hst₂, hr₂⟩ := leads_build hp₁ hb₁ hr
  obtain ⟨w₃, i, h₃, hp₃, hst₃⟩ := leads_register hp₂ hurl hr hs₁
    (by rw [hr₂, hr₁, hreq, hspec]; exact hadm)
  obtain ⟨w₄, resp, h₄, hp₄, hx₄⟩ := leads_afterPost hp₃ (by rw [hst₃, hst₂]; exact hx₁)
  obtain ⟨n, hn⟩ := h₁.trans (h₂.trans (h₃.trans h₄))
  refine ⟨n, { w₄ with passes := Function.update w₄.passes k none }, ?_, _, hx₄, hspec, hgen,
    readyAt_committed _ _ rfl⟩
  rw [List.cons_append]
  simp only [World.run, hstart, Option.some_bind]
  rw [World.run_append, hn, Option.some_bind]
  simp [World.run, World.exec, hp₄, controller, call]

/-- The world right after `kafka/sr` and then `kafka/orders` on it were created. -/
def ordersCreated : SchemaWorld :=
  (kafkaRun [.putRegistry kafkaRegistry, .create ordersKey (ordersSpec "sr" proto3)]).getD
    (World.init fun _ => Server.empty)

/-- The stored `kafka/orders`. -/
def ordersObject : Schema := Store.empty.fresh ordersKey (ordersSpec "sr" proto3) SchemaStatus.empty

/-- The theorem for a newly created `kafka/orders`. -/
theorem uninterrupted_pass_ready_orders :
    ∃ n w', ordersCreated.run controller kafkaEnv
        (.start ordersKey :: List.replicate n (.step ordersKey .none) ++ [.finish ordersKey]) = some w' ∧
      ∃ x', w'.store.objects ordersKey = some x' ∧ x'.spec = ordersObject.spec ∧
        x'.metadata.generation = ordersObject.metadata.generation ∧ ReadyAt x' :=
  uninterrupted_pass_ready (x := ordersObject) (c := exampleClient) (by decide)
    (by decide) (by decide) (by decide) (by rfl) ⟨exampleBase, by decide⟩ (by decide)

/-! ## The outcome of a pass left alone -/

/-- What a pass left alone records, by the branches of `Reconcile`: `Registered` when a client
builds and the registry takes the content, `ClientBuildFailed` when no client builds, and
`RegistrationFailed` when the registry refuses the content; the two failures ask to run again
after a minute. -/
def passOutcome (env : Env) (cl : Cluster) (m : Remote) (x : Schema) : ConditionStatus × String × Result :=
  match buildClient env.keyPair cl.reader x with
  | .error _ => (.conditionFalse, "ClientBuildFailed", ⟨minute⟩)
  | .ok c =>
    if Admits env.accepts (m (env.server c.baseURL)) x.spec.subject.toList (registerRequest x) then
      (.conditionTrue, "Registered", ⟨0⟩)
    else (.conditionFalse, "RegistrationFailed", ⟨minute⟩)

theorem ready_committed (s : SchemaStore) (cur o : Schema) (resp : SchemaResponse) :
    (findStatusCondition (s.statusUpdated cur (committed o resp)).status.conditions "Ready").map
      (fun c => (c.status, c.reason, c.observedGeneration)) =
      some (.conditionTrue, "Registered", o.metadata.generation) := by
  show Option.map _ (findStatusCondition (setStatusCondition o.status.conditions
    (readyCondition resp o.metadata.generation)) (readyCondition resp o.metadata.generation).type) = _
  rw [findStatusCondition_setStatusCondition]
  rfl

theorem ready_conditionFailed (s : SchemaStore) (cur o : Schema) (reason message : String) :
    (findStatusCondition (s.statusUpdated cur (conditionFailed o reason message)).status.conditions
      "Ready").map (fun c => (c.status, c.reason, c.observedGeneration)) =
      some (.conditionFalse, reason, o.metadata.generation) := by
  show Option.map _ (findStatusCondition (setStatusCondition o.status.conditions
    ⟨"Ready", .conditionFalse, reason, message, o.metadata.generation⟩)
    (Condition.type ⟨"Ready", .conditionFalse, reason, message, o.metadata.generation⟩)) = _
  rw [findStatusCondition_setStatusCondition]
  rfl

theorem passOutcome_congr (env : Env) (cl : Cluster) (m : Remote) {x x' : Schema} (hs : x'.spec = x.spec)
    (hns : x'.metadata.ns = x.metadata.ns) : passOutcome env cl m x' = passOutcome env cl m x := by
  simp only [passOutcome, buildClient_congr hs hns, registerRequest, hs]

theorem leads_outcome {w : SchemaWorld} {x : Schema}
    (hurl : ∀ sr, w.cluster.registries (registryKey x) = some sr → WellFormed sr.spec.url)
    (hst : w.passes k = some (.build x)) (hx : w.store.objects k = some x) (hs : Plain x.spec.subject) :
    ∃ w', Leads controller env k w w' ∧
      w'.passes k = some (.done (passOutcome env w.cluster w.remote x).2.2 none) ∧
      ∃ x', w'.store.objects k = some x' ∧ x'.spec = x.spec ∧
        x'.metadata.generation = x.metadata.generation ∧
        (findStatusCondition x'.status.conditions "Ready").map (fun c => (c.status, c.reason, c.observedGeneration)) =
          some ((passOutcome env w.cluster w.remote x).1, (passOutcome env w.cluster w.remote x).2.1,
            x.metadata.generation) := by
  unfold passOutcome
  rcases hb : buildClient env.keyPair w.cluster.reader x with e | c <;> dsimp only
  case error =>
    obtain ⟨w₁, h₁, hp₁, hs₁⟩ := leads_buildFailed hst hb
    obtain ⟨w₂, h₂, hp₂, hx₂⟩ := leads_failGet hp₁ (hs₁ ▸ hx)
    exact ⟨w₂, h₁.trans h₂, hp₂, _, hx₂, rfl, rfl, ready_conditionFailed _ _ _ _ _⟩
  case ok =>
    have hwf := wellFormed_client hurl hb
    obtain ⟨r, hr⟩ := subjectRequest_built hwf hs .versions
    obtain ⟨w₁, h₁, hp₁, hs₁, hr₁⟩ := leads_build hst hb hr
    rw [← hr₁]
    split_ifs with ha
    · obtain ⟨w₂, i, h₂, hp₂, hs₂⟩ := leads_register hp₁ hwf hr hs ha
      obtain ⟨w₃, resp, h₃, hp₃, hx₃⟩ := leads_afterPost hp₂ (by rw [hs₂, hs₁]; exact hx)
      exact ⟨w₃, h₁.trans (h₂.trans h₃), hp₃, _, hx₃, rfl, rfl, ready_committed _ _ _ _⟩
    · obtain ⟨w₂, e, h₂, hp₂, hs₂⟩ := leads_refused hp₁ hwf hr hs (Bool.eq_false_iff.mpr ha)
      obtain ⟨w₃, h₃, hp₃, hx₃⟩ := leads_failGet hp₂ (by rw [hs₂, hs₁]; exact hx)
      exact ⟨w₃, h₁.trans (h₂.trans h₃), hp₃, _, hx₃, rfl, rfl, ready_conditionFailed _ _ _ _ _⟩

/-- A pass over a live Schema with a plain subject, whose registry, if it has one, is at a
well-formed URL, run with every call answered and no other step in between, ends with the outcome
`passOutcome` names: that result, and that `Ready` condition at the Schema's generation, with the
spec unchanged. -/
theorem uninterrupted_pass_outcome {w : SchemaWorld} {x : Schema}
    (hurl : ∀ sr, w.cluster.registries (registryKey x) = some sr → WellFormed sr.spec.url)
    (hfree : w.passes k = none) (hx : w.store.objects k = some x)
    (hdt : x.metadata.deletionTimestamp = false) (hs : Plain x.spec.subject) :
    ∃ n w', w.run controller env (.start k :: List.replicate n (.step k .none)) = some w' ∧
      w'.passes k = some (.done (passOutcome env w.cluster w.remote x).2.2 none) ∧
      ∃ x', w'.store.objects k = some x' ∧ x'.spec = x.spec ∧
        x'.metadata.generation = x.metadata.generation ∧
        (findStatusCondition x'.status.conditions "Ready").map (fun c => (c.status, c.reason, c.observedGeneration)) =
          some ((passOutcome env w.cluster w.remote x).1, (passOutcome env w.cluster w.remote x).2.1,
            x.metadata.generation) := by
  let w₀ : SchemaWorld := { w with passes := Function.update w.passes k (some .get) }
  have hstart : w.exec controller env (.start k) = some w₀ := by simp [World.exec, hfree]; rfl
  obtain ⟨w₁, x₁, h₁, hp₁, hx₁, hspec, hns, hgen, hr₁⟩ :=
    @leads_get env k w₀ _ (by simp [w₀]) hx hdt
  have hcl : w₁.cluster = w.cluster := h₁.cluster
  obtain ⟨w', h', hp', x', hx', hs', hg', hready⟩ := leads_outcome
    (by rw [hcl, show registryKey x₁ = registryKey x by simp [registryKey, registryNamespace, hspec, hns]]
        exact hurl) hp₁ hx₁ (hspec ▸ hs)
  have ho : passOutcome env w₁.cluster w₁.remote x₁ = passOutcome env w.cluster w.remote x := by
    rw [hr₁, hcl]; exact passOutcome_congr env _ _ hspec hns
  rw [ho] at hp' hready
  obtain ⟨n, hn⟩ := h₁.trans h'
  refine ⟨n, w', ?_, hp', x', hx', hs'.trans hspec, hg'.trans hgen, hgen ▸ hready⟩
  simp only [World.run, hstart, Option.some_bind]
  exact hn

/-- The theorem for a newly created `kafka/orders`. -/
theorem uninterrupted_pass_outcome_orders :
    ∃ n w', ordersCreated.run controller kafkaEnv (.start ordersKey :: List.replicate n (.step ordersKey .none)) =
        some w' ∧
      w'.passes ordersKey =
        some (.done (passOutcome kafkaEnv ordersCreated.cluster ordersCreated.remote ordersObject).2.2 none) ∧
      ∃ x', w'.store.objects ordersKey = some x' ∧ x'.spec = ordersObject.spec ∧
        x'.metadata.generation = ordersObject.metadata.generation ∧
        (findStatusCondition x'.status.conditions "Ready").map (fun c => (c.status, c.reason, c.observedGeneration)) =
          some ((passOutcome kafkaEnv ordersCreated.cluster ordersCreated.remote ordersObject).1,
            (passOutcome kafkaEnv ordersCreated.cluster ordersCreated.remote ordersObject).2.1,
            ordersObject.metadata.generation) :=
  uninterrupted_pass_outcome (fun sr h => by cases h; exact ⟨exampleBase, by decide⟩) (by decide) (by decide)
    (by decide) (by decide)

/-! ## Which Schemas a registry change reconciles -/

/-- A change of the registry stored under `R.key`, with the Secrets as they are, changes what
`buildClient` does only for Schemas whose reference resolves to `R.key`. Of those, the router
enqueues every listed Schema of the registry's own namespace: it misses only the Schemas of other
namespaces. -/
theorem findSchemasForRegistry_covers (keyPair : KeyPair) {rd rd' : Reader} (R : SchemaRegistry)
    (hsec : rd'.secret = rd.secret) (hother : ∀ k, k ≠ R.key → rd'.registry k = rd.registry k)
    (s : Schema) (hdiff : buildClient keyPair rd' s ≠ buildClient keyPair rd s) :
    registryKey s = R.key ∧ (s.metadata.ns = R.metadata.ns → ∀ items, s ∈ items →
      s.key ∈ findSchemasForRegistry (fun ns => .ok (listInNamespace items ns)) R) := by
  have hk : registryKey s = R.key := by
    by_contra hne
    exact hdiff (by simp only [buildClient, hsec, hother _ hne])
  exact ⟨hk, fun hns items hs => (mem_findSchemasForRegistry items R s.key).mpr
    ⟨s, hs, rfl, hns, congrArg Key.name hk⟩⟩

/-- The cluster with `kafka/sr`. -/
def kafkaCluster : Cluster := Cluster.empty.putRegistry kafkaRegistry

/-- `kafka/sr` moved to another URL. -/
def movedReader : Reader :=
  (kafkaCluster.putRegistry (registryAt "sr" "http://sr-2:8081")).reader

/-- The theorem for `kafka/orders` when `kafka/sr` moves. -/
theorem findSchemasForRegistry_covers_orders :
    movedReader.secret = kafkaCluster.reader.secret ∧
      (∀ k, k ≠ kafkaRegistry.key → movedReader.registry k = kafkaCluster.reader.registry k) ∧
      buildClient kafkaEnv.keyPair movedReader ordersObject ≠
        buildClient kafkaEnv.keyPair kafkaCluster.reader ordersObject ∧
      registryKey ordersObject = kafkaRegistry.key ∧ (ordersObject.metadata.ns = kafkaRegistry.metadata.ns →
        ∀ items, ordersObject ∈ items →
          ordersObject.key ∈ findSchemasForRegistry (fun ns => .ok (listInNamespace items ns)) kafkaRegistry) := by
  have hother : ∀ k, k ≠ kafkaRegistry.key → movedReader.registry k = kafkaCluster.reader.registry k := by
    intro k hk
    have hk' : k ≠ (registryAt "sr" "http://sr-2:8081").key := hk
    simp only [movedReader, kafkaCluster, Cluster.reader, Cluster.putRegistry, Reader.ofLookup,
      Function.update_noteq hk, Function.update_noteq hk']
  have hdiff : buildClient kafkaEnv.keyPair movedReader ordersObject ≠
      buildClient kafkaEnv.keyPair kafkaCluster.reader ordersObject := by
    decide
  exact ⟨rfl, hother, hdiff,
    @findSchemasForRegistry_covers kafkaEnv.keyPair kafkaCluster.reader movedReader kafkaRegistry rfl hother _
      hdiff⟩

/-! ## A deletion left alone -/

theorem deleteSubject_done (srv : Server) (s : List Char) :
    deleteSubjectResult (.ok (srv.deleteSubject s).1) = .ok () ∧
      ∀ t, (srv.deleteSubject s).2.versions t = if s = t then [] else srv.versions t := by
  unfold Server.deleteSubject
  split
  · next h => exact ⟨rfl, fun t => by split_ifs with e <;> [exact e ▸ h; rfl]⟩
  · exact ⟨rfl, fun t => versions_setVersions _ _ _ _⟩

theorem updated_removeFinalizer (s : SchemaStore) {x : Schema} (hdt : x.metadata.deletionTimestamp = true) :
    (s.updated x (removeFinalizer x) = none ↔ ∀ f ∈ x.metadata.finalizers, f = schemaFinalizer) ∧
      ∀ x', s.updated x (removeFinalizer x) = some x' →
        schemaFinalizer ∉ x'.metadata.finalizers ∧ x'.spec = x.spec ∧ x'.metadata.uid = x.metadata.uid := by
  simp only [Store.updated, removeFinalizer, hdt, true_and, List.filter_eq_nil_iff, decide_eq_true_eq,
    not_not]
  refine ⟨by split_ifs with h; exacts [iff_of_true rfl h, iff_of_false nofun h], fun x' h => ?_⟩
  split_ifs at h
  cases h
  simp

section Deletion

variable {w : SchemaWorld}

theorem leads_getDeleting {x : Schema} (hst : w.passes k = some .get) (hx : w.store.objects k = some x)
    (hdt : x.metadata.deletionTimestamp = true) (hf : schemaFinalizer ∈ x.metadata.finalizers) :
    ∃ w', Leads controller env k w w' ∧ w'.passes k = some (.deleteBuild x) ∧ w'.store = w.store ∧
      w'.remote = w.remote := by
  obtain ⟨w', h, hp, hs, hr⟩ := leads_step controller env hst rfl (answer_get_stored hx)
  exact ⟨w', h, by rw [hp]; simp [controller, next, hdt, hf], hs, hr⟩

theorem leads_deleteBuild {x : Schema} (hst : w.passes k = some (.deleteBuild x))
    (hurl : ∀ sr, w.cluster.registries (registryKey x) = some sr → WellFormed sr.spec.url)
    (hs : Plain x.spec.subject) :
    ∃ w' cu, Leads controller env k w w' ∧ w'.passes k = some (.release x cu) ∧ w'.store = w.store ∧
      (∀ c, buildClient env.keyPair w.cluster.reader x = .ok c → w'.remote =
        Function.update w.remote (env.server c.baseURL)
          ((w.remote (env.server c.baseURL)).deleteSubject x.spec.subject.toList).2) ∧
      (∀ e, buildClient env.keyPair w.cluster.reader x = .error e → w'.remote = w.remote) := by
  obtain ⟨w₁, h₁, hp₁, hs₁, hr₁⟩ := leads_step controller env hst rfl rfl
  cases hb : buildClient env.keyPair w.cluster.reader x with
  | error e =>
    exact ⟨w₁, .waived e, h₁, by rw [hp₁]; simp [controller, next, hb], hs₁,
      nofun, fun _ _ => hr₁⟩
  | ok c =>
    have hwf := wellFormed_client hurl hb
    obtain ⟨r, hr⟩ := subjectRequest_built hwf hs .subject
    have hdel : serve env.accepts c.baseURL (w₁.remote (env.server c.baseURL)) r =
        (w₁.remote (env.server c.baseURL)).deleteSubject x.spec.subject.toList :=
      serve_built hwf hs hr _
    obtain ⟨w₂, h₂, hp₂, hs₂, hr₂⟩ := leads_step controller env
      (show w₁.passes k = some (.deleteSubject x c r) by
        rw [hp₁]; simp only [SchemaRegistryClient.subjectRequest] at hr; simp [controller, next, hb, toDelete, hr])
      rfl rfl
    refine ⟨w₂, .deleted c r (.ok (env.roundTrip w₁.remote c.baseURL r).1),
      h₁.trans h₂, ?_, hs₂.trans hs₁, fun c' h => ?_, nofun⟩
    · rw [hp₂]; simp only [controller, next, Env.roundTrip, hdel, (deleteSubject_done _ _).1]
    · cases h
      rw [hr₂, hr₁] at *
      simp only [Env.roundTrip, hdel]

theorem leads_release {x : Schema} {cl : Cleanup} (hst : w.passes k = some (.release x cl))
    (hx : w.store.objects k = some x) :
    ∃ w', Leads controller env k w w' ∧ w'.passes k = some (.done ⟨0⟩ none) ∧
      w'.store.objects k = w.store.updated x (removeFinalizer x) ∧ w'.remote = w.remote := by
  have hk : (removeFinalizer x).key = k := (w.store.keyed _ _ hx : x.key = k)
  obtain ⟨s', hu, hobj⟩ := Store.update_lands (hk ▸ hx : w.store.objects (removeFinalizer x).key = some x) rfl
  obtain ⟨w', h, hp, hs, hr⟩ := leads_step controller env hst rfl (by simp only [answer, hu] :
    answer env w.cluster w.store w.remote (.update (removeFinalizer x)) .none = some (.wrote (.ok ()), s', w.remote))
  exact ⟨w', h, by rw [hp]; rfl, by rw [hs, hobj, hk, Function.update_same], hr⟩

end Deletion

/-- A pass over a Schema marked for deletion that carries the finalizer, run with every call
succeeding and no other step in between, returns an empty `Result` and no error, having removed
the finalizer: the object goes when no other finalizer holds it, and stays otherwise with its spec
and uid. On the way it deletes every version of the subject, and only of it, at the registry
server the URL of the client it builds from the cluster reaches, and touches no other server; when
no client builds, it touches none. -/
theorem uninterrupted_deletion {w : SchemaWorld} {x : Schema}
    (hurl : ∀ sr, w.cluster.registries (registryKey x) = some sr → WellFormed sr.spec.url)
    (hfree : w.passes k = none) (hx : w.store.objects k = some x)
    (hdt : x.metadata.deletionTimestamp = true) (hf : schemaFinalizer ∈ x.metadata.finalizers)
    (hs : Plain x.spec.subject) :
    ∃ n w', w.run controller env (.start k :: List.replicate n (.step k .none)) = some w' ∧
      w'.passes k = some (.done ⟨0⟩ none) ∧
      (w'.store.objects k = none ↔ ∀ f ∈ x.metadata.finalizers, f = schemaFinalizer) ∧
      (∀ x', w'.store.objects k = some x' →
        schemaFinalizer ∉ x'.metadata.finalizers ∧ x'.spec = x.spec ∧ x'.metadata.uid = x.metadata.uid) ∧
      (∀ c, buildClient env.keyPair w.cluster.reader x = .ok c →
        (∀ t, (w'.remote (env.server c.baseURL)).versions t =
          if x.spec.subject.toList = t then [] else (w.remote (env.server c.baseURL)).versions t) ∧
        ∀ b, b ≠ env.server c.baseURL → w'.remote b = w.remote b) ∧
      (∀ e, buildClient env.keyPair w.cluster.reader x = .error e → w'.remote = w.remote) := by
  let w₀ : SchemaWorld := { w with passes := Function.update w.passes k (some .get) }
  have hstart : w.exec controller env (.start k) = some w₀ := by simp [World.exec, hfree]; rfl
  obtain ⟨w₁, h₁, hp₁, hs₁, hr₁⟩ := @leads_getDeleting env k w₀ _ (by simp [w₀]) hx hdt hf
  have hcl : w₁.cluster = w.cluster := h₁.cluster
  obtain ⟨w₂, cu, h₂, hp₂, hs₂, hok, herr⟩ := leads_deleteBuild hp₁ (hcl ▸ hurl) hs
  obtain ⟨w₃, h₃, hp₃, hx₃, hr₃⟩ := leads_release hp₂ (by rw [hs₂, hs₁]; exact hx)
  obtain ⟨n, hn⟩ := h₁.trans (h₂.trans h₃)
  obtain ⟨hnone, hsome⟩ := updated_removeFinalizer w₂.store hdt
  rw [hcl] at hok herr
  refine ⟨n, w₃, by simp only [World.run, hstart, Option.some_bind]; exact hn, hp₃, hx₃ ▸ hnone,
    fun x' h => hsome x' (hx₃ ▸ h), fun c hb => ?_, fun e hb => by rw [hr₃, herr e hb, hr₁]⟩
  have hm : w₃.remote = _ := hr₃.trans (hok c hb)
  refine ⟨fun t => ?_, fun b hne => ?_⟩
  · rw [hm, Function.update_same, (deleteSubject_done _ _).2, hr₁]
  · rw [hm, Function.update_noteq hne, hr₁]

/-- `kafka/orders` after its first pass, once a user asked to delete it. -/
def ordersMarked : SchemaWorld :=
  (kafkaRun (.putRegistry kafkaRegistry :: .create ordersKey (ordersSpec "sr" proto3) :: ordersPass ++
    [.delete ordersKey])).getD (World.init fun _ => Server.empty)

/-- The theorem for `kafka/orders`, which only the operator's finalizer holds. -/
theorem uninterrupted_deletion_orders :
    ∃ x, ordersMarked.store.objects ordersKey = some x ∧
      ∃ n w', ordersMarked.run controller kafkaEnv
          (.start ordersKey :: List.replicate n (.step ordersKey .none)) = some w' ∧
        w'.passes ordersKey = some (.done ⟨0⟩ none) ∧
        (w'.store.objects ordersKey = none ↔ ∀ f ∈ x.metadata.finalizers, f = schemaFinalizer) ∧
        (∀ x', w'.store.objects ordersKey = some x' →
          schemaFinalizer ∉ x'.metadata.finalizers ∧ x'.spec = x.spec ∧ x'.metadata.uid = x.metadata.uid) ∧
        (∀ c, buildClient kafkaEnv.keyPair ordersMarked.cluster.reader x = .ok c →
          (∀ t, (w'.remote (kafkaEnv.server c.baseURL)).versions t =
            if x.spec.subject.toList = t then [] else (ordersMarked.remote (kafkaEnv.server c.baseURL)).versions t) ∧
          ∀ b, b ≠ kafkaEnv.server c.baseURL → w'.remote b = ordersMarked.remote b) ∧
        (∀ e, buildClient kafkaEnv.keyPair ordersMarked.cluster.reader x = .error e →
          w'.remote = ordersMarked.remote) := by
  obtain ⟨x, hx⟩ : ∃ x, ordersMarked.store.objects ordersKey = some x :=
    Option.isSome_iff_exists.mp (by decide)
  have h : (ordersMarked.store.objects ordersKey).map (fun x => x.metadata.deletionTimestamp &&
      decide (schemaFinalizer ∈ x.metadata.finalizers) && decide (Plain x.spec.subject)) = some true := by
    decide
  rw [hx] at h
  simp only [Option.map_some', Option.some.injEq, Bool.and_eq_true, decide_eq_true_eq] at h
  have hurl : ∀ sr, ordersMarked.cluster.registries (registryKey x) = some sr → WellFormed sr.spec.url := by
    have hk : (ordersMarked.store.objects ordersKey).map registryKey = some kafkaRegistry.key := by decide
    rw [hx, Option.map_some', Option.some.injEq] at hk
    intro sr hsr
    have hc : ordersMarked.cluster.registries kafkaRegistry.key = some kafkaRegistry := by decide
    rw [hk, hc] at hsr
    cases hsr
    exact ⟨exampleBase, by decide⟩
  exact ⟨x, hx, uninterrupted_deletion hurl (by decide) hx h.1.1 h.1.2 h.2⟩

/-! ## The level is set after the POST -/

/-- The registry `kafka/sr`, whose rule under any level but `NONE` takes a content only as a
subject's first. -/
def strictRegistry : Env :=
  { kafkaEnv with accepts := fun level prev _ => level == "NONE" || prev.isEmpty }

/-- `sr` holding version 1 of `orders-value`, at the default level. -/
def proto2Server : Server :=
  ⟨[("orders-value".toList, [⟨1, 1, ⟨"syntax = \"proto2\";", "PROTOBUF", []⟩⟩])], [], "BACKWARD", 2⟩

/-- `kafka/orders` with a new content and the level `NONE`. -/
def relaxedSpec : SchemaSpec := { ordersSpec "sr" proto3 with compatibilityLevel := "NONE" }

/-- One pass over `kafka/orders` with every call succeeding and nothing in between. -/
def refusedWorld : Option SchemaWorld :=
  (World.init fun b => if b = "http://sr:8081" then proto2Server else Server.empty).run controller
    strictRegistry ([.putRegistry kafkaRegistry, .create ordersKey relaxedSpec, .start ordersKey] ++
      List.replicate 7 (.step ordersKey .none) ++ [.finish ordersKey])

/-- The registry takes `kafka/orders`'s content under the level its spec declares, yet the pass,
with every call answered as the registry dictates, ends with `Ready=False` for
`RegistrationFailed`, and the registry's level was never set. -/
theorem declared_level_refused :
    ∃ w, refusedWorld = some w ∧ w.passes ordersKey = none ∧
      ∃ x, w.store.objects ordersKey = some x ∧ x.spec = relaxedSpec ∧
        strictRegistry.accepts x.spec.compatibilityLevel
          (((w.remote "http://sr:8081").versions x.spec.subject.toList).map (·.content)) (registerRequest x) ∧
        (findStatusCondition x.status.conditions "Ready").map (fun c => (c.status, c.reason)) =
          some (.conditionFalse, "RegistrationFailed") ∧
        (w.remote "http://sr:8081").level x.spec.subject.toList = "BACKWARD" := by
  obtain ⟨w, hw⟩ : ∃ w, refusedWorld = some w := Option.isSome_iff_exists.mp (by decide)
  have hpass : refusedWorld.map (·.passes ordersKey) = some none := by decide
  have hspec : refusedWorld.map (fun w => (w.store.objects ordersKey).map (·.spec)) = some (some relaxedSpec) := by
    decide
  have hready : refusedWorld.map (fun w => (w.store.objects ordersKey).map fun x =>
      (findStatusCondition x.status.conditions "Ready").map (fun c => (c.status, c.reason))) =
      some (some (some (.conditionFalse, "RegistrationFailed"))) := by
    decide
  have hsrv : refusedWorld.map (·.remote "http://sr:8081") = some proto2Server := by decide
  rw [hw] at hpass hspec hready hsrv
  simp only [Option.map_some', Option.some.injEq] at hpass hspec hready hsrv
  obtain ⟨x, hx, hxs⟩ := Option.map_eq_some'.mp hspec
  rw [hx, Option.map_some', Option.some.injEq] at hready
  refine ⟨w, hw, hpass, x, hx, hxs, ?_, hready, ?_⟩ <;> simp only [registerRequest, hxs, hsrv] <;> decide

end SchemaController

end SchemaOperator
