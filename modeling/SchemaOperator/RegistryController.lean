import SchemaOperator.SchemaPass

/-!
# `SchemaRegistryReconciler`

`SchemaRegistryReconciler.Reconcile` (`internal/controller/schemaregistry_controller.go`) as a
state machine with one stage per external call, in a world of its own: its store holds the
`SchemaRegistry` objects, and it reads Secrets from the cluster, which users change between any
two steps.

A pass reads the SchemaRegistry, loads its auth bundle (`loadAuthConfig`), builds a client, runs
the health check (`GET /subjects`), reads the SchemaRegistry again and writes its status:
`observedGeneration`, the `Ready` condition and `connectionStatus`, then asks to run again in 5
minutes. A failure to load the bundle or to build the client goes to `setConditionFailed`, which
reads the object once more, writes a failed `Ready` condition, and returns an empty `Result`
with the error of that write. `findSchemaRegistriesForSecret` maps a changed Secret to the
SchemaRegistries to reconcile.

Results:
* `check_generation`: the health check's status write lands on the object the pass read and
  records its generation; while the object is the one the pass checked, that generation is at
  least the checked copy's, and equal to it only while the spec is the checked copy's.
* `status_generation`: the same for all three status writes of the two reconcilers.
* `uninterrupted_pass_requeue`: a pass left alone with every call succeeding returns no error. It
  asks to run again in 5 minutes when the auth bundle loads and the client builds; otherwise it
  writes the failed `Ready` condition and returns an empty `Result`.
* `authLoadFailed_no_requeue`: a pass over a live SchemaRegistry whose Secret is missing returns
  neither an error nor a requeue.
* `secretChange_enqueues`: a change of one Secret that changes what `loadAuthConfig` returns for
  a registry is a change of a Secret the registry references, and the Secret router enqueues the
  registry. `loadAuthConfig_congr` is the one-store half: `loadAuthConfig` reads only the
  Secrets the router matches.
* `timeout_overflows`: an admitted timeout of 9223372037 s overflows `time.Duration`, and both
  reconcilers build their client with a negative timeout.
-/

namespace SchemaOperator

namespace RegistryController

open Client Registry

/-! ## Status writes -/

/-- The status the pass commits on the fresh copy `o` after the health check answered
`healthErr`. -/
def checked (o : SchemaRegistry) (healthErr : Except String Unit) : SchemaRegistry :=
  { o with status := { o.status with
      observedGeneration := o.metadata.generation
      conditions := setStatusCondition o.status.conditions
        (match healthErr with
          | .error e => ⟨"Ready", .conditionFalse, "ConnectionFailed", e, o.metadata.generation⟩
          | .ok () => ⟨"Ready", .conditionTrue, "Connected", "Successfully connected to Schema Registry",
              o.metadata.generation⟩)
      connectionStatus := match healthErr with
        | .error _ => "Unreachable"
        | .ok () => "Connected" } }

/-- The status `setConditionFailed` writes on the copy `o`. -/
def conditionFailed (o : SchemaRegistry) (reason message : String) : SchemaRegistry :=
  { o with status := { o.status with
      conditions := setStatusCondition o.status.conditions
        ⟨"Ready", .conditionFalse, reason, message, o.metadata.generation⟩
      connectionStatus := "Unreachable" } }

/-! ## Stages -/

/-- Where a pass stands: the call it makes next, and what it holds. -/
inductive Stage where
  /-- `r.Get(req.NamespacedName)`. -/
  | get
  /-- The Secret reads of `loadAuthConfig`. -/
  | load (o : SchemaRegistry)
  /-- The GET of `HealthCheck`. -/
  | health (o : SchemaRegistry) (c : SchemaRegistryClient) (r : Request)
  /-- The `Get` before the status update; `o` is the copy the pass checked. -/
  | reread (o : SchemaRegistry) (healthErr : Except String Unit)
  /-- `r.Status().Update` of the fresh copy `o'`. -/
  | commit (o o' : SchemaRegistry) (healthErr : Except String Unit)
  /-- The `Get` of `setConditionFailed`. -/
  | failGet (o : SchemaRegistry) (reason message : String)
  /-- The `Status().Update` of `setConditionFailed` on the fresh copy `o'`. -/
  | failUpdate (o o' : SchemaRegistry) (reason message : String)
  /-- `Reconcile` returned. -/
  | done (result : Result) (err : Option String)
deriving DecidableEq

/-- After the client is built: the health check's GET, unless its request cannot be built (then
that error is the health check's). -/
def toHealth (o : SchemaRegistry) (c : SchemaRegistryClient) : Stage :=
  match c.healthCheckRequest with
  | .ok r => .health o c r
  | .error e => .reread o (.error e)

/-- The call a pass over `k` makes at each stage. -/
def call (k : Key) : Stage → Option (Call SchemaRegistrySpec SchemaRegistryStatus)
  | .get | .reread _ _ => some (.get k)
  | .load _ => some .read
  | .health _ c r => some (.send c.baseURL r)
  | .commit _ o' healthErr => some (.updateStatus (checked o' healthErr))
  | .failGet o _ _ => some (.get o.key)
  | .failUpdate _ o' reason message => some (.updateStatus (conditionFailed o' reason message))
  | .done _ _ => none

/-- The stage after the answer. -/
def next (env : Env) : Stage → Answer SchemaRegistrySpec SchemaRegistryStatus → Stage
  | .get, .got (.error e) => .done ⟨0⟩ (ignored e)
  | .get, .got (.ok o) => .load o
  | .load o, .read rd =>
    match loadAuthConfig env.keyPair rd.secret o with
    | .error e => .failGet o "AuthLoadFailed" e
    | .ok authConfig =>
      match newClient o.spec.url authConfig (timeoutOf o.spec.timeout) o.spec.insecureSkipVerify with
      | .error e => .failGet o "ClientCreateFailed" e
      | .ok c => toHealth o c
  | .health o _ _, .sent a => .reread o (healthCheckResult a)
  | .reread _ _, .got (.error e) => .done ⟨0⟩ (ignored e)
  | .reread o healthErr, .got (.ok o') => .commit o o' healthErr
  | .commit _ _ _, .wrote (.error e) => .done ⟨0⟩ (some e.message)
  | .commit _ _ _, .wrote (.ok ()) => .done ⟨5 * minute⟩ none
  | .failGet _ _ _, .got (.error e) => .done ⟨0⟩ (ignored e)
  | .failGet o reason message, .got (.ok o') => .failUpdate o o' reason message
  | .failUpdate _ _ _ _, .wrote (.error e) => .done ⟨0⟩ (some e.message)
  | .failUpdate _ _ _ _, .wrote (.ok ()) => .done ⟨0⟩ none
  | st, _ => st

/-- The SchemaRegistry reconciler with the SchemaRegistry webhook, which checks the new object
on both create and update. -/
def controller : Controller SchemaRegistrySpec SchemaRegistryStatus Stage Empty where
  start := .get
  call := call
  next := next
  events _ _ _ := []
  initStatus := SchemaRegistryStatus.empty
  admitCreate _ o := (Webhook.validateSchemaRegistrySpec o).isEmpty
  admitUpdate _ _ o := (Webhook.validateSchemaRegistrySpec o).isEmpty
  admitRegistry _ _ := false

/-- The system of SchemaRegistries. -/
abbrev RegistryWorld := World SchemaRegistrySpec SchemaRegistryStatus Stage Empty

abbrev RegistryStore := Store SchemaRegistrySpec SchemaRegistryStatus

/-! ## What every pass holds -/

/-- The copies a stage holds are filed under the pass's key, and the fresh one shares the
checked one's key. -/
def Stage.Facts (k : Key) : Stage → Prop
  | .get | .done _ _ => True
  | .load o | .health o _ _ | .reread o _ | .failGet o _ _ => o.key = k
  | .commit o o' _ | .failUpdate o o' _ _ => o.key = k ∧ o'.key = k

/-- The copies a stage holds that are snapshots. -/
def Stage.snaps : Stage → List SchemaRegistry
  | .commit _ o' _ | .failUpdate _ o' _ _ => [o']
  | _ => []

/-- The copies whose generation and spec the store tracks. -/
def Stage.tracked : Stage → List SchemaRegistry
  | .load o | .health o _ _ | .reread o _ | .failGet o _ _ | .commit o _ _ | .failUpdate o _ _ _ => [o]
  | _ => []

/-- A pass over `k` at stage `st`, in store `s`. -/
structure StageOK (s : RegistryStore) (k : Key) (st : Stage) : Prop where
  facts : st.Facts k
  snap : ∀ o ∈ st.snaps, Store.Snap s o
  tracks : ∀ o ∈ st.tracked, Store.Tracks s o

/-- Every pass is at a stage it can be at. -/
def Inv (w : RegistryWorld) : Prop :=
  ∀ k st, w.passes k = some st → StageOK w.store k st

variable {env : Env} {s s' : RegistryStore} {k : Key}

theorem stageOK_done {r : Result} {e : Option String} : StageOK s k (.done r e) :=
  ⟨trivial, (fun _ h => nomatch h), (fun _ h => nomatch h)⟩

theorem stageOK_working {st : Stage} {o : SchemaRegistry} (hf : st.Facts k) (hs : st.snaps = [])
    (ht : st.tracked = [o]) (htr : Store.Tracks s o) : StageOK s k st :=
  ⟨hf, by simp [hs], by simp [ht, htr]⟩

theorem stageOK_fresh {o o' : SchemaRegistry} {st' : Stage} (hg : s.get k = .ok o') (ht : Store.Tracks s o) (hf' : st'.Facts k)
    (hs' : st'.snaps = [o']) (ht' : st'.tracked = [o]) : StageOK s k st' :=
  ⟨hf', by simp [hs', Store.snap_of_get hg], by simp [ht', ht]⟩

theorem stageOK_load {o : SchemaRegistry} {rd : Reader} (hok : StageOK s k (.load o)) :
    StageOK s k (next env (.load o) (.read rd)) := by
  have ht := hok.tracks o (by simp [Stage.tracked])
  simp only [next]
  split
  · exact stageOK_working hok.facts rfl rfl ht
  · split
    · exact stageOK_working hok.facts rfl rfl ht
    · unfold toHealth
      split
      · exact stageOK_working hok.facts rfl rfl ht
      · exact stageOK_working hok.facts rfl rfl ht

theorem stageOK_next {cl : Cluster} {m m' : Remote} {st : Stage}
    {c : Call SchemaRegistrySpec SchemaRegistryStatus} {f : Fault}
    {a : Answer SchemaRegistrySpec SchemaRegistryStatus} (hok : StageOK s k st)
    (hc : call k st = some c) (ha : answer env cl s m c f = some (a, s', m')) :
    StageOK s' k (next env st a) := by
  cases st with
  | get =>
    cases hc
    apply answer_get_cases ha
    · exact fun _ => stageOK_done
    intro o hg
    exact stageOK_working (s.keyed _ _ (Store.get_ok.mp hg)) rfl rfl (Store.tracks_of_get hg)
  | load o =>
    cases hc
    obtain ⟨hs', -, rd, rfl, -⟩ := answer_read ha
    rw [hs']
    exact stageOK_load hok
  | health o c r =>
    cases hc
    rcases answer_send ha with ⟨hs', ⟨rfl, -⟩ | ⟨e, rfl, -⟩⟩ <;> rw [hs'] <;>
    exact stageOK_working hok.facts rfl rfl (hok.tracks o (by simp [Stage.tracked]))
  | reread o healthErr =>
    cases hc
    apply answer_get_cases ha
    · exact fun _ => stageOK_done
    intro o' hg
    exact stageOK_fresh hg (hok.tracks o (by simp [Stage.tracked]))
      ⟨hok.facts, s.keyed _ _ (Store.get_ok.mp hg)⟩ rfl rfl
  | commit o o' healthErr =>
    cases hc
    obtain ⟨-, ⟨rfl, -⟩ | ⟨e, rfl, -⟩⟩ := answer_updateStatus ha <;> exact stageOK_done
  | failGet o reason message =>
    cases hc
    have hk : o.key = k := hok.facts
    rw [hk] at ha
    apply answer_get_cases ha
    · exact fun _ => stageOK_done
    intro o' hg
    exact stageOK_fresh hg (hok.tracks o (by simp [Stage.tracked]))
      ⟨hk, s.keyed _ _ (Store.get_ok.mp hg)⟩ rfl rfl
  | failUpdate o o' reason message =>
    cases hc
    obtain ⟨-, ⟨rfl, -⟩ | ⟨e, rfl, -⟩⟩ := answer_updateStatus ha <;> exact stageOK_done
  | done => cases hc

theorem inv_step {w w' : RegistryWorld} {ch : Choice SchemaRegistrySpec} (hi : Inv w)
    (h : StepKind controller env w ch w') : Inv w' := by
  have other : ∀ k st, w.passes k = some st → StageOK w'.store k st :=
    fun k st hk => ⟨(hi k st hk).facts, fun o ho => h.snap ((hi k st hk).snap o ho),
      fun o ho => h.tracks ((hi k st hk).tracks o ho)⟩
  intro k st' hk
  rcases h.pass hk with ⟨hold, -⟩ | ⟨-, rfl⟩ | ⟨st, c, f, a, s, m, -, hst, hc, ha, rfl, rfl⟩
  · exact other k st' hold
  · exact ⟨trivial, (fun _ h => nomatch h), (fun _ h => nomatch h)⟩
  · exact stageOK_next (hi _ _ hst) hc ha

theorem inv_reachable {policy : RegistryWorld → Choice SchemaRegistrySpec → Prop} {m : Remote}
    {w : RegistryWorld} (hw : Reachable controller env policy m w) : Inv w := by
  induction hw with
  | init => intro k st h; cases h
  | step _ _ hx ih => exact inv_step ih (exec_kind hx)

/-! ## Status writes -/

/-- The health check's status write lands on the object the pass read and records its generation,
in `observedGeneration` and in the `Ready` condition. While the object is the one the pass
checked (same `uid`), that generation is at least the checked copy's, and equal to it only while
the spec is the checked copy's. -/
theorem check_generation {policy : RegistryWorld → Choice SchemaRegistrySpec → Prop} {m : Remote}
    {w w' : RegistryWorld} {f : Fault} {o o' : SchemaRegistry} {healthErr : Except String Unit}
    (hw : Reachable controller env policy m w) (hst : w.passes k = some (.commit o o' healthErr))
    (hstep : w.exec controller env (.step k f) = some w') :
    w'.store = w.store ∨ ∃ x, w'.store.objects k = some x ∧
      x.status = (checked o' healthErr).status ∧
      x.status.observedGeneration = x.metadata.generation ∧
      readyGeneration x.status.conditions = some x.metadata.generation ∧
      (x.metadata.uid = o.metadata.uid → o.metadata.generation ≤ x.metadata.generation ∧
        (x.metadata.generation = o.metadata.generation → x.spec = o.spec)) := by
  cases exec_kind hstep with
  | call hst' hc ha =>
    rw [hst] at hst'; cases hst'; cases hc
    rcases answer_store ha with hs | ⟨_, hc, -⟩ | ⟨n, hc, hu⟩
    · exact .inl hs
    · cases hc
    cases hc
    have hok := inv_reachable hw k _ hst
    obtain ⟨hk, hk'⟩ := hok.facts
    obtain ⟨hcur, hobj⟩ := Store.updateStatus_landed (o := checked o' healthErr)
      (hok.snap o' (by simp [Stage.snaps])) rfl hu
    refine .inr ⟨w.store.statusUpdated o' (checked o' healthErr), hk' ▸ hobj, rfl, rfl, ?_, fun hu' =>
      (hok.tracks o (by simp [Stage.tracked])).2 o' (by rw [hk, ← hk']; exact hcur) hu'⟩
    cases healthErr <;> exact readyGeneration_setStatusCondition _ rfl
  | recluster hm => cases hm

/-- The status write of `setConditionFailed` lands on the object the pass read, and its `Ready`
condition records the object's generation, bounded as the health check's. -/
theorem failed_generation {policy : RegistryWorld → Choice SchemaRegistrySpec → Prop} {m : Remote}
    {w w' : RegistryWorld} {f : Fault} {o o' : SchemaRegistry} {reason message : String}
    (hw : Reachable controller env policy m w)
    (hst : w.passes k = some (.failUpdate o o' reason message))
    (hstep : w.exec controller env (.step k f) = some w') :
    w'.store = w.store ∨ ∃ x, w'.store.objects k = some x ∧
      x.status = (conditionFailed o' reason message).status ∧
      readyGeneration x.status.conditions = some x.metadata.generation ∧
      (x.metadata.uid = o.metadata.uid → o.metadata.generation ≤ x.metadata.generation ∧
        (x.metadata.generation = o.metadata.generation → x.spec = o.spec)) := by
  cases exec_kind hstep with
  | call hst' hc ha =>
    rw [hst] at hst'; cases hst'; cases hc
    rcases answer_store ha with hs | ⟨_, hc, -⟩ | ⟨n, hc, hu⟩
    · exact .inl hs
    · cases hc
    cases hc
    have hok := inv_reachable hw k _ hst
    obtain ⟨hk, hk'⟩ := hok.facts
    obtain ⟨hcur, hobj⟩ := Store.updateStatus_landed (o := conditionFailed o' reason message)
      (hok.snap o' (by simp [Stage.snaps])) rfl hu
    exact .inr ⟨w.store.statusUpdated o' (conditionFailed o' reason message), hk' ▸ hobj, rfl,
      readyGeneration_setStatusCondition _ rfl, fun hu' =>
      (hok.tracks o (by simp [Stage.tracked])).2 o' (by rw [hk, ← hk']; exact hcur) hu'⟩
  | recluster hm => cases hm

/-- The status writes of both reconcilers land on the object the pass read again and record that
object's generation at the time of the write. The copy the pass used (registered, or
health-checked) bounds that generation from below, and has it only while the spec is still the
copy's: a spec update between the pass's use of its copy and its re-read is recorded under the
newer generation. The Schema's object cannot be replaced meanwhile, since the finalizer pins it;
a SchemaRegistry's can, and the bound holds while the `uid` is the checked copy's. -/
theorem status_generation (env : Env) (m : Remote) :
    (∀ (policy : SchemaController.SchemaWorld → Choice SchemaSpec → Prop) w w' k f o o' resp,
      Reachable SchemaController.controller env policy m w →
      w.passes k = some (.commit o o' resp) →
      w.exec SchemaController.controller env (.step k f) = some w' →
      w'.store = w.store ∨ ∃ x, w'.store.objects k = some x ∧ x.metadata.uid = o.metadata.uid ∧
        x.status = (SchemaController.committed o' resp).status ∧
        x.status.observedGeneration = x.metadata.generation ∧
        readyGeneration x.status.conditions = some x.metadata.generation ∧
        o.metadata.generation ≤ x.metadata.generation ∧
        (x.metadata.generation = o.metadata.generation → x.spec = o.spec)) ∧
    (∀ (policy : SchemaController.SchemaWorld → Choice SchemaSpec → Prop) w w' k f o o' result
        reason message,
      Reachable SchemaController.controller env policy m w →
      w.passes k = some (.failUpdate o o' result reason message) →
      w.exec SchemaController.controller env (.step k f) = some w' →
      w'.store = w.store ∨ ∃ x, w'.store.objects k = some x ∧ x.metadata.uid = o.metadata.uid ∧
        x.status = (SchemaController.conditionFailed o' reason message).status ∧
        readyGeneration x.status.conditions = some x.metadata.generation ∧
        o.metadata.generation ≤ x.metadata.generation ∧
        (x.metadata.generation = o.metadata.generation → x.spec = o.spec)) ∧
    (∀ (policy : RegistryWorld → Choice SchemaRegistrySpec → Prop) w w' k f o o' healthErr,
      Reachable controller env policy m w →
      w.passes k = some (.commit o o' healthErr) →
      w.exec controller env (.step k f) = some w' →
      w'.store = w.store ∨ ∃ x, w'.store.objects k = some x ∧
        x.status = (checked o' healthErr).status ∧
        x.status.observedGeneration = x.metadata.generation ∧
        readyGeneration x.status.conditions = some x.metadata.generation ∧
        (x.metadata.uid = o.metadata.uid → o.metadata.generation ≤ x.metadata.generation ∧
          (x.metadata.generation = o.metadata.generation → x.spec = o.spec))) ∧
    (∀ (policy : RegistryWorld → Choice SchemaRegistrySpec → Prop) w w' k f o o' reason message,
      Reachable controller env policy m w →
      w.passes k = some (.failUpdate o o' reason message) →
      w.exec controller env (.step k f) = some w' →
      w'.store = w.store ∨ ∃ x, w'.store.objects k = some x ∧
        x.status = (conditionFailed o' reason message).status ∧
        readyGeneration x.status.conditions = some x.metadata.generation ∧
        (x.metadata.uid = o.metadata.uid → o.metadata.generation ≤ x.metadata.generation ∧
          (x.metadata.generation = o.metadata.generation → x.spec = o.spec))) :=
  ⟨fun _ _ _ _ _ _ _ _ hw hst hstep => SchemaController.commit_generation hw hst hstep,
    fun _ _ _ _ _ _ _ _ _ _ hw hst hstep => SchemaController.failUpdate_generation hw hst hstep,
    fun _ _ _ _ _ _ _ _ hw hst hstep => check_generation hw hst hstep,
    fun _ _ _ _ _ _ _ _ _ hw hst hstep => failed_generation hw hst hstep⟩

open SchemaController (kafkaEnv kafkaRegistry ordersKey ordersSpec proto3)

/-- A pass over `kafka/orders` on `kafka/sr` that registers its first schema, while the user
changes the schema before the pass's re-read; the pass is about to commit. -/
def racedCommit : Option SchemaController.SchemaWorld :=
  (World.init (fun _ => Server.empty)).run SchemaController.controller kafkaEnv
    [.putRegistry kafkaRegistry, .create ordersKey (ordersSpec "sr" proto3), .start ordersKey,
      .step ordersKey .none, .step ordersKey .none, .step ordersKey .none, .step ordersKey .none,
      .step ordersKey .none, .step ordersKey .none,
      .update ordersKey (ordersSpec "sr" "syntax = \"proto2\";"),
      .step ordersKey .none]

/-- `racedCommit` after the commit. -/
def racedRun : Option SchemaController.SchemaWorld :=
  racedCommit.bind (·.exec SchemaController.controller kafkaEnv (.step ordersKey .none))

/-- The theorem at the commit of `racedCommit`: the pass registered the schema of generation 1,
and its write records generation 2. -/
theorem status_generation_raced :
    ∃ w w' o o' resp, Reachable SchemaController.controller kafkaEnv anyone (fun _ => Server.empty) w ∧
      w.passes ordersKey = some (.commit o o' resp) ∧
      w.exec SchemaController.controller kafkaEnv (.step ordersKey .none) = some w' ∧
      o.metadata.generation = 1 ∧ ∃ x, w'.store.objects ordersKey = some x ∧
        x.status.observedGeneration = x.metadata.generation ∧ x.metadata.generation = 2 := by
  obtain ⟨w, hw⟩ : ∃ w, racedCommit = some w := Option.isSome_iff_exists.mp (by decide)
  have hnext : racedRun.isSome := by decide
  have hgen : (racedCommit.map fun w => match w.passes ordersKey with
      | some (.commit o _ _) => o.metadata.generation
      | _ => 0) = some 1 := by decide
  have hnew : racedRun.map (fun w' => (w'.store.objects ordersKey).map (·.metadata.generation)) =
      some (some 2) := by decide
  have hrev : racedRun.map (·.store.revision) ≠ racedCommit.map (·.store.revision) := by decide
  simp only [racedRun, hw, Option.some_bind, Option.map_some', Option.some.injEq] at hnext hgen hnew hrev
  obtain ⟨w', hw'⟩ := Option.isSome_iff_exists.mp hnext
  rw [hw', Option.map_some', Option.some.injEq] at hnew
  rw [hw', Option.map_some', Ne, Option.some.injEq] at hrev
  split at hgen
  · rename_i o o' resp hst
    have hreach := reachable_run .init hw
    rcases (status_generation kafkaEnv _).1 anyone w w' ordersKey .none o o' resp hreach hst hw' with
      hs | ⟨x, hx, -, -, hobs, -⟩
    · exact absurd (congrArg Store.revision hs) hrev
    · rw [hx, Option.map_some', Option.some.injEq] at hnew
      exact ⟨w, w', o, o', resp, hreach, hst, hw', hgen, x, hx, hobs, hnew⟩
  · cases hgen

/-- In `racedRun` the pass commits `Ready=True` at generation 2, whose schema the registry never
received: it registered generation 1's. -/
theorem commit_records_unregistered :
    racedRun.map (fun w => (w.store.objects ordersKey).map fun x =>
        (x.metadata.generation, x.status.observedGeneration,
          findStatusCondition x.status.conditions "Ready", x.spec.schema)) =
      some (some (2, 2, some ⟨"Ready", .conditionTrue, "Registered", "Schema registered with ID 1, version 1", 2⟩,
        "syntax = \"proto2\";")) ∧
    racedRun.map (fun w => ((w.remote "http://sr:8081").versions "orders-value".toList).map
        (·.content.schema)) = some ["syntax = \"proto3\";"] := by
  decide

/-! ## A pass that schedules nothing -/

/-- The SchemaRegistry `kafka/sr`. -/
def kafkaKey : Key := ⟨"kafka", "sr"⟩

/-- A registry with BASIC auth from the Secret `creds`. -/
def basicSpec : SchemaRegistrySpec :=
  ⟨"http://sr:8081", some ⟨.basic, some ⟨"creds"⟩, none, none⟩, false, 30⟩

/-- A pass over a stored SchemaRegistry whose Secret is missing (the cluster holds no Secret)
writes `Ready=False` with reason `AuthLoadFailed`, then returns an empty `Result` and no error:
nothing runs it again until the object or a watched Secret changes. -/
theorem authLoadFailed_no_requeue :
    ((World.init (fun _ => Server.empty) : RegistryWorld).run controller kafkaEnv
        [.create kafkaKey basicSpec, .start kafkaKey, .step kafkaKey .none, .step kafkaKey .none,
          .step kafkaKey .none, .step kafkaKey .none]).map
      (fun w => (w.passes kafkaKey, (w.store.objects kafkaKey).map fun x =>
        (findStatusCondition x.status.conditions "Ready").map (·.reason))) =
      some (some (.done ⟨0⟩ none), some (some "AuthLoadFailed")) := by
  decide

/-! ## A pass left alone -/

section Pass

variable {w : RegistryWorld} {x : SchemaRegistry}

theorem leads_fail {reason message : String} (hst : w.passes k = some (.failGet x reason message))
    (hx : w.store.objects k = some x) :
    ∃ w', Leads controller env k w w' ∧ w'.passes k = some (.done ⟨0⟩ none) ∧
      ∃ y, w'.store.objects k = some y ∧ y.status = (conditionFailed x reason message).status := by
  obtain rfl : x.key = k := w.store.keyed _ _ hx
  obtain ⟨w₁, h₁, hp₁, hs₁, -⟩ := leads_step controller env hst rfl (answer_get_stored hx)
  obtain ⟨w₂, h₂, hp₂, hobj⟩ := leads_updateStatus controller env (x := x)
    (show w₁.passes x.key = some (.failUpdate x x reason message) by rw [hp₁]; rfl) rfl (hs₁ ▸ hx) rfl
  exact ⟨w₂, h₁.trans h₂, hp₂, _, hobj, rfl⟩

theorem leads_reread {healthErr : Except String Unit} (hst : w.passes k = some (.reread x healthErr))
    (hx : w.store.objects k = some x) :
    ∃ w', Leads controller env k w w' ∧ w'.passes k = some (.done ⟨5 * minute⟩ none) ∧
      ∃ y, w'.store.objects k = some y ∧ y.status = (checked x healthErr).status := by
  obtain rfl : x.key = k := w.store.keyed _ _ hx
  obtain ⟨w₁, h₁, hp₁, hs₁, -⟩ := leads_step controller env hst rfl (answer_get_stored hx)
  obtain ⟨w₂, h₂, hp₂, hobj⟩ := leads_updateStatus controller env (x := x)
    (show w₁.passes x.key = some (.commit x x healthErr) by rw [hp₁]; rfl) rfl (hs₁ ▸ hx) rfl
  exact ⟨w₂, h₁.trans h₂, hp₂, _, hobj, rfl⟩

theorem leads_load (hst : w.passes k = some (.load x)) (hx : w.store.objects k = some x) :
    ∃ w' r, Leads controller env k w w' ∧ w'.passes k = some (.done r none) ∧
      ((r = ⟨5 * minute⟩ ∧ (∃ a c, loadAuthConfig env.keyPair w.cluster.reader.secret x = .ok a ∧
          newClient x.spec.url a (timeoutOf x.spec.timeout) x.spec.insecureSkipVerify = .ok c) ∧
        ∃ healthErr y, w'.store.objects k = some y ∧ y.status = (checked x healthErr).status) ∨
      (r = ⟨0⟩ ∧ ∃ reason message y, w'.store.objects k = some y ∧
        y.status = (conditionFailed x reason message).status ∧
        (reason = "AuthLoadFailed" ∧ loadAuthConfig env.keyPair w.cluster.reader.secret x = .error message ∨
          reason = "ClientCreateFailed" ∧ ∃ a, loadAuthConfig env.keyPair w.cluster.reader.secret x = .ok a ∧
            newClient x.spec.url a (timeoutOf x.spec.timeout) x.spec.insecureSkipVerify = .error message))) := by
  obtain ⟨w₁, h₁, hp₁, hs₁, -⟩ := leads_step controller env hst rfl rfl
  have hx₁ : w₁.store.objects k = some x := hs₁ ▸ hx
  rcases hl : loadAuthConfig env.keyPair w.cluster.reader.secret x with e | a
  · obtain ⟨w₂, h₂, hp₂, y, hy, hys⟩ := leads_fail
      (show w₁.passes k = some (.failGet x "AuthLoadFailed" e) by rw [hp₁]; simp [controller, next, hl]) hx₁
    exact ⟨w₂, _, h₁.trans h₂, hp₂, .inr ⟨rfl, _, _, y, hy, hys, .inl ⟨rfl, rfl⟩⟩⟩
  rcases hn : newClient x.spec.url a (timeoutOf x.spec.timeout) x.spec.insecureSkipVerify with e | c
  · obtain ⟨w₂, h₂, hp₂, y, hy, hys⟩ := leads_fail
      (show w₁.passes k = some (.failGet x "ClientCreateFailed" e) by
        rw [hp₁]; simp [controller, next, hl, hn]) hx₁
    exact ⟨w₂, _, h₁.trans h₂, hp₂, .inr ⟨rfl, _, _, y, hy, hys, .inr ⟨rfl, a, rfl, hn⟩⟩⟩
  -- the health check's GET, when its request is built
  obtain ⟨w₂, healthErr, h₂, hp₂, hs₂⟩ : ∃ w₂ healthErr, Leads controller env k w₁ w₂ ∧
      w₂.passes k = some (.reread x healthErr) ∧ w₂.store = w₁.store := by
    rcases hr : c.healthCheckRequest with e | r
    · exact ⟨w₁, .error e, .refl _, by rw [hp₁]; simp [controller, next, hl, hn, toHealth, hr], rfl⟩
    · obtain ⟨w₂, h₂, hp₂, hs₂, -⟩ := leads_step controller env
        (show w₁.passes k = some (.health x c r) by rw [hp₁]; simp [controller, next, hl, hn, toHealth, hr])
        rfl rfl
      exact ⟨w₂, _, h₂, hp₂, hs₂⟩
  obtain ⟨w₃, h₃, hp₃, y, hy, hys⟩ := leads_reread hp₂ (hs₂ ▸ hx₁)
  exact ⟨w₃, _, h₁.trans (h₂.trans h₃), hp₃, .inl ⟨rfl, ⟨a, c, rfl, hn⟩, healthErr, y, hy, hys⟩⟩

end Pass

/-- A pass over a stored SchemaRegistry, run with every call succeeding and no other step in
between, returns no error. When the auth bundle loads from the cluster's Secrets and the client
builds, the pass writes the health check's status and asks to run again in 5 minutes. Otherwise it
takes `setConditionFailed`: it writes `Ready=False` with reason `AuthLoadFailed` or
`ClientCreateFailed` and the error's message, and returns an empty `Result`, so that nothing
schedules it again. -/
theorem uninterrupted_pass_requeue {w : RegistryWorld} {x : SchemaRegistry} (hfree : w.passes k = none)
    (hx : w.store.objects k = some x) :
    ∃ n w' r, w.run controller env (.start k :: List.replicate n (.step k .none)) = some w' ∧
      w'.passes k = some (.done r none) ∧
      ((r = ⟨5 * minute⟩ ∧ (∃ a c, loadAuthConfig env.keyPair w.cluster.reader.secret x = .ok a ∧
          newClient x.spec.url a (timeoutOf x.spec.timeout) x.spec.insecureSkipVerify = .ok c) ∧
        ∃ healthErr y, w'.store.objects k = some y ∧ y.status = (checked x healthErr).status) ∨
      (r = ⟨0⟩ ∧ ∃ reason message y, w'.store.objects k = some y ∧
        y.status = (conditionFailed x reason message).status ∧
        (reason = "AuthLoadFailed" ∧ loadAuthConfig env.keyPair w.cluster.reader.secret x = .error message ∨
          reason = "ClientCreateFailed" ∧ ∃ a, loadAuthConfig env.keyPair w.cluster.reader.secret x = .ok a ∧
            newClient x.spec.url a (timeoutOf x.spec.timeout) x.spec.insecureSkipVerify = .error message))) := by
  let w₀ : RegistryWorld := { w with passes := Function.update w.passes k (some .get) }
  have hstart : w.exec controller env (.start k) = some w₀ := by simp [World.exec, hfree]; rfl
  have hp₀ : w₀.passes k = some .get := by simp [w₀]
  obtain ⟨w₁, h₁, hp₁, hs₁, -⟩ := leads_step controller env hp₀ rfl (answer_get_stored hx)
  obtain ⟨w₂, r, h₂, hp₂, hr⟩ := leads_load hp₁ (hs₁ ▸ hx)
  rw [h₁.cluster] at hr
  obtain ⟨n, hn⟩ := h₁.trans h₂
  exact ⟨n, w₂, r, by simp only [World.run, hstart, Option.some_bind]; exact hn, hp₂, hr⟩

/-- `kafka/sr` right after its creation, in a cluster with no Secret. -/
def basicCreated : RegistryWorld :=
  ((World.init fun _ => Server.empty : RegistryWorld).exec controller kafkaEnv
    (.create kafkaKey basicSpec)).getD (World.init fun _ => Server.empty)

/-- The theorem for the newly created `kafka/sr`. -/
theorem uninterrupted_pass_requeue_basic :
    ∃ n w' r, basicCreated.run controller kafkaEnv
        (.start kafkaKey :: List.replicate n (.step kafkaKey .none)) = some w' ∧
      w'.passes kafkaKey = some (.done r none) ∧
      ((r = ⟨5 * minute⟩ ∧ (∃ a c, loadAuthConfig kafkaEnv.keyPair Cluster.empty.reader.secret
            (Store.empty.fresh kafkaKey basicSpec SchemaRegistryStatus.empty) = .ok a ∧
          newClient basicSpec.url a (timeoutOf basicSpec.timeout) basicSpec.insecureSkipVerify = .ok c) ∧
        ∃ healthErr y, w'.store.objects kafkaKey = some y ∧ y.status =
          (checked (Store.empty.fresh kafkaKey basicSpec SchemaRegistryStatus.empty) healthErr).status) ∨
      (r = ⟨0⟩ ∧ ∃ reason message y, w'.store.objects kafkaKey = some y ∧
        y.status = (conditionFailed (Store.empty.fresh kafkaKey basicSpec SchemaRegistryStatus.empty)
          reason message).status ∧
        (reason = "AuthLoadFailed" ∧ loadAuthConfig kafkaEnv.keyPair Cluster.empty.reader.secret
            (Store.empty.fresh kafkaKey basicSpec SchemaRegistryStatus.empty) = .error message ∨
          reason = "ClientCreateFailed" ∧ ∃ a, loadAuthConfig kafkaEnv.keyPair Cluster.empty.reader.secret
            (Store.empty.fresh kafkaKey basicSpec SchemaRegistryStatus.empty) = .ok a ∧
            newClient basicSpec.url a (timeoutOf basicSpec.timeout) basicSpec.insecureSkipVerify =
              .error message))) :=
  uninterrupted_pass_requeue (by decide) (by rfl)

/-! ## findSchemaRegistriesForSecret -/

/-- `schemaRegistryReferencesSecret`: whether the config block of the registry's auth strategy
names the Secret. -/
def schemaRegistryReferencesSecret (sr : SchemaRegistry) (secretName : String) : Bool :=
  match sr.spec.auth with
  | none => false
  | some auth =>
    match auth.type with
    | .basic =>
      match auth.basicAuth with
      | none => false
      | some b => b.secretRef == secretName
    | .bearer =>
      match auth.bearerAuth with
      | none => false
      | some b => b.secretRef == secretName
    | .mtls =>
      match auth.mtls with
      | none => false
      | some m => m.certSecretRef == secretName || m.caSecretRef == secretName
    | .none => false

/-- `r.List(ctx, &list, client.InNamespace(ns))` over the stored SchemaRegistries `items`. -/
def listInNamespace (items : List SchemaRegistry) (ns : String) : List SchemaRegistry :=
  items.filter (·.metadata.ns = ns)

/-- `findSchemaRegistriesForSecret`: the listed SchemaRegistries of the Secret's namespace that
reference it. A failed list enqueues nothing. -/
def findSchemaRegistriesForSecret (list : String → Except StatusError (List SchemaRegistry))
    (secret : Key) : List Key :=
  match list secret.ns with
  | .error _ => []
  | .ok items => (items.filter fun sr => schemaRegistryReferencesSecret sr secret.name).map Obj.key

theorem mem_findSchemaRegistriesForSecret (items : List SchemaRegistry) (secret k : Key) :
    k ∈ findSchemaRegistriesForSecret (fun ns => .ok (listInNamespace items ns)) secret ↔
      ∃ sr ∈ items, sr.key = k ∧ sr.metadata.ns = secret.ns ∧
        schemaRegistryReferencesSecret sr secret.name = true := by
  simp [findSchemaRegistriesForSecret, listInNamespace, and_assoc, and_comm, and_left_comm]

example : findSchemaRegistriesForSecret
    (fun ns => .ok (listInNamespace [{ SchemaController.registryAt "sr" "http://sr:8081" with
      spec := basicSpec }] ns)) ⟨"kafka", "creds"⟩ = [kafkaKey] := by
  decide

theorem loadAuthConfig_congr (keyPair : KeyPair) {g₁ g₂ : Key → Except StatusError Secret}
    (sr : SchemaRegistry)
    (h : ∀ n, schemaRegistryReferencesSecret sr n = true → g₁ ⟨sr.metadata.ns, n⟩ = g₂ ⟨sr.metadata.ns, n⟩) :
    loadAuthConfig keyPair g₁ sr = loadAuthConfig keyPair g₂ sr := by
  unfold loadAuthConfig
  simp only [schemaRegistryReferencesSecret] at h
  rcases ha : sr.spec.auth with _ | auth
  · rfl
  simp only [ha] at h
  rcases ht : auth.type with _ | _ | _ | _ <;> simp only [ht] at h ⊢
  · rcases hb : auth.basicAuth with _ | b
    · rfl
    · simp only [hb] at h ⊢
      rw [h b.secretRef (by simp)]
  · rcases hb : auth.bearerAuth with _ | b
    · rfl
    · simp only [hb] at h ⊢
      rw [h b.secretRef (by simp)]
  · rcases hm : auth.mtls with _ | m
    · rfl
    · simp only [hm] at h ⊢
      -- the client certificate's Secret, then the CA's inside `loadMTLS`
      rw [h m.certSecretRef (by simp)]
      unfold loadMTLS
      rw [h m.caSecretRef (by simp)]

/-- When two secret stores differ only in one Secret of a registry's namespace and
`loadAuthConfig` gives the registry different results under them (an error or a bundle), the
registry references that Secret, and `findSchemaRegistriesForSecret` enqueues it from any list
of the namespace that holds it. -/
theorem secretChange_enqueues (keyPair : KeyPair) (sr : SchemaRegistry) (n : String)
    (g₁ g₂ : Key → Except StatusError Secret) (hdiff : ∀ k, k ≠ ⟨sr.metadata.ns, n⟩ → g₁ k = g₂ k)
    (hload : loadAuthConfig keyPair g₁ sr ≠ loadAuthConfig keyPair g₂ sr) :
    schemaRegistryReferencesSecret sr n = true ∧
      ∀ (list : String → Except StatusError (List SchemaRegistry)) (items : List SchemaRegistry),
        list sr.metadata.ns = .ok items → sr ∈ items →
        sr.key ∈ findSchemaRegistriesForSecret list ⟨sr.metadata.ns, n⟩ := by
  have href : schemaRegistryReferencesSecret sr n = true := by
    by_contra hn
    refine hload (loadAuthConfig_congr keyPair sr fun m hm => hdiff _ fun he => hn ?_)
    cases he
    exact hm
  refine ⟨href, fun list items hl hmem => ?_⟩
  simp only [findSchemaRegistriesForSecret, hl]
  exact List.mem_map_of_mem _ (List.mem_filter.2 ⟨hmem, href⟩)

/-- A store that holds only the Secret `kafka/creds`. -/
def credsStored (k : Key) : Except StatusError Secret :=
  if k = ⟨"kafka", "creds"⟩ then .ok ⟨[("username", "app"), ("password", "s3cret")]⟩ else .error .notFound

/-- The theorem for the BASIC registry of `creds`, between no Secret and a stored `creds`. -/
theorem secretChange_enqueues_creds :
    (∀ k, k ≠ ⟨basicRegistry.metadata.ns, "creds"⟩ →
        (fun _ => .error .notFound : Key → Except StatusError Secret) k = credsStored k) ∧
      loadAuthConfig (fun _ _ => .ok ()) (fun _ => .error .notFound) basicRegistry ≠
        loadAuthConfig (fun _ _ => .ok ()) credsStored basicRegistry ∧
      schemaRegistryReferencesSecret basicRegistry "creds" = true ∧
      ∀ (list : String → Except StatusError (List SchemaRegistry)) (items : List SchemaRegistry),
        list basicRegistry.metadata.ns = .ok items → basicRegistry ∈ items →
        basicRegistry.key ∈ findSchemaRegistriesForSecret list ⟨basicRegistry.metadata.ns, "creds"⟩ :=
  have hdiff : ∀ k, k ≠ ⟨basicRegistry.metadata.ns, "creds"⟩ →
      (fun _ => .error .notFound : Key → Except StatusError Secret) k = credsStored k :=
    fun _ hk => (if_neg hk).symm
  have hload : loadAuthConfig (fun _ _ => .ok ()) (fun _ => .error .notFound) basicRegistry ≠
      loadAuthConfig (fun _ _ => .ok ()) credsStored basicRegistry := by
    decide
  ⟨hdiff, hload, secretChange_enqueues _ basicRegistry "creds" _ _ hdiff hload⟩

/-! ## The timeout -/

/-- `kafka/sr` with a timeout of 9223372037 s, one second more than a `time.Duration` holds. -/
def overflowRegistry : SchemaRegistry :=
  { SchemaController.registryAt "sr" "http://sr:8081" with
    spec := ⟨"http://sr:8081", none, false, 9223372037⟩ }

/-- A cluster with `overflowRegistry` and no Secret. -/
def overflowCluster : Cluster := Cluster.empty.putRegistry overflowRegistry

/-- The webhook admits a timeout of 9223372037 s, and `time.Duration(t) * time.Second` overflows
`int64`: the client `SchemaReconciler.buildClient` builds for a Schema on the registry, and the
one `SchemaRegistryReconciler.Reconcile` runs the health check with, both get the negative
timeout -9223372036709551616 ns, which `http.Client` reads as none. One second less gives the
expected positive timeout. -/
theorem timeout_overflows :
    Webhook.validateSchemaRegistrySpec overflowRegistry = [] ∧
      (buildClient kafkaEnv.keyPair overflowCluster.reader
          (Store.empty.fresh ordersKey (ordersSpec "sr" proto3) SchemaStatus.empty)).map
        (·.httpClient.timeout) = .ok (-9223372036709551616) ∧
      (∃ c r, next kafkaEnv (.load overflowRegistry) (.read overflowCluster.reader) =
          .health overflowRegistry c r ∧ c.httpClient.timeout = -9223372036709551616) ∧
      timeoutOf (overflowRegistry.spec.timeout - 1) = (overflowRegistry.spec.timeout - 1) * 1000000000 :=
  ⟨by decide, by decide, ⟨_, _, rfl, rfl⟩, timeoutOf_of_le (by decide) (by decide)⟩

end RegistryController

end SchemaOperator
