import SchemaOperator.Ownership
import SchemaOperator.RegistryController

/-!
# What the reconcilers write

Both reconcilers write to the stored objects: the Schema pass adds and removes its finalizer, and
both passes write statuses. This module proves what those writes never do.

Both reconcilers record in a status the generation they acted on. The Schema commit and the
SchemaRegistry health check set `observedGeneration`, and every status write stamps its `Ready`
condition with the generation. No stored object, in any reachable state and whatever the users
do, records a generation it has not reached. Generations only grow: a user's `update` bumps them
and no write lowers them. A status write lands only on the object whose revision the pass read,
so the generation it stamps is the object's own. `StepKind.objects_preserved` reduces the run to
the four kinds of write; only the status writes need the pass invariant, for the snapshot they
are made from.

The passes write no spec. A finalizer `Update` is made from a snapshot and changes only the
finalizers, so the store keeps the generation; a status write changes only the status. The moves
of the passes alone keep every stored object's spec, generation, uid and deletion request, create
no object, and remove only objects whose deletion was requested (`SpecsKept`, a relation that
composes along a run).

Results:
* `observedGeneration_bounded`: for the Schemas and for the SchemaRegistries, in every reachable
  state, `status.observedGeneration` and the `observedGeneration` of every condition are at most
  `metadata.generation`.
* `passes_keep_specs`: for both reconcilers, from every reachable world, the moves of the passes
  alone, whatever their calls answer, keep the specs.
* `RegistryController.registries_untouched`: the SchemaRegistry reconciler changes no registry;
  its only request is the health check's GET (`HealthGets`).
* `SchemaController.identity_fixed`: a Schema's subject and schema type are fixed for its
  lifetime, under any users: the webhook keeps them on update, and the passes write no spec.
-/

namespace SchemaOperator

/-- A status claims no generation beyond `generation`: neither its `observedGeneration` nor that
of any of its conditions. -/
def ObservedBounded (observed : Nat) (conditions : List Condition) (generation : Nat) : Prop :=
  observed ≤ generation ∧ ∀ c ∈ conditions, c.observedGeneration ≤ generation

theorem ObservedBounded.mono {observed g g' : Nat} {cs : List Condition}
    (h : ObservedBounded observed cs g) (hg : g ≤ g') : ObservedBounded observed cs g' :=
  ⟨h.1.trans hg, fun c hc => (h.2 c hc).trans hg⟩

theorem ObservedBounded.set {observed g : Nat} {cs : List Condition} {c : Condition}
    (h : ObservedBounded observed cs g) (hc : c.observedGeneration ≤ g) :
    ∀ d ∈ setStatusCondition cs c, d.observedGeneration ≤ g := fun d hd =>
  (mem_setStatusCondition hd).elim (fun e => e ▸ hc) (h.2 d)

theorem observedBounded_empty (g : Nat) : ObservedBounded 0 [] g :=
  ⟨Nat.zero_le _, fun _ h => nomatch h⟩

section Generic

variable {Spec Status Stage Ev : Type} [DecidableEq Spec] (obs : Status → Nat)
  (conds : Status → List Condition)

/-- The bound of a stored object, read through the projections of its status. -/
def ObservedIn (x : Obj Spec Status) : Prop :=
  ObservedBounded (obs x.status) (conds x.status) x.metadata.generation

theorem StepKind.observedIn {ctl : Controller Spec Status Stage Ev} {env : Env}
    {w w' : World Spec Status Stage Ev} {ch : Choice Spec} (h : StepKind ctl env w ch w')
    (hinit : obs ctl.initStatus = 0 ∧ conds ctl.initStatus = [])
    (hstatus : ∀ k st n cur, w.passes k = some st → ctl.call k st = some (.updateStatus n) →
      w.store.objects n.key = some cur → cur.metadata.resourceVersion = n.metadata.resourceVersion →
      ObservedIn obs conds cur → ObservedIn obs conds (w.store.statusUpdated cur n))
    (hw : ∀ k x, w.store.objects k = some x → ObservedIn obs conds x) :
    ∀ k x, w'.store.objects k = some x → ObservedIn obs conds x :=
  h.objects_preserved hw
    (fun _ _ => by
      show ObservedBounded (obs ctl.initStatus) (conds ctl.initStatus) _
      rw [hinit.1, hinit.2]; exact observedBounded_empty _)
    (fun cur _ _ hb hx => by
      obtain ⟨-, -, -, -, -, -, hs, hg⟩ := Store.updated_spec hx
      unfold ObservedIn; rw [hs]
      exact hb.mono (by rw [hg]; split <;> omega))
    (fun cur _ hb hx => by
      obtain ⟨hs, hg, -⟩ := Store.deleted_some hx
      unfold ObservedIn; rw [hs, hg]; exact hb.mono (Nat.le_succ _))
    hstatus

end Generic

namespace SchemaController

/-- A pass's status write keeps the bound: it lands only on the object whose revision the pass
read, and stamps that object's generation. -/
theorem observed_statusUpdated {env : Env} {H : Cluster → Prop} {s : SchemaStore} {k : Key} {st : Stage}
    {n cur : Schema} (hok : StageOK env H s k st) (hc : call k st = some (.updateStatus n))
    (hcur : s.objects n.key = some cur) (hrv : cur.metadata.resourceVersion = n.metadata.resourceVersion)
    (hb : ObservedIn SchemaStatus.observedGeneration SchemaStatus.conditions cur) :
    ObservedIn SchemaStatus.observedGeneration SchemaStatus.conditions (s.statusUpdated cur n) := by
  obtain ⟨o', hsnap, hm, -, hform⟩ := call_updateStatus hok hc
  have hk : n.key = o'.key := by simp only [Obj.key, hm]
  obtain rfl : cur = o' := hsnap.2.2 cur (hk ▸ hcur) (hrv.trans (by rw [hm]))
  rcases hform with ⟨-, resp, -, rfl⟩ | ⟨-, -, reason, message, -, rfl⟩
  · exact ⟨le_rfl, hb.set le_rfl⟩
  · exact ⟨hb.1, hb.set le_rfl⟩

/-- The run lemma: every reachable world keeps every stored Schema within the bound. -/
theorem observed_reachable {env : Env} {policy : SchemaWorld → Choice SchemaSpec → Prop} {m : Remote}
    {w : SchemaWorld} (hw : Reachable controller env policy m w) :
    ∀ k x, w.store.objects k = some x → ObservedIn SchemaStatus.observedGeneration SchemaStatus.conditions x := by
  induction hw with
  | init => intro k x h; cases h
  | step hr _ hexec ih =>
    exact (exec_kind hexec).observedIn _ _ ⟨rfl, rfl⟩
      (fun k st _ _ hst hc hcur hrv hb => observed_statusUpdated (inv_reachable hr k st hst) hc hcur hrv hb) ih

end SchemaController

namespace RegistryController

/-- A pass's status write keeps the bound, as for the Schemas. -/
theorem observed_statusUpdated {s : RegistryStore} {k : Key} {st : Stage} {n cur : SchemaRegistry}
    (hok : StageOK s k st) (hc : call k st = some (.updateStatus n))
    (hcur : s.objects n.key = some cur) (hrv : cur.metadata.resourceVersion = n.metadata.resourceVersion)
    (hb : ObservedIn SchemaRegistryStatus.observedGeneration SchemaRegistryStatus.conditions cur) :
    ObservedIn SchemaRegistryStatus.observedGeneration SchemaRegistryStatus.conditions
      (s.statusUpdated cur n) := by
  cases st <;> simp only [call, Option.some.injEq, Call.updateStatus.injEq, reduceCtorEq] at hc <;>
    subst hc
  case commit o o' healthErr =>
    obtain rfl : cur = o' := (hok.snap o' (by simp [Stage.snaps])).2.2 cur hcur hrv
    exact ⟨le_rfl, hb.set (by rcases healthErr with _ | ⟨⟩ <;> exact le_rfl)⟩
  case failUpdate o o' reason message =>
    obtain rfl : cur = o' := (hok.snap o' (by simp [Stage.snaps])).2.2 cur hcur hrv
    exact ⟨hb.1, hb.set le_rfl⟩

/-- The run lemma: every reachable world keeps every stored SchemaRegistry within the bound. -/
theorem observed_reachable {env : Env} {policy : RegistryWorld → Choice SchemaRegistrySpec → Prop}
    {m : Remote} {w : RegistryWorld} (hw : Reachable controller env policy m w) :
    ∀ k x, w.store.objects k = some x →
      ObservedIn SchemaRegistryStatus.observedGeneration SchemaRegistryStatus.conditions x := by
  induction hw with
  | init => intro k x h; cases h
  | step hr _ hexec ih =>
    exact (exec_kind hexec).observedIn _ _ ⟨rfl, rfl⟩
      (fun k st _ _ hst hc hcur hrv hb => observed_statusUpdated (inv_reachable hr k st hst) hc hcur hrv hb) ih

end RegistryController

/-- In every reachable state of either reconciler's world, whatever the users do and whichever
calls fail, no stored Schema or SchemaRegistry records an observed generation beyond its
`metadata.generation`, in its status or in one of its conditions. -/
theorem observedGeneration_bounded (env : Env) (m : Remote) :
    (∀ (policy : SchemaController.SchemaWorld → Choice SchemaSpec → Prop) w k x,
      Reachable SchemaController.controller env policy m w → w.store.objects k = some x →
      x.status.observedGeneration ≤ x.metadata.generation ∧
        ∀ c ∈ x.status.conditions, c.observedGeneration ≤ x.metadata.generation) ∧
    (∀ (policy : RegistryController.RegistryWorld → Choice SchemaRegistrySpec → Prop) w k x,
      Reachable RegistryController.controller env policy m w → w.store.objects k = some x →
      x.status.observedGeneration ≤ x.metadata.generation ∧
        ∀ c ∈ x.status.conditions, c.observedGeneration ≤ x.metadata.generation) :=
  ⟨fun _ _ k x hw hx => SchemaController.observed_reachable hw k x hx,
    fun _ _ k x hw hx => RegistryController.observed_reachable hw k x hx⟩

/-! ## The passes write no spec -/

section Specs

variable {Spec Status Stage Ev : Type}

/-- A move of a pass, rather than a user's request. -/
def Choice.isPass : Choice Spec → Bool
  | .start _ | .step _ _ | .finish _ => true
  | _ => false

/-- `x'` is `x` with the same spec, generation, uid and deletion request. -/
def SpecKept (x x' : Obj Spec Status) : Prop :=
  x'.spec = x.spec ∧ x'.metadata.generation = x.metadata.generation ∧
    x'.metadata.uid = x.metadata.uid ∧ x'.metadata.deletionTimestamp = x.metadata.deletionTimestamp

/-- What a key holds later: what it held, with its spec kept; nothing, once the deletion of what
it held was requested; or nothing, as before. -/
def KeptAs : Option (Obj Spec Status) → Option (Obj Spec Status) → Prop
  | none, none => True
  | some x, none => x.metadata.deletionTimestamp = true
  | some x, some x' => SpecKept x x'
  | none, some _ => False

theorem keptAs_refl : ∀ v : Option (Obj Spec Status), KeptAs v v
  | none => trivial
  | some _ => ⟨rfl, rfl, rfl, rfl⟩

theorem KeptAs.trans : ∀ {u v v' : Option (Obj Spec Status)}, KeptAs u v → KeptAs v v' → KeptAs u v'
  | none, none, none, _, _ => trivial
  | some _, none, none, h, _ => h
  | some _, some _, none, h, h' => h.2.2.2.symm.trans h'
  | some _, some _, some _, h, h' =>
    ⟨h'.1.trans h.1, h'.2.1.trans h.2.1, h'.2.2.1.trans h.2.2.1, h'.2.2.2.trans h.2.2.2⟩
  | none, some _, _, h, _ => h.elim
  | _, none, some _, _, h' => h'.elim

/-- Every key of `s'` holds what it held in `s`, as `KeptAs` allows. -/
def SpecsKept (s s' : Store Spec Status) : Prop :=
  ∀ k, KeptAs (s.objects k) (s'.objects k)

theorem SpecsKept.refl (s : Store Spec Status) : SpecsKept s s := fun _ => keptAs_refl _

theorem SpecsKept.trans {s₁ s₂ s₃ : Store Spec Status} (h : SpecsKept s₁ s₂) (h' : SpecsKept s₂ s₃) :
    SpecsKept s₁ s₃ := fun k => (h k).trans (h' k)

theorem specsKept_write {s s' : Store Spec Status} {k₀ : Key} {v : Option (Obj Spec Status)}
    (hobj : s'.objects = Function.update s.objects k₀ v) (hv : KeptAs (s.objects k₀) v) :
    SpecsKept s s' := by
  intro k
  rw [hobj]
  by_cases e : k = k₀
  · subst e; rw [Function.update_same]; exact hv
  · rw [Function.update_noteq e]; exact keptAs_refl _

theorem keptAs_updated [DecidableEq Spec] {s : Store Spec Status} {cur o : Obj Spec Status}
    (hsp : o.spec = cur.spec) :
    KeptAs (some cur) (s.updated cur o) := by
  unfold Store.updated
  split_ifs with h
  · exact h.1
  · exact ⟨hsp, rfl, rfl, rfl⟩

theorem StepKind.specsKept [DecidableEq Spec] {ctl : Controller Spec Status Stage Ev} {env : Env}
    {w w' : World Spec Status Stage Ev} {ch : Choice Spec} (h : StepKind ctl env w ch w')
    (hch : ch.isPass = true)
    (hupd : ∀ k st o cur, w.passes k = some st → ctl.call k st = some (.update o) →
      w.store.objects o.key = some cur → cur.metadata.resourceVersion = o.metadata.resourceVersion →
      o.spec = cur.spec) :
    SpecsKept w.store w'.store := by
  cases h with
  | create => cases hch
  | update => cases hch
  | delete => cases hch
  | recluster hm => cases hm <;> cases hch
  | start => exact .refl _
  | finish => exact .refl _
  | call hst hc ha =>
    rw [World.answered_store]
    rcases answer_store ha with rfl | ⟨o, rfl, hu⟩ | ⟨n, rfl, hu⟩
    · exact .refl _
    · obtain ⟨cur, hcur, hrv, hobj, -⟩ := Store.update_ok hu
      exact specsKept_write hobj (hcur ▸ keptAs_updated (hupd _ _ o cur hst hc hcur hrv))
    · obtain ⟨cur, hcur, -, hobj, -⟩ := Store.updateStatus_ok hu
      exact specsKept_write hobj (hcur ▸ ⟨rfl, rfl, rfl, rfl⟩)

/-- The run lemma: from a world of an invariant `I` that every step keeps, and under which every
`Update` of a pass keeps the spec, the moves of the passes alone keep the specs. -/
theorem run_specsKept [DecidableEq Spec] {ctl : Controller Spec Status Stage Ev} {env : Env}
    {I : World Spec Status Stage Ev → Prop}
    (hI : ∀ {w w' ch}, I w → StepKind ctl env w ch w' → I w')
    (hupd : ∀ {w}, I w → ∀ k st o cur, w.passes k = some st → ctl.call k st = some (.update o) →
      w.store.objects o.key = some cur → cur.metadata.resourceVersion = o.metadata.resourceVersion →
      o.spec = cur.spec) :
    ∀ {chs : List (Choice Spec)} {w w' : World Spec Status Stage Ev}, I w → (∀ ch ∈ chs, ch.isPass = true) →
      w.run ctl env chs = some w' → SpecsKept w.store w'.store
  | [], _, _, _, _, h => by cases h; exact .refl _
  | ch :: chs, w, _, hi, hchs, h => by
    simp only [World.run, Option.bind_eq_some] at h
    obtain ⟨w₁, h₁, h₂⟩ := h
    have hk := exec_kind h₁
    exact (hk.specsKept (hchs ch (.head _)) (hupd hi)).trans
      (run_specsKept hI hupd (hI hi hk) (fun c hc => hchs c (.tail _ hc)) h₂)

end Specs

theorem SchemaController.update_keeps_spec {env : Env} {w : SchemaController.SchemaWorld}
    (hi : SchemaController.Inv env w) {k : Key} {st : SchemaController.Stage} {o cur : Schema}
    (hst : w.passes k = some st) (hc : SchemaController.call k st = some (.update o))
    (hcur : w.store.objects o.key = some cur) (hrv : cur.metadata.resourceVersion = o.metadata.resourceVersion) :
    o.spec = cur.spec := by
  have hok := hi k st hst
  obtain ⟨-, ⟨o₀, rfl, rfl⟩ | ⟨o₀, cl, rfl, rfl⟩⟩ := SchemaController.call_update hok.facts hc
  · obtain rfl : cur = o₀ := (hok.snap o₀ (by simp [SchemaController.Stage.snaps])).2.2 cur
      (by rwa [SchemaController.addFinalizer_key] at hcur)
      (by rw [hrv, SchemaController.addFinalizer_resourceVersion])
    exact SchemaController.addFinalizer_spec cur
  · obtain rfl : cur = o₀ := (hok.snap o₀ (by simp [SchemaController.Stage.snaps])).2.2 cur hcur hrv
    rfl

theorem RegistryController.call_ne_update (k : Key) (st : RegistryController.Stage)
    (o : SchemaRegistry) : RegistryController.call k st ≠ some (.update o) := by
  cases st <;> simp [RegistryController.call]

/-- Neither reconciler writes a spec. From every reachable world, the moves of the passes alone,
whatever their calls answer, keep the spec, generation, uid and deletion request of every stored
object, create no object, and remove only objects whose deletion was requested. -/
theorem passes_keep_specs (env : Env) (m : Remote) :
    (∀ (policy : SchemaController.SchemaWorld → Choice SchemaSpec → Prop) w w' chs,
      Reachable SchemaController.controller env policy m w → (∀ ch ∈ chs, Choice.isPass ch = true) →
      w.run SchemaController.controller env chs = some w' → SpecsKept w.store w'.store) ∧
    (∀ (policy : RegistryController.RegistryWorld → Choice SchemaRegistrySpec → Prop) w w' chs,
      Reachable RegistryController.controller env policy m w → (∀ ch ∈ chs, Choice.isPass ch = true) →
      w.run RegistryController.controller env chs = some w' → SpecsKept w.store w'.store) :=
  ⟨fun _ _ _ _ hw => run_specsKept (fun hi h => SchemaController.inv_step hi h)
      (fun hi _ _ _ _ => SchemaController.update_keeps_spec hi) (SchemaController.inv_reachable hw),
    fun _ _ _ _ _ => run_specsKept (I := fun _ => True) (fun _ _ => trivial)
      (fun _ k st o _ _ hc => absurd hc (RegistryController.call_ne_update k st o)) trivial⟩

/-! ## The SchemaRegistry pass changes no registry -/

theorem Client.SchemaRegistryClient.request_method {c : SchemaRegistryClient} {m : Client.Method}
    {path : String} {body : Client.Body} {json : Bool} {r : Client.Request}
    (h : c.request m path body json = .ok r) : r.method = m := by
  simp only [Client.SchemaRegistryClient.request, Client.newRequest] at h
  cases hu : URL.parse (c.baseURL ++ path).toList <;> simp only [hu, Except.map, reduceCtorEq] at h
  cases h
  unfold Client.SchemaRegistryClient.addAuth
  split_ifs <;> rfl

/-- A GET changes no registry, whatever its URL. -/
theorem Registry.serve_get (accepts : Registry.Accepts) (base : String) (srv : Registry.Server)
    {r : Client.Request} (h : r.method = .get) : (Registry.serve accepts base srv r).2 = srv := by
  unfold Registry.serve
  split
  · rfl
  · rw [h]
    unfold Registry.route
    split <;> (try split_ifs) <;> first | rfl | contradiction

namespace RegistryController

open Client Registry

/-- The request of every health check a pass holds is a GET. -/
def HealthGets (w : RegistryWorld) : Prop :=
  ∀ k o c r, w.passes k = some (.health o c r) → r.method = .get

theorem next_health {env : Env} {st : Stage} {a : Answer SchemaRegistrySpec SchemaRegistryStatus}
    {o : SchemaRegistry} {c : SchemaRegistryClient} {r : Client.Request} (h : next env st a = .health o c r) :
    st = .health o c r ∨ c.healthCheckRequest = .ok r := by
  cases st <;> rcases a with (_ | _) | (_ | _) | _ | _ <;> simp only [next, reduceCtorEq] at h <;>
    try exact .inl h
  split at h
  · cases h
  split at h
  · cases h
  unfold toHealth at h
  split at h
  · cases h; exact .inr ‹_›
  · cases h

theorem healthGets_step {env : Env} {w w' : RegistryWorld} {ch : Choice SchemaRegistrySpec}
    (hg : HealthGets w) (h : StepKind controller env w ch w') : HealthGets w' := by
  intro k o c r hk
  rcases h.pass hk with ⟨hold, -⟩ | ⟨-, he⟩ | ⟨st, -, -, a, -, -, -, hst, -, -, he, -⟩
  · exact hg k o c r hold
  · cases he
  · rcases next_health he.symm with rfl | hr
    · exact hg k o c r hst
    · exact Client.SchemaRegistryClient.request_method hr

theorem registries_step {env : Env} {w w' : RegistryWorld} {ch : Choice SchemaRegistrySpec}
    (hg : HealthGets w) (h : StepKind controller env w ch w') : w'.remote = w.remote := by
  cases h with
  | @call k st _ _ _ _ _ hst hc ha =>
    rcases answer_remote ha with e | ⟨base, r, rfl, e⟩
    · exact e
    · cases st <;> simp only [controller, call, Option.some.injEq, Call.send.injEq, reduceCtorEq] at hc
      obtain ⟨rfl, rfl⟩ := hc
      rw [e]
      simp only [World.answered_remote, Env.roundTrip, Registry.serve_get _ _ _ (hg _ _ _ _ hst),
        Function.update_eq_self]
  | _ => rfl

/-- The SchemaRegistry reconciler changes no registry: in every reachable world, under any users
and any faults, every registry holds what it held at the start. Its only request is the health
check's GET. -/
theorem registries_untouched {env : Env} {policy : RegistryWorld → Choice SchemaRegistrySpec → Prop}
    {m : Remote} {w : RegistryWorld} (hw : Reachable controller env policy m w) : w.remote = m := by
  suffices HealthGets w ∧ w.remote = m from this.2
  induction hw with
  | init => exact ⟨fun _ _ _ _ h => (nomatch h), rfl⟩
  | step _ _ hx ih =>
    have h := exec_kind hx
    exact ⟨healthGets_step ih.1 h, (registries_step ih.1 h).trans ih.2⟩

/-- `kafka/sr` with no authentication, created and health-checked once. -/
def checkedWorld : Option RegistryWorld :=
  (World.init fun _ => Server.empty).run controller SchemaController.kafkaEnv
    ([.create kafkaKey (SchemaController.registryAt "sr" "http://sr:8081").spec, .start kafkaKey] ++
      List.replicate 3 (.step kafkaKey .none))

/-- The theorem after the health check of `kafka/sr`. -/
theorem registries_untouched_checked :
    ∃ w, checkedWorld = some w ∧ Reachable controller SchemaController.kafkaEnv anyone (fun _ => Server.empty) w ∧
      w.remote = fun _ => Server.empty := by
  obtain ⟨w, hw⟩ : ∃ w, checkedWorld = some w := Option.isSome_iff_exists.mp (by decide)
  have hr := reachable_run .init hw
  exact ⟨w, hw, hr, registries_untouched hr⟩

end RegistryController

/-! ## A Schema's subject and schema type are fixed for its lifetime -/

namespace SchemaController

open Registry

theorem identity_step {env : Env} {w w' : SchemaWorld} {ch : Choice SchemaSpec} (hi : Inv env w)
    (h : StepKind controller env w ch w') {k : Key} {x' : Schema} (hx' : w'.store.objects k = some x')
    (hu : x'.metadata.uid ≤ w.store.revision) :
    ∃ x, w.store.objects k = some x ∧ x.metadata.uid = x'.metadata.uid ∧
      x'.spec.subject = x.spec.subject ∧ x'.spec.schemaType = x.spec.schemaType := by
  rcases object_step hi h k with e | ⟨spec, -, -, e⟩ | ⟨cur, o, hcur, e, ho⟩ | ⟨cur, -, hcur, e⟩ |
      ⟨-, n, cur, -, -, -, -, hcur, -, e⟩ <;> rw [e] at hx'
  · exact ⟨x', hx', rfl, rfl, rfl⟩
  · cases hx'; exact absurd hu (by simp [Store.fresh])
  · obtain ⟨-, hu', -, hs, -⟩ := Store.updated_spec hx'
    refine ⟨cur, hcur, hu'.symm, ?_⟩
    rw [hs]
    rcases ho with ⟨spec, -, rfl, hadm⟩ | hos
    · obtain ⟨hsub, htype, -⟩ := (Webhook.validateUpdate_eq_nil _ _ _).mp (List.isEmpty_iff.mp hadm)
      exact ⟨hsub.symm, htype.symm⟩
    · rw [hos]; exact ⟨rfl, rfl⟩
  · obtain ⟨-, -, hs, hu'⟩ := Store.deleted_some hx'
    exact ⟨cur, hcur, hu'.symm, by rw [hs], by rw [hs]⟩
  · cases hx'; exact ⟨cur, hcur, rfl, rfl, rfl⟩

/-- The run lemma: an object stored at the end of a run with a uid from before the run was stored
under its key before, with its subject and schema type. -/
theorem identity_run {env : Env} :
    ∀ {chs : List (Choice SchemaSpec)} {w w' : SchemaWorld}, Inv env w → w.run controller env chs = some w' →
      ∀ k x', w'.store.objects k = some x' → x'.metadata.uid ≤ w.store.revision →
        ∃ x, w.store.objects k = some x ∧ x.metadata.uid = x'.metadata.uid ∧
          x'.spec.subject = x.spec.subject ∧ x'.spec.schemaType = x.spec.schemaType
  | [], _, _, _, h => by cases h; exact fun _ x' hx' _ => ⟨x', hx', rfl, rfl, rfl⟩
  | ch :: chs, w, _, hi, h => by
    simp only [World.run, Option.bind_eq_some] at h
    obtain ⟨w₁, h₁, h₂⟩ := h
    have hk := exec_kind h₁
    intro k x' hx' hu
    obtain ⟨y, hy, hyu, hys, hyt⟩ := identity_run (inv_step hi hk) h₂ k x' hx' (hu.trans hk.revision_le)
    obtain ⟨x, hx, hxu, hxs, hxt⟩ := identity_step hi hk hy (hyu ▸ hu)
    exact ⟨x, hx, hxu.trans hyu, hys.trans hxs, hyt.trans hxt⟩

/-- A Schema's subject and schema type are fixed for its lifetime. Whatever the users do, along
every run from a reachable world, the object stored under a key with the uid of the object stored
there before has that object's subject and schema type. -/
theorem identity_fixed {env : Env} {policy : SchemaWorld → Choice SchemaSpec → Prop} {m : Remote}
    {w w' : SchemaWorld} {chs : List (Choice SchemaSpec)} (hw : Reachable controller env policy m w)
    (h : w.run controller env chs = some w') {k : Key} {x x' : Schema} (hx : w.store.objects k = some x)
    (hx' : w'.store.objects k = some x') (hu : x'.metadata.uid = x.metadata.uid) :
    x'.spec.subject = x.spec.subject ∧ x'.spec.schemaType = x.spec.schemaType := by
  obtain ⟨x₀, hx₀, -, hs, ht⟩ := identity_run (inv_reachable hw) h k x' hx' (hu ▸ w.store.uid_le _ _ hx)
  rw [hx] at hx₀
  cases hx₀
  exact ⟨hs, ht⟩

/-- `kafka/orders` after its first pass; a user then gives it a new schema, and a second pass
registers that. -/
def ordersRevised : List (Choice SchemaSpec) :=
  [.update ordersKey (ordersSpec "sr" "syntax = \"proto2\";"), .start ordersKey] ++
    List.replicate 6 (.step ordersKey .none) ++ [.finish ordersKey]

/-- The theorem over the revision of `kafka/orders`. -/
theorem identity_fixed_orders :
    ∃ w w' x x', Reachable controller kafkaEnv anyone (fun _ => Server.empty) w ∧
      w.run controller kafkaEnv ordersRevised = some w' ∧ w.store.objects ordersKey = some x ∧
      w'.store.objects ordersKey = some x' ∧ x'.metadata.uid = x.metadata.uid ∧
      x'.spec.subject = x.spec.subject ∧ x'.spec.schemaType = x.spec.schemaType := by
  have h : (ordersRegistered.bind fun w => (w.store.objects ordersKey).bind fun x =>
      (w.run controller kafkaEnv ordersRevised).bind fun w' =>
        (w'.store.objects ordersKey).map fun x' => decide (x'.metadata.uid = x.metadata.uid)) = some true := by
    decide
  simp only [Option.bind_eq_some, Option.map_eq_some', decide_eq_true_eq] at h
  obtain ⟨w, hw, x, hx, w', hw', x', hx', hu⟩ := h
  have hr := reachable_run .init hw
  exact ⟨w, w', x, x', hr, hw', hx, hx', hu, identity_fixed hr hw' hx hx' hu⟩

end SchemaController

end SchemaOperator
