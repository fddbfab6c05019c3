import SchemaOperator.Auth
import SchemaOperator.Registry

/-!
# Passes and the world they run in

controller-runtime runs `Reconcile` once per request, one request per key at a time, while
users and other passes change the store. A pass is modelled as a state machine that makes one
external call per step: a `Get`, an `Update`, a `Status().Update`, the reads of other kinds
(SchemaRegistry and Secrets), or one HTTP round trip to a registry. Between two steps of a pass
any other step may run: a user's create, spec update or delete (admitted by the webhook), a
user's change of a SchemaRegistry or a Secret (`Cluster`, `ClusterMove`), or a step of a pass over
another key.

Every call may fail. An API call that fails has no effect, unless it is a write that landed and
whose reply was lost (`lost`). A read of another kind may fail for any of its keys. A request may
fail before it reaches the registry (`drop`), or after the registry acted on it (`lose`); either
way the pass sees an error. A request goes to the server its base URL reaches (`Env.server`),
and two URLs may reach one server.

The world keeps the states its cluster has been through (`World.before`). No pass reads them:
they are there for the statements, since a pass holds a client built from an earlier state.

`World.exec` is the whole system as a function of the environment's choice (`Choice`), and
`Reachable` closes the initial world under it. A `policy` restricts the choices, for results
that hold only of some users. `Leads` is a pass run on its own with every call succeeding, the
shape of the progress results of both reconcilers.
-/

namespace SchemaOperator

open Client Registry

/-- `ctrl.Result`: `requeueAfter` is a `time.Duration`. -/
structure Result where
  requeueAfter : Int
deriving DecidableEq, Repr

/-- `time.Minute`. -/
def minute : Int := 60 * 1000000000

/-- The error `Reconcile` returns for an API error, `client.IgnoreNotFound` applied. -/
def ignored (e : StatusError) : Option String := (ignoreNotFound e).map StatusError.message

/-- A call a pass makes. -/
inductive Call (Spec Status : Type) where
  | get (k : Key)
  | update (o : Obj Spec Status)
  | updateStatus (o : Obj Spec Status)
  | read
  | send (base : String) (r : Request)
deriving DecidableEq, Repr

/-- The answer to a call. -/
inductive Answer (Spec Status : Type) where
  | got (r : Except StatusError (Obj Spec Status))
  | wrote (r : Except StatusError Unit)
  | read (rd : Reader)
  | sent (r : Except String Response)

/-- How the world answers a call: as the store, the cluster and the registries dictate (`none`);
with an API error and no effect (`fail`); with an API error after the write landed, its reply
lost (`lost`); with the reads of some keys failing (`readsFail`); or with a request dropped before
it reached the registry (`drop`), or answered and lost (`lose`). -/
inductive Fault where
  | none
  | fail (e : StatusError)
  | lost (e : StatusError)
  | readsFail (keys : List Key) (e : StatusError)
  | drop (e : String)
  | lose (e : String)
deriving DecidableEq, Repr

/-- The SchemaRegistry objects and the Secrets the passes read. Users create, change and delete
them while the passes run. -/
structure Cluster where
  registries : Key → Option SchemaRegistry
  secrets : Key → Option Secret

namespace Cluster

/-- No SchemaRegistry and no Secret. -/
def empty : Cluster := ⟨fun _ => none, fun _ => none⟩

/-- The reads the cluster answers. -/
def reader (cl : Cluster) : Reader := Reader.ofLookup cl.registries cl.secrets

/-- A user's `kubectl apply` of a SchemaRegistry. -/
def putRegistry (cl : Cluster) (sr : SchemaRegistry) : Cluster :=
  { cl with registries := Function.update cl.registries sr.key (some sr) }

/-- A user's `kubectl delete` of a SchemaRegistry, which carries no finalizer and goes at once. -/
def deleteRegistry (cl : Cluster) (k : Key) : Cluster :=
  { cl with registries := Function.update cl.registries k none }

/-- A user's creation, change or deletion of a Secret. -/
def putSecret (cl : Cluster) (k : Key) (v : Option Secret) : Cluster :=
  { cl with secrets := Function.update cl.secrets k v }

end Cluster

/-- What stays fixed while the passes run: `tls.X509KeyPair`, `json.Valid`, the registries'
compatibility rule, and the registry server each base URL reaches. Two URLs may reach one server,
as a Service's short name and its FQDN do. -/
structure Env where
  keyPair : KeyPair
  jsonValid : String → Bool
  accepts : Accepts
  server : String → String

/-- The registry servers, by name. -/
abbrev Remote := String → Server

/-- One HTTP round trip: the server `base` reaches answers `r`; and the servers after it. -/
def Env.roundTrip (env : Env) (m : Remote) (base : String) (r : Request) : Response × Remote :=
  ((serve env.accepts base (m (env.server base)) r).1,
    Function.update m (env.server base) (serve env.accepts base (m (env.server base)) r).2)

/-- The reads of `rd`, with those of the keys `ks` failing. -/
def Reader.failing (rd : Reader) (ks : List Key) (e : StatusError) : Reader :=
  ⟨fun k => if k ∈ ks then .error e else rd.registry k, fun k => if k ∈ ks then .error e else rd.secret k⟩

theorem Reader.degrades_failing (rd : Reader) (ks : List Key) (e : StatusError) :
    rd.Degrades (rd.failing ks e) :=
  ⟨fun k => by by_cases h : k ∈ ks <;> simp [failing, h], fun k => by by_cases h : k ∈ ks <;> simp [failing, h]⟩

variable {Spec Status : Type} [DecidableEq Spec]

/-- The answer of the store, the cluster or a registry to a call, with the store and registries
after it; `none` when the fault does not fit the call. -/
def answer (env : Env) (cl : Cluster) (s : Store Spec Status) (m : Remote) :
    Call Spec Status → Fault → Option (Answer Spec Status × Store Spec Status × Remote)
  | .get k, .none => some (.got (s.get k), s, m)
  | .get _, .fail e => some (.got (.error e), s, m)
  | .update o, .none =>
    match s.update o with
    | .ok s' => some (.wrote (.ok ()), s', m)
    | .error e => some (.wrote (.error e), s, m)
  | .update _, .fail e => some (.wrote (.error e), s, m)
  | .update o, .lost e =>
    match s.update o with
    | .ok s' => some (.wrote (.error e), s', m)
    | .error _ => none
  | .updateStatus o, .none =>
    match s.updateStatus o with
    | .ok s' => some (.wrote (.ok ()), s', m)
    | .error e => some (.wrote (.error e), s, m)
  | .updateStatus _, .fail e => some (.wrote (.error e), s, m)
  | .updateStatus o, .lost e =>
    match s.updateStatus o with
    | .ok s' => some (.wrote (.error e), s', m)
    | .error _ => none
  | .read, .none => some (.read cl.reader, s, m)
  | .read, .readsFail ks e => some (.read (cl.reader.failing ks e), s, m)
  | .send base r, .none => some (.sent (.ok (env.roundTrip m base r).1), s, (env.roundTrip m base r).2)
  | .send _ _, .drop e => some (.sent (.error e), s, m)
  | .send base r, .lose e => some (.sent (.error e), s, (env.roundTrip m base r).2)
  | _, _ => none

section Answers

variable {env : Env} {cl : Cluster} {s s' : Store Spec Status} {m m' : Remote} {f : Fault}
  {a : Answer Spec Status}

theorem answer_store {c : Call Spec Status} (h : answer env cl s m c f = some (a, s', m')) :
    s' = s ∨ (∃ o, c = .update o ∧ s.update o = .ok s') ∨
      (∃ o, c = .updateStatus o ∧ s.updateStatus o = .ok s') := by
  cases c <;> cases f <;> simp only [answer, Option.some.injEq, Prod.mk.injEq, reduceCtorEq] at h
  all_goals first
    | exact .inl h.2.1.symm
    | (split at h <;> simp only [Option.some.injEq, Prod.mk.injEq, reduceCtorEq] at h)
  all_goals first
    | exact .inl h.2.1.symm
    | exact .inr (.inl ⟨_, rfl, h.2.1 ▸ ‹_›⟩)
    | exact .inr (.inr ⟨_, rfl, h.2.1 ▸ ‹_›⟩)

theorem answer_remote {c : Call Spec Status} (h : answer env cl s m c f = some (a, s', m')) :
    m' = m ∨ ∃ base r, c = .send base r ∧ m' = (env.roundTrip m base r).2 := by
  cases c <;> cases f <;> simp only [answer, Option.some.injEq, Prod.mk.injEq, reduceCtorEq] at h
  all_goals first
    | exact .inl h.2.2.symm
    | exact .inr ⟨_, _, rfl, h.2.2.symm⟩
    | skip
  all_goals split at h <;> simp only [Option.some.injEq, Prod.mk.injEq, reduceCtorEq] at h <;>
    exact .inl h.2.2.symm

theorem answer_get {k : Key} (h : answer env cl s m (.get k) f = some (a, s', m')) :
    s' = s ∧ m' = m ∧ (a = .got (s.get k) ∨ ∃ e, a = .got (.error e)) := by
  cases f <;> simp only [answer, Option.some.injEq, Prod.mk.injEq, reduceCtorEq] at h
  · exact ⟨h.2.1.symm, h.2.2.symm, .inl h.1.symm⟩
  · exact ⟨h.2.1.symm, h.2.2.symm, .inr ⟨_, h.1.symm⟩⟩

theorem answer_get_cases {k : Key} {P : Store Spec Status → Answer Spec Status → Prop}
    (ha : answer env cl s m (.get k) f = some (a, s', m')) (herr : ∀ e, P s (.got (.error e)))
    (hok : ∀ o, s.get k = .ok o → P s (.got (.ok o))) : P s' a := by
  obtain ⟨rfl, -, hget | ⟨e, rfl⟩⟩ := answer_get ha
  · rw [hget]
    rcases hg : s'.get k with e | o
    · exact herr e
    · exact hok o hg
  · exact herr e

theorem answer_get_stored {k : Key} {x : Obj Spec Status} (hx : s.objects k = some x) :
    answer env cl s m (.get k) .none = some (.got (.ok x), s, m) := by
  simp [answer, Store.get, hx]

theorem answer_got {k : Key} {o : Obj Spec Status} (h : answer env cl s m (.get k) f = some (.got (.ok o), s', m')) :
    s' = s ∧ s.objects k = some o := by
  obtain ⟨hs, -, hg | ⟨e, hg⟩⟩ := answer_get h
  · exact ⟨hs, Store.get_ok.mp (Answer.got.inj hg).symm⟩
  · cases hg

theorem answer_update {o : Obj Spec Status} (h : answer env cl s m (.update o) f = some (a, s', m')) :
    m' = m ∧ (a = .wrote (.ok ()) ∧ s.update o = .ok s' ∨
      ∃ e, a = .wrote (.error e) ∧ (s' = s ∨ s.update o = .ok s')) := by
  cases f <;> simp only [answer, Option.some.injEq, Prod.mk.injEq, reduceCtorEq] at h
  all_goals first
    | exact ⟨h.2.2.symm, .inr ⟨_, h.1.symm, .inl h.2.1.symm⟩⟩
    | (split at h <;> simp only [Option.some.injEq, Prod.mk.injEq, reduceCtorEq] at h)
  · exact ⟨h.2.2.symm, .inl ⟨h.1.symm, h.2.1 ▸ ‹_›⟩⟩
  · exact ⟨h.2.2.symm, .inr ⟨_, h.1.symm, .inl h.2.1.symm⟩⟩
  · exact ⟨h.2.2.symm, .inr ⟨_, h.1.symm, .inr (h.2.1 ▸ ‹_›)⟩⟩

theorem answer_updateStatus {o : Obj Spec Status}
    (h : answer env cl s m (.updateStatus o) f = some (a, s', m')) :
    m' = m ∧ (a = .wrote (.ok ()) ∧ s.updateStatus o = .ok s' ∨
      ∃ e, a = .wrote (.error e) ∧ (s' = s ∨ s.updateStatus o = .ok s')) := by
  cases f <;> simp only [answer, Option.some.injEq, Prod.mk.injEq, reduceCtorEq] at h
  all_goals first
    | exact ⟨h.2.2.symm, .inr ⟨_, h.1.symm, .inl h.2.1.symm⟩⟩
    | (split at h <;> simp only [Option.some.injEq, Prod.mk.injEq, reduceCtorEq] at h)
  · exact ⟨h.2.2.symm, .inl ⟨h.1.symm, h.2.1 ▸ ‹_›⟩⟩
  · exact ⟨h.2.2.symm, .inr ⟨_, h.1.symm, .inl h.2.1.symm⟩⟩
  · exact ⟨h.2.2.symm, .inr ⟨_, h.1.symm, .inr (h.2.1 ▸ ‹_›)⟩⟩

theorem answer_read (h : answer env cl s m .read f = some (a, s', m')) :
    s' = s ∧ m' = m ∧ ∃ rd, a = .read rd ∧ cl.reader.Degrades rd := by
  cases f <;> simp only [answer, Option.some.injEq, Prod.mk.injEq, reduceCtorEq] at h
  · exact ⟨h.2.1.symm, h.2.2.symm, _, h.1.symm, fun k => .inl rfl, fun k => .inl rfl⟩
  · exact ⟨h.2.1.symm, h.2.2.symm, _, h.1.symm, Reader.degrades_failing _ _ _⟩

theorem answer_send {base : String} {r : Request} (h : answer env cl s m (.send base r) f = some (a, s', m')) :
    s' = s ∧ (a = .sent (.ok (env.roundTrip m base r).1) ∧ m' = (env.roundTrip m base r).2 ∨
      ∃ e, a = .sent (.error e) ∧ (m' = m ∨ m' = (env.roundTrip m base r).2)) := by
  cases f <;> simp only [answer, Option.some.injEq, Prod.mk.injEq, reduceCtorEq] at h
  · exact ⟨h.2.1.symm, .inl ⟨h.1.symm, h.2.2.symm⟩⟩
  · exact ⟨h.2.1.symm, .inr ⟨_, h.1.symm, .inl h.2.2.symm⟩⟩
  · exact ⟨h.2.1.symm, .inr ⟨_, h.1.symm, .inr h.2.2.symm⟩⟩

end Answers

/-! ## The world -/

/-- The store of one kind, the cluster, the registries, the pass in progress for each key, and
two records read only by the statements: what the passes did (`log`), and the states the
cluster has been through (`before`, the latest first). -/
structure World (Spec Status Stage Ev : Type) where
  store : Store Spec Status
  cluster : Cluster
  remote : Remote
  passes : Key → Option Stage
  log : List Ev
  before : List Cluster

variable {Stage Ev : Type}

/-- The cluster of the world, or one it has been through. -/
def World.had (w : World Spec Status Stage Ev) (cl : Cluster) : Prop :=
  cl = w.cluster ∨ cl ∈ w.before

/-- The world after a user's change of its cluster. -/
def World.recluster (w : World Spec Status Stage Ev) (cl : Cluster) : World Spec Status Stage Ev :=
  { w with cluster := cl, before := w.cluster :: w.before }

/-- The world after the pass over `k` at stage `st` got the answer `a`, which left the store `s`
and the registries `m`. -/
def World.answered (w : World Spec Status Stage Ev) (next : Stage → Answer Spec Status → Stage)
    (events : Stage → Answer Spec Status → List Ev) (k : Key) (st : Stage) (a : Answer Spec Status)
    (s : Store Spec Status) (m : Remote) : World Spec Status Stage Ev :=
  { w with
    store := s
    remote := m
    passes := Function.update w.passes k (some (next st a))
    log := w.log ++ events st a }

section Answered

omit [DecidableEq Spec]

variable {w : World Spec Status Stage Ev} {next : Stage → Answer Spec Status → Stage}
  {events : Stage → Answer Spec Status → List Ev} {k : Key} {st : Stage} {a : Answer Spec Status}
  {s : Store Spec Status} {m : Remote} {cl : Cluster}

@[simp] theorem World.answered_store : (w.answered next events k st a s m).store = s := rfl

@[simp] theorem World.answered_cluster : (w.answered next events k st a s m).cluster = w.cluster := rfl

@[simp] theorem World.answered_remote : (w.answered next events k st a s m).remote = m := rfl

@[simp] theorem World.answered_passes :
    (w.answered next events k st a s m).passes = Function.update w.passes k (some (next st a)) := rfl

@[simp] theorem World.answered_log : (w.answered next events k st a s m).log = w.log ++ events st a := rfl

@[simp] theorem World.recluster_store : (w.recluster cl).store = w.store := rfl

@[simp] theorem World.recluster_log : (w.recluster cl).log = w.log := rfl

end Answered

/-- A reconciler as a state machine, with the webhooks that admit users' writes. -/
structure Controller (Spec Status Stage Ev : Type) where
  /-- The stage a new pass starts in. -/
  start : Stage
  /-- The call a pass over key `k` makes next; `none` once it has returned. -/
  call : Key → Stage → Option (Call Spec Status)
  /-- The stage after the answer. -/
  next : Env → Stage → Answer Spec Status → Stage
  /-- What the step is recorded as. -/
  events : Env → Stage → Answer Spec Status → List Ev
  /-- The status of a created object. -/
  initStatus : Status
  /-- The webhook on a create. -/
  admitCreate : Env → Obj Spec Status → Bool
  /-- The webhook on an update, from the stored object to the new one. -/
  admitUpdate : Env → Obj Spec Status → Obj Spec Status → Bool
  /-- The SchemaRegistry webhook on a put into the cluster; nothing is admitted where the
  SchemaRegistries are the store's own objects. -/
  admitRegistry : Env → SchemaRegistry → Bool

/-- What the environment does next: a user's request, or a pass's move. -/
inductive Choice (Spec : Type) where
  | create (k : Key) (spec : Spec)
  | update (k : Key) (spec : Spec)
  | delete (k : Key)
  | putRegistry (sr : SchemaRegistry)
  | deleteRegistry (k : Key)
  | putSecret (k : Key) (v : Option Secret)
  | start (k : Key)
  | step (k : Key) (f : Fault)
  | finish (k : Key)
deriving DecidableEq, Repr

/-- One step of the system; `none` when the choice is not possible (a rejected or failed user
request changes nothing and is no step). -/
def World.exec (ctl : Controller Spec Status Stage Ev) (env : Env)
    (w : World Spec Status Stage Ev) : Choice Spec → Option (World Spec Status Stage Ev)
  | .create k spec =>
    if ctl.admitCreate env (w.store.fresh k spec ctl.initStatus) then
      match w.store.create k spec ctl.initStatus with
      | .ok s => some { w with store := s }
      | .error _ => none
    else none
  | .update k spec =>
    match w.store.objects k with
    | none => none
    | some cur =>
      if ctl.admitUpdate env cur { cur with spec := spec } then
        match w.store.updateSpec k spec with
        | .ok s => some { w with store := s }
        | .error _ => none
      else none
  | .delete k =>
    match w.store.delete k with
    | .ok s => some { w with store := s }
    | .error _ => none
  | .putRegistry sr => if ctl.admitRegistry env sr then some (w.recluster (w.cluster.putRegistry sr)) else none
  | .deleteRegistry k => (w.cluster.registries k).map fun _ => w.recluster (w.cluster.deleteRegistry k)
  | .putSecret k v => some (w.recluster (w.cluster.putSecret k v))
  | .start k =>
    match w.passes k with
    | none => some { w with passes := Function.update w.passes k (some ctl.start) }
    | some _ => none
  | .step k f =>
    match w.passes k with
    | none => none
    | some st =>
      match ctl.call k st with
      | none => none
      | some c =>
        match answer env w.cluster w.store w.remote c f with
        | none => none
        | some (a, s, m) =>
          some (w.answered (ctl.next env) (ctl.events env) k st a s m)
  | .finish k =>
    match w.passes k with
    | some st =>
      if (ctl.call k st).isNone then some { w with passes := Function.update w.passes k none } else none
    | none => none

/-- The world before anything happened: an empty store and cluster, no pass, and registries in
any state. -/
def World.init (m : Remote) : World Spec Status Stage Ev := ⟨Store.empty, Cluster.empty, m, fun _ => none, [], []⟩

/-- The worlds a run reaches from `World.init m` with every choice allowed by `policy`. -/
inductive Reachable (ctl : Controller Spec Status Stage Ev) (env : Env)
    (policy : World Spec Status Stage Ev → Choice Spec → Prop) (m : Remote) :
    World Spec Status Stage Ev → Prop
  | init : Reachable ctl env policy m (World.init m)
  | step {w w' ch} : Reachable ctl env policy m w → policy w ch → w.exec ctl env ch = some w' →
      Reachable ctl env policy m w'

/-- Every choice is allowed. -/
def anyone : World Spec Status Stage Ev → Choice Spec → Prop := fun _ _ => True

/-- The world after a list of choices. -/
def World.run (ctl : Controller Spec Status Stage Ev) (env : Env) :
    World Spec Status Stage Ev → List (Choice Spec) → Option (World Spec Status Stage Ev)
  | w, [] => some w
  | w, ch :: chs => (w.exec ctl env ch).bind fun w' => w'.run ctl env chs

theorem reachable_run_of {ctl : Controller Spec Status Stage Ev} {env : Env}
    {policy : World Spec Status Stage Ev → Choice Spec → Prop} {m : Remote} {w' : World Spec Status Stage Ev} :
    ∀ {w : World Spec Status Stage Ev} {chs : List (Choice Spec)}, Reachable ctl env policy m w →
      (∀ ch ∈ chs, ∀ w₁, policy w₁ ch) → w.run ctl env chs = some w' → Reachable ctl env policy m w'
  | _, [], hw, _, h => by cases h; exact hw
  | w, ch :: chs, hw, hp, h => by
    simp only [World.run, Option.bind_eq_some] at h
    obtain ⟨w₁, h₁, h₂⟩ := h
    exact reachable_run_of (hw.step (hp ch (.head _) w) h₁) (fun c hc => hp c (.tail _ hc)) h₂

theorem reachable_run {ctl : Controller Spec Status Stage Ev} {env : Env} {m : Remote}
    {w w' : World Spec Status Stage Ev} {chs : List (Choice Spec)} (hw : Reachable ctl env anyone m w)
    (h : w.run ctl env chs = some w') : Reachable ctl env anyone m w' :=
  reachable_run_of hw (fun _ _ _ => trivial) h

theorem World.run_append (ctl : Controller Spec Status Stage Ev) (env : Env) (l₁ l₂ : List (Choice Spec)) :
    ∀ w : World Spec Status Stage Ev, w.run ctl env (l₁ ++ l₂) = (w.run ctl env l₁).bind (·.run ctl env l₂) := by
  induction l₁ with
  | nil => intro w; rfl
  | cons ch chs ih => intro w; simp only [List.cons_append, World.run, List.append_eq, ih, Option.bind_assoc]

theorem World.exec_step {ctl : Controller Spec Status Stage Ev} {env : Env} {w : World Spec Status Stage Ev}
    {k : Key} {st : Stage} {c : Call Spec Status} {f : Fault} {a : Answer Spec Status}
    {s : Store Spec Status} {m : Remote} (hst : w.passes k = some st) (hc : ctl.call k st = some c)
    (ha : answer env w.cluster w.store w.remote c f = some (a, s, m)) :
    w.exec ctl env (.step k f) = some (w.answered (ctl.next env) (ctl.events env) k st a s m) := by
  simp only [World.exec, hst, hc, ha]

/-! ## Runs of one pass -/

/-- `w'` follows from `w` by steps of the pass over `k`, each with its call answered as the world
dictates. -/
def Leads (ctl : Controller Spec Status Stage Ev) (env : Env) (k : Key)
    (w w' : World Spec Status Stage Ev) : Prop :=
  ∃ n, w.run ctl env (List.replicate n (.step k .none)) = some w'

theorem Leads.refl {ctl : Controller Spec Status Stage Ev} {env : Env} {k : Key}
    (w : World Spec Status Stage Ev) : Leads ctl env k w w :=
  ⟨0, rfl⟩

theorem Leads.trans {ctl : Controller Spec Status Stage Ev} {env : Env} {k : Key}
    {w₁ w₂ w₃ : World Spec Status Stage Ev} (h₁ : Leads ctl env k w₁ w₂) (h₂ : Leads ctl env k w₂ w₃) :
    Leads ctl env k w₁ w₃ := by
  obtain ⟨n₁, h₁⟩ := h₁
  obtain ⟨n₂, h₂⟩ := h₂
  exact ⟨n₁ + n₂, by rw [List.replicate_add, World.run_append, h₁]; exact h₂⟩

theorem leads_step (ctl : Controller Spec Status Stage Ev) (env : Env) {w : World Spec Status Stage Ev}
    {k : Key} {st : Stage} {c : Call Spec Status} {a : Answer Spec Status} {s : Store Spec Status}
    {m : Remote} (hst : w.passes k = some st) (hc : ctl.call k st = some c)
    (ha : answer env w.cluster w.store w.remote c .none = some (a, s, m)) :
    ∃ w', Leads ctl env k w w' ∧ w'.passes k = some (ctl.next env st a) ∧ w'.store = s ∧ w'.remote = m := by
  refine ⟨w.answered (ctl.next env) (ctl.events env) k st a s m, ⟨1, ?_⟩, by simp [World.answered], rfl, rfl⟩
  simp only [List.replicate, World.run, World.exec_step hst hc ha]
  rfl

theorem leads_updateStatus (ctl : Controller Spec Status Stage Ev) (env : Env)
    {w : World Spec Status Stage Ev} {k : Key} {st : Stage} {x o : Obj Spec Status}
    (hst : w.passes k = some st) (hc : ctl.call k st = some (.updateStatus o))
    (hx : w.store.objects o.key = some x) (hrv : x.metadata.resourceVersion = o.metadata.resourceVersion) :
    ∃ w', Leads ctl env k w w' ∧ w'.passes k = some (ctl.next env st (.wrote (.ok ()))) ∧
      w'.store.objects o.key = some (w.store.statusUpdated x o) := by
  obtain ⟨s', hu, hobj⟩ := Store.updateStatus_lands hx hrv
  obtain ⟨w', h, hp, hs, -⟩ := leads_step ctl env hst hc (by simp only [answer, hu] :
    answer env w.cluster w.store w.remote (.updateStatus o) .none = some (.wrote (.ok ()), s', w.remote))
  exact ⟨w', h, hp, hs ▸ hobj⟩

/-! ## What one step can do -/

/-- A user's change of a SchemaRegistry or a Secret: the SchemaRegistry webhook admits a put,
and only a stored SchemaRegistry can be deleted. -/
inductive ClusterMove (ctl : Controller Spec Status Stage Ev) (env : Env) (cl : Cluster) :
    Choice Spec → Cluster → Prop
  | putRegistry {sr} : ctl.admitRegistry env sr = true →
      ClusterMove ctl env cl (.putRegistry sr) (cl.putRegistry sr)
  | deleteRegistry {k sr} : cl.registries k = some sr →
      ClusterMove ctl env cl (.deleteRegistry k) (cl.deleteRegistry k)
  | putSecret {k v} : ClusterMove ctl env cl (.putSecret k v) (cl.putSecret k v)

/-- One step is a user's write admitted by the webhook, a user's change of the cluster, a pass
starting or returning, or a pass's call with its answer. -/
inductive StepKind (ctl : Controller Spec Status Stage Ev) (env : Env)
    (w : World Spec Status Stage Ev) : Choice Spec → World Spec Status Stage Ev → Prop
  | create {k spec s} : ctl.admitCreate env (w.store.fresh k spec ctl.initStatus) = true →
      w.store.create k spec ctl.initStatus = .ok s →
      StepKind ctl env w (.create k spec) { w with store := s }
  | update {k spec cur s} : w.store.objects k = some cur →
      ctl.admitUpdate env cur { cur with spec := spec } = true →
      w.store.update { cur with spec := spec } = .ok s →
      StepKind ctl env w (.update k spec) { w with store := s }
  | delete {k s} : w.store.delete k = .ok s → StepKind ctl env w (.delete k) { w with store := s }
  | recluster {ch cl} : ClusterMove ctl env w.cluster ch cl → StepKind ctl env w ch (w.recluster cl)
  | start {k} : w.passes k = none →
      StepKind ctl env w (.start k) { w with passes := Function.update w.passes k (some ctl.start) }
  | finish {k st} : w.passes k = some st → ctl.call k st = none →
      StepKind ctl env w (.finish k) { w with passes := Function.update w.passes k none }
  | call {k st c f a s m} : w.passes k = some st → ctl.call k st = some c →
      answer env w.cluster w.store w.remote c f = some (a, s, m) →
      StepKind ctl env w (.step k f) (w.answered (ctl.next env) (ctl.events env) k st a s m)

section Steps

variable {ctl : Controller Spec Status Stage Ev} {env : Env} {w w' : World Spec Status Stage Ev}
  {ch : Choice Spec}

theorem exec_kind (h : w.exec ctl env ch = some w') : StepKind ctl env w ch w' := by
  cases ch <;> simp only [World.exec] at h
  case create =>
    split_ifs at h with ha
    split at h
    · cases h; exact .create ha ‹_›
    · cases h
  case update =>
    split at h
    · cases h
    · next cur hcur =>
      split_ifs at h with ha
      split at h
      · next s hs =>
        cases h
        obtain ⟨cur', hcur', hu⟩ := Store.updateSpec_ok hs
        rw [hcur] at hcur'; cases hcur'
        exact .update hcur ha hu
      · cases h
  case delete =>
    split at h
    · cases h; exact .delete ‹_›
    · cases h
  case putRegistry =>
    split_ifs at h with ha
    cases h; exact .recluster (.putRegistry ha)
  case deleteRegistry k =>
    obtain ⟨sr, hsr, rfl⟩ := Option.map_eq_some'.mp h
    exact .recluster (.deleteRegistry hsr)
  case putSecret => cases h; exact .recluster .putSecret
  case start =>
    split at h
    · cases h; exact .start ‹_›
    · cases h
  case step =>
    split at h
    · cases h
    · split at h
      · cases h
      · split at h
        · cases h
        · cases h; exact .call ‹_› ‹_› ‹_›
  case finish =>
    split at h
    · split_ifs at h with hn
      cases h; exact .finish ‹_› (Option.isNone_iff_eq_none.mp hn)
    · cases h

theorem StepKind.store (h : StepKind ctl env w ch w') : w'.store = w.store ∨ Store.Changes w.store w'.store := by
  cases h with
  | create _ hc => exact .inr (.create hc)
  | update _ _ hu => exact .inr (.update hu)
  | delete hd => exact .inr (.delete hd)
  | call _ _ ha =>
    rcases answer_store ha with e | ⟨_, _, hu⟩ | ⟨_, _, hu⟩
    · exact .inl e
    · exact .inr (.update hu)
    · exact .inr (.updateStatus hu)
  | _ => exact .inl rfl

theorem StepKind.revision_le (h : StepKind ctl env w ch w') : w.store.revision ≤ w'.store.revision := by
  rcases h.store with e | hc
  · rw [e]
  · exact hc.revision_le

theorem StepKind.had (h : StepKind ctl env w ch w') {cl : Cluster} (hcl : w.had cl) : w'.had cl := by
  cases h with
  | recluster _ => exact .inr (hcl.elim (fun e => e ▸ List.mem_cons_self _ _) (List.mem_cons_of_mem _))
  | _ => exact hcl

theorem StepKind.cluster (h : StepKind ctl env w ch w') :
    w'.cluster = w.cluster ∨ ∃ cl, ClusterMove ctl env w.cluster ch cl ∧ w' = w.recluster cl := by
  cases h with
  | recluster hm => exact .inr ⟨_, hm, rfl⟩
  | _ => exact .inl rfl

theorem StepKind.had_new (h : StepKind ctl env w ch w') {cl : Cluster} (hcl : w'.had cl) :
    cl = w'.cluster ∨ w.had cl := by
  cases h with
  | recluster _ => exact hcl.imp_right List.mem_cons.mp
  | _ => exact .inr hcl

theorem StepKind.objects_preserved (h : StepKind ctl env w ch w')
    {P : Obj Spec Status → Prop} (hw : ∀ k x, w.store.objects k = some x → P x)
    (hfresh : ∀ k spec, P (w.store.fresh k spec ctl.initStatus))
    (hupdated : ∀ cur o x, P cur → w.store.updated cur o = some x → P x)
    (hdeleted : ∀ cur x, P cur → w.store.deleted cur = some x → P x)
    (hstatus : ∀ k st n cur, w.passes k = some st → ctl.call k st = some (.updateStatus n) →
      w.store.objects n.key = some cur → cur.metadata.resourceVersion = n.metadata.resourceVersion →
      P cur → P (w.store.statusUpdated cur n)) :
    ∀ k x, w'.store.objects k = some x → P x := by
  -- one write at one key: the new value there, the old ones elsewhere
  have write : ∀ {s' : Store Spec Status} {k₀ : Key} {v : Option (Obj Spec Status)},
      s'.objects = Function.update w.store.objects k₀ v → (∀ x, v = some x → P x) →
      ∀ k x, s'.objects k = some x → P x := by
    intro s' k₀ v hobj hv k x hx
    rw [hobj] at hx
    by_cases e : k = k₀
    · subst e; rw [Function.update_same] at hx; exact hv x hx
    · rw [Function.update_noteq e] at hx; exact hw k x hx
  cases h with
  | create _ hc =>
    obtain ⟨-, hobj, -⟩ := Store.create_ok hc
    exact write hobj fun x hx => by cases hx; exact hfresh _ _
  | update _ _ hu =>
    obtain ⟨cur, hcur, -, hobj, -⟩ := Store.update_ok hu
    exact write hobj fun x hx => hupdated cur _ x (hw _ cur hcur) hx
  | delete hd =>
    obtain ⟨cur, hcur, ⟨-, rfl⟩ | ⟨-, hobj, -⟩⟩ := Store.delete_ok hd
    · exact hw
    · exact write hobj fun x hx => hdeleted cur x (hw _ cur hcur) hx
  | call hst hc ha =>
    rcases answer_store ha with rfl | ⟨o, rfl, hu⟩ | ⟨n, rfl, hu⟩
    · exact hw
    · obtain ⟨cur, hcur, -, hobj, -⟩ := Store.update_ok hu
      exact write hobj fun x hx => hupdated cur o x (hw _ cur hcur) hx
    · obtain ⟨cur, hcur, hrv, hobj, -⟩ := Store.updateStatus_ok hu
      exact write hobj fun x hx => by cases hx; exact hstatus _ _ n cur hst hc hcur hrv (hw _ cur hcur)
  | _ => exact hw

theorem StepKind.log_prefix (h : StepKind ctl env w ch w') : w.log <+: w'.log := by
  cases h
  all_goals first | exact List.prefix_refl _ | exact List.prefix_append _ _

theorem StepKind.pass (h : StepKind ctl env w ch w') {k : Key} {st' : Stage} (hk : w'.passes k = some st') :
    (w.passes k = some st' ∧ ∀ f, ch ≠ .step k f) ∨ (ch = .start k ∧ st' = ctl.start) ∨
      ∃ st c f a s m, ch = .step k f ∧ w.passes k = some st ∧ ctl.call k st = some c ∧
        answer env w.cluster w.store w.remote c f = some (a, s, m) ∧ st' = ctl.next env st a ∧
        w' = w.answered (ctl.next env) (ctl.events env) k st a s m := by
  cases h with
  | @start k₀ _ =>
    by_cases e : k = k₀
    · subst e
      simp only [Function.update_same, Option.some.injEq] at hk
      exact .inr (.inl ⟨rfl, hk.symm⟩)
    · simp only [Function.update_noteq e] at hk
      exact .inl ⟨hk, nofun⟩
  | @finish k₀ _ _ _ =>
    by_cases e : k = k₀
    · subst e
      simp at hk
    · simp only [Function.update_noteq e] at hk
      exact .inl ⟨hk, nofun⟩
  | @call k₀ st c f a s m hst hc ha =>
    by_cases e : k = k₀
    · subst e
      simp only [World.answered, Function.update_same, Option.some.injEq] at hk
      exact .inr (.inr ⟨st, c, f, a, s, m, rfl, hst, hc, ha, hk.symm, rfl⟩)
    · simp only [World.answered, Function.update_noteq e] at hk
      exact .inl ⟨hk, fun _ hf => e (Choice.step.inj hf).1.symm⟩
  | recluster hm => cases hm <;> exact .inl ⟨hk, nofun⟩
  | _ => exact .inl ⟨hk, nofun⟩

theorem StepKind.snap (h : StepKind ctl env w ch w') {c : Obj Spec Status}
    (hc : Store.Snap w.store c) : Store.Snap w'.store c := by
  rcases h.store with e | hch
  · rw [e]; exact hc
  · exact hc.changes hch

theorem StepKind.tracks (h : StepKind ctl env w ch w') {c : Obj Spec Status}
    (hc : Store.Tracks w.store c) : Store.Tracks w'.store c := by
  rcases h.store with e | hch
  · rw [e]; exact hc
  · exact hc.changes hch

theorem StepKind.objects_new (h : StepKind ctl env w ch w') {k : Key}
    (hk : (w'.store.objects k).isSome) : (w.store.objects k).isSome ∨ ∃ spec, ch = .create k spec := by
  have write : ∀ {s s' : Store Spec Status} {k₀ v}, s'.objects = Function.update s.objects k₀ v →
      (s.objects k₀).isSome → (s'.objects k).isSome → (s.objects k).isSome := by
    intro s s' k₀ v hobj h₀ hk
    rw [hobj] at hk
    by_cases e : k = k₀
    · subst e; exact h₀
    · rwa [Function.update_noteq e] at hk
  cases h with
  | @create k₀ spec _ _ hc =>
    obtain ⟨-, hobj, -⟩ := Store.create_ok hc
    by_cases e : k = k₀
    · exact .inr ⟨spec, by rw [e]⟩
    · rw [hobj, Function.update_noteq e] at hk; exact .inl hk
  | update _ _ hu =>
    obtain ⟨_, hcur, -, hobj, -⟩ := Store.update_ok hu
    exact .inl (write hobj (by simp [hcur]) hk)
  | delete hd =>
    obtain ⟨_, hcur, ⟨-, rfl⟩ | ⟨-, hobj, -⟩⟩ := Store.delete_ok hd
    · exact .inl hk
    · exact .inl (write hobj (by simp [hcur]) hk)
  | call _ _ ha =>
    rcases answer_store ha with hs | ⟨_, -, hu⟩ | ⟨_, -, hu⟩
    · exact .inl (hs ▸ hk)
    · obtain ⟨_, hcur, -, hobj, -⟩ := Store.update_ok hu
      exact .inl (write hobj (by simp [hcur]) hk)
    · obtain ⟨_, hcur, -, hobj, -⟩ := Store.updateStatus_ok hu
      exact .inl (write hobj (by simp [hcur]) hk)
  | _ => exact .inl hk

theorem run_steps_cluster {k : Key} :
    ∀ (n : Nat) {w : World Spec Status Stage Ev}, w.run ctl env (List.replicate n (.step k .none)) = some w' →
      w'.cluster = w.cluster
  | 0, _, h => by cases h; rfl
  | n + 1, w, h => by
    simp only [List.replicate_succ, World.run, Option.bind_eq_some] at h
    obtain ⟨w₁, h₁, h₂⟩ := h
    cases exec_kind h₁ with
    | call => exact (run_steps_cluster n h₂).trans rfl
    | recluster hm => cases hm

theorem Leads.cluster {k : Key} (h : Leads ctl env k w w') : w'.cluster = w.cluster :=
  run_steps_cluster _ h.choose_spec

end Steps

theorem run_objects {ctl : Controller Spec Status Stage Ev} {env : Env} {k : Key} :
    ∀ {w w' : World Spec Status Stage Ev} {chs : List (Choice Spec)}, w.run ctl env chs = some w' →
      (w'.store.objects k).isSome → (w.store.objects k).isSome ∨ ∃ spec, Choice.create k spec ∈ chs
  | _, _, [], h, hk => by cases h; exact .inl hk
  | w, w', ch :: chs, h, hk => by
    simp only [World.run, Option.bind_eq_some] at h
    obtain ⟨w₁, h₁, h₂⟩ := h
    rcases run_objects h₂ hk with hk₁ | ⟨spec, hm⟩
    · rcases (exec_kind h₁).objects_new hk₁ with hk₀ | ⟨spec, rfl⟩
      · exact .inl hk₀
      · exact .inr ⟨spec, .head _⟩
    · exact .inr ⟨spec, .tail _ hm⟩

end SchemaOperator
