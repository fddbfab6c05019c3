import SchemaOperator.Api

/-!
# The API server's object store

What the controllers rely on from the Kubernetes API server, for one resource kind with a
status subresource:

* `get` returns the stored object or `NotFound`;
* `update` (`r.Update`) writes metadata.finalizers and the spec, succeeds only when the copy
  carries the stored `resourceVersion` (optimistic concurrency), bumps `generation` when the spec
  changes, and purges an object whose deletion was requested once its last finalizer is gone;
* `updateStatus` (`r.Status().Update`) writes only the status, under the same precondition;
* `create` hands out a fresh `uid`, and `delete` purges an object without finalizers or sets its
  `deletionTimestamp`, which bumps its `generation` (`markAsDeleting`).

Every write takes the next revision of the store as the object's `resourceVersion`, and a new
object takes it as its `uid`. A `Store` carries the two facts every later proof needs: each
object is filed under its own key, and no stored `uid` lies beyond the current revision.
-/

namespace SchemaOperator

/-- The API errors the controllers tell apart: `client.IgnoreNotFound` drops `notFound`, and
`transient` stands for every other failure of a call (timeouts, throttling, a dropped
connection). -/
inductive StatusError where
  | notFound
  | conflict
  | alreadyExists
  | transient
deriving DecidableEq, Repr

/-- `client.IgnoreNotFound`: `none` for a nil error. -/
def ignoreNotFound : StatusError → Option StatusError
  | .notFound => none
  | e => some e

variable {Spec Status : Type}

/-- The objects of one kind, by key, and the last revision handed out. -/
structure Store (Spec Status : Type) where
  objects : Key → Option (Obj Spec Status)
  revision : Nat
  keyed : ∀ k o, objects k = some o → o.key = k
  uid_le : ∀ k o, objects k = some o → o.metadata.uid ≤ revision
  rv_le : ∀ k o, objects k = some o → o.metadata.resourceVersion ≤ revision

namespace Store

/-- The empty store. -/
def empty : Store Spec Status where
  objects _ := none
  revision := 0
  keyed _ _ h := nomatch h
  uid_le _ _ h := nomatch h
  rv_le _ _ h := nomatch h

/-- One write at key `k`, at the next revision. -/
def write (s : Store Spec Status) (k : Key) (v : Option (Obj Spec Status))
    (hv : ∀ o, v = some o → o.key = k ∧ o.metadata.uid ≤ s.revision + 1 ∧
      o.metadata.resourceVersion = s.revision + 1) : Store Spec Status where
  objects := Function.update s.objects k v
  revision := s.revision + 1
  keyed k' o h := by
    by_cases same : k' = k
    · subst same; simp only [Function.update_same] at h; exact (hv o h).1
    · rw [Function.update_noteq same] at h; exact s.keyed k' o h
  uid_le k' o h := by
    by_cases same : k' = k
    · subst same; simp only [Function.update_same] at h; exact (hv o h).2.1
    · rw [Function.update_noteq same] at h; exact Nat.le_succ_of_le (s.uid_le k' o h)
  rv_le k' o h := by
    by_cases same : k' = k
    · subst same; simp only [Function.update_same] at h; exact (hv o h).2.2.le
    · rw [Function.update_noteq same] at h; exact Nat.le_succ_of_le (s.rv_le k' o h)

@[simp] theorem write_objects (s : Store Spec Status) (k : Key) (v) (hv) :
    (s.write k v hv).objects = Function.update s.objects k v := rfl

@[simp] theorem write_revision (s : Store Spec Status) (k : Key) (v) (hv) :
    (s.write k v hv).revision = s.revision + 1 := rfl

/-- `r.Get(ctx, key, &obj)`. -/
def get (s : Store Spec Status) (k : Key) : Except StatusError (Obj Spec Status) :=
  match s.objects k with
  | some o => .ok o
  | none => .error .notFound

/-- The stored object `cur` after an `update` from the copy `o`: finalizers and spec from `o`,
a new generation when the spec changed, and a purge when deletion was requested and no
finalizer is left. -/
def updated [DecidableEq Spec] (s : Store Spec Status) (cur o : Obj Spec Status) :
    Option (Obj Spec Status) :=
  if cur.metadata.deletionTimestamp ∧ o.metadata.finalizers = [] then none
  else some { cur with
    metadata := { cur.metadata with
      finalizers := o.metadata.finalizers
      generation := if o.spec = cur.spec then cur.metadata.generation
        else cur.metadata.generation + 1
      resourceVersion := s.revision + 1 }
    spec := o.spec }

/-- The stored object `cur` after an `updateStatus` from the copy `o`. -/
def statusUpdated (s : Store Spec Status) (cur o : Obj Spec Status) : Obj Spec Status :=
  { cur with
    metadata := { cur.metadata with resourceVersion := s.revision + 1 }
    status := o.status }

theorem updated_spec [DecidableEq Spec] {s : Store Spec Status} {cur o o' : Obj Spec Status}
    (h : s.updated cur o = some o') :
    o'.key = cur.key ∧ o'.metadata.uid = cur.metadata.uid ∧
      o'.metadata.resourceVersion = s.revision + 1 ∧ o'.spec = o.spec ∧
      o'.metadata.finalizers = o.metadata.finalizers ∧
      o'.metadata.deletionTimestamp = cur.metadata.deletionTimestamp ∧
      o'.status = cur.status ∧
      o'.metadata.generation = (if o.spec = cur.spec then cur.metadata.generation
        else cur.metadata.generation + 1) := by
  unfold updated at h
  split at h
  · cases h
  · cases h; exact ⟨rfl, rfl, rfl, rfl, rfl, rfl, rfl, rfl⟩

/-- `r.Update(ctx, &obj)`. -/
def update [DecidableEq Spec] (s : Store Spec Status) (o : Obj Spec Status) :
    Except StatusError (Store Spec Status) :=
  match h : s.objects o.key with
  | none => .error .notFound
  | some cur =>
    if cur.metadata.resourceVersion = o.metadata.resourceVersion then
      .ok (s.write o.key (s.updated cur o) (by
        intro o' h'
        obtain ⟨hk, hu, hr, -⟩ := updated_spec h'
        exact ⟨hk.trans (s.keyed _ _ h), hu ▸ Nat.le_succ_of_le (s.uid_le _ _ h), hr⟩))
    else .error .conflict

/-- `r.Status().Update(ctx, &obj)`. -/
def updateStatus (s : Store Spec Status) (o : Obj Spec Status) :
    Except StatusError (Store Spec Status) :=
  match h : s.objects o.key with
  | none => .error .notFound
  | some cur =>
    if cur.metadata.resourceVersion = o.metadata.resourceVersion then
      .ok (s.write o.key (some (s.statusUpdated cur o)) (by
        rintro o' ⟨⟩
        exact ⟨s.keyed _ cur h, Nat.le_succ_of_le (s.uid_le _ cur h), rfl⟩))
    else .error .conflict

/-- A new object under key `k`, with a fresh `uid`. -/
def fresh (s : Store Spec Status) (k : Key) (spec : Spec) (status : Status) :
    Obj Spec Status :=
  ⟨⟨k.name, k.ns, s.revision + 1, 1, s.revision + 1, false, []⟩, spec, status⟩

/-- A user's `kubectl create`. -/
def create (s : Store Spec Status) (k : Key) (spec : Spec) (status : Status) :
    Except StatusError (Store Spec Status) :=
  match s.objects k with
  | some _ => .error .alreadyExists
  | none => .ok (s.write k (some (s.fresh k spec status)) (by rintro o ⟨⟩; exact ⟨rfl, le_rfl, rfl⟩))

/-- The stored object `cur` after a deletion request: purged when it has no finalizer,
otherwise marked with a `deletionTimestamp`, with the next generation. -/
def deleted (s : Store Spec Status) (cur : Obj Spec Status) : Option (Obj Spec Status) :=
  if cur.metadata.finalizers = [] then none
  else some { cur with
    metadata := { cur.metadata with
      deletionTimestamp := true
      generation := cur.metadata.generation + 1
      resourceVersion := s.revision + 1 } }

theorem deleted_some {s : Store Spec Status} {cur x : Obj Spec Status} (h : s.deleted cur = some x) :
    x.status = cur.status ∧ x.metadata.generation = cur.metadata.generation + 1 ∧ x.spec = cur.spec ∧
      x.metadata.uid = cur.metadata.uid := by
  unfold deleted at h
  split at h
  · cases h
  · cases h; exact ⟨rfl, rfl, rfl, rfl⟩

/-- A user's `kubectl delete`. A second request on an object already being deleted changes
nothing. -/
def delete (s : Store Spec Status) (k : Key) : Except StatusError (Store Spec Status) :=
  match h : s.objects k with
  | none => .error .notFound
  | some cur =>
    if cur.metadata.deletionTimestamp then .ok s
    else .ok (s.write k (s.deleted cur) (by
      intro o h'
      unfold deleted at h'
      split at h' <;> cases h'
      exact ⟨s.keyed _ cur h, Nat.le_succ_of_le (s.uid_le _ cur h), rfl⟩))

/-- A user's spec update (`kubectl apply`/`edit`), made against the stored object. -/
def updateSpec [DecidableEq Spec] (s : Store Spec Status) (k : Key) (spec : Spec) :
    Except StatusError (Store Spec Status) :=
  match s.objects k with
  | none => .error .notFound
  | some cur => s.update { cur with spec := spec }

/-! ## What a step does to the store -/

theorem get_ok {s : Store Spec Status} {k : Key} {o : Obj Spec Status} :
    s.get k = .ok o ↔ s.objects k = some o := by
  unfold get; cases s.objects k <;> simp

theorem get_error {s : Store Spec Status} {k : Key} {e : StatusError} :
    s.get k = .error e ↔ e = .notFound ∧ s.objects k = none := by
  unfold get; cases s.objects k <;> simp [eq_comm]

theorem update_ok [DecidableEq Spec] {s s' : Store Spec Status} {o : Obj Spec Status}
    (h : s.update o = .ok s') :
    ∃ cur, s.objects o.key = some cur ∧
      cur.metadata.resourceVersion = o.metadata.resourceVersion ∧
      s'.objects = Function.update s.objects o.key (s.updated cur o) ∧
      s'.revision = s.revision + 1 := by
  unfold update at h
  split at h
  · cases h
  · split at h
    · cases h; exact ⟨_, ‹_›, ‹_›, rfl, rfl⟩
    · cases h

theorem updateStatus_ok {s s' : Store Spec Status} {o : Obj Spec Status}
    (h : s.updateStatus o = .ok s') :
    ∃ cur, s.objects o.key = some cur ∧
      cur.metadata.resourceVersion = o.metadata.resourceVersion ∧
      s'.objects = Function.update s.objects o.key (some (s.statusUpdated cur o)) ∧
      s'.revision = s.revision + 1 := by
  unfold updateStatus at h
  split at h
  · cases h
  · split at h
    · cases h; exact ⟨_, ‹_›, ‹_›, rfl, rfl⟩
    · cases h

/-- An update from a copy at the stored object's resource version lands. -/
theorem update_lands [DecidableEq Spec] {s : Store Spec Status} {cur o : Obj Spec Status}
    (hcur : s.objects o.key = some cur) (hrv : cur.metadata.resourceVersion = o.metadata.resourceVersion) :
    ∃ s', s.update o = .ok s' ∧ s'.objects = Function.update s.objects o.key (s.updated cur o) := by
  unfold update
  split
  · simp_all
  · rename_i cur' h
    rw [hcur] at h; cases h
    exact ⟨_, if_pos hrv, rfl⟩

/-- A status write from a copy at the stored object's resource version lands. -/
theorem updateStatus_lands {s : Store Spec Status} {cur o : Obj Spec Status}
    (hcur : s.objects o.key = some cur) (hrv : cur.metadata.resourceVersion = o.metadata.resourceVersion) :
    ∃ s', s.updateStatus o = .ok s' ∧ s'.objects o.key = some (s.statusUpdated cur o) := by
  unfold updateStatus
  split
  · simp_all
  · rename_i cur' h
    rw [hcur] at h; cases h
    exact ⟨_, if_pos hrv, Function.update_same _ _ _⟩

theorem create_ok {s s' : Store Spec Status} {k : Key} {spec : Spec} {status : Status}
    (h : s.create k spec status = .ok s') :
    s.objects k = none ∧
      s'.objects = Function.update s.objects k (some (s.fresh k spec status)) ∧
      s'.revision = s.revision + 1 := by
  unfold create at h
  split at h
  · cases h
  · cases h; exact ⟨‹_›, rfl, rfl⟩

theorem delete_ok {s s' : Store Spec Status} {k : Key} (h : s.delete k = .ok s') :
    ∃ cur, s.objects k = some cur ∧
      (cur.metadata.deletionTimestamp = true ∧ s' = s ∨
        cur.metadata.deletionTimestamp = false ∧
          s'.objects = Function.update s.objects k (s.deleted cur) ∧
          s'.revision = s.revision + 1) := by
  unfold delete at h
  split at h
  · cases h
  · next cur hcur =>
    split at h
    · cases h; exact ⟨_, hcur, .inl ⟨‹_›, rfl⟩⟩
    · next hdt => cases h; exact ⟨_, hcur, .inr ⟨by simpa using hdt, rfl, rfl⟩⟩

theorem updateSpec_ok [DecidableEq Spec] {s s' : Store Spec Status} {k : Key} {spec : Spec}
    (h : s.updateSpec k spec = .ok s') :
    ∃ cur, s.objects k = some cur ∧ s.update { cur with spec := spec } = .ok s' := by
  unfold updateSpec at h
  split at h
  · cases h
  · exact ⟨_, ‹_›, h⟩

/-- A write leaves every other key alone. -/
theorem update_other [DecidableEq Spec] {s s' : Store Spec Status} {o : Obj Spec Status}
    (h : s.update o = .ok s') {k : Key} (hk : k ≠ o.key) : s'.objects k = s.objects k := by
  obtain ⟨_, _, _, hobj, -⟩ := update_ok h
  rw [hobj, Function.update_noteq hk]

theorem updateStatus_other {s s' : Store Spec Status} {o : Obj Spec Status}
    (h : s.updateStatus o = .ok s') {k : Key} (hk : k ≠ o.key) : s'.objects k = s.objects k := by
  obtain ⟨_, _, _, hobj, -⟩ := updateStatus_ok h
  rw [hobj, Function.update_noteq hk]

/-! ## Snapshots

A copy read from the store stays a snapshot: every later write takes a fresh revision, so an
object under its key that still has its `resourceVersion` is the copy itself. Hence an
`update` or `updateStatus` made from a copy succeeds only on the object it was read from. -/

/-- `c` was read from `s` (or from an earlier state of it). -/
def Snap (s : Store Spec Status) (c : Obj Spec Status) : Prop :=
  c.metadata.resourceVersion ≤ s.revision ∧ c.metadata.uid ≤ s.revision ∧
    ∀ o, s.objects c.key = some o → o.metadata.resourceVersion = c.metadata.resourceVersion →
      o = c

theorem snap_of_get {s : Store Spec Status} {k : Key} {o : Obj Spec Status}
    (h : s.get k = .ok o) : Snap s o := by
  rw [get_ok] at h
  refine ⟨s.rv_le _ _ h, s.uid_le _ _ h, fun o' h' _ => ?_⟩
  rw [s.keyed _ _ h, h] at h'
  exact (Option.some.inj h').symm

theorem Snap.write {s : Store Spec Status} {c : Obj Spec Status} (hc : Snap s c) (k : Key) (v)
    (hv) : Snap (s.write k v hv) c := by
  refine ⟨Nat.le_succ_of_le hc.1, Nat.le_succ_of_le hc.2.1, fun o h hrv => ?_⟩
  by_cases same : c.key = k
  · rw [write_objects, same, Function.update_same] at h
    have := (hv o h).2.2
    have := hc.1
    omega
  · rw [write_objects, Function.update_noteq same] at h
    exact hc.2.2 o h hrv

theorem Snap.update [DecidableEq Spec] {s s' : Store Spec Status} {c o : Obj Spec Status}
    (hc : Snap s c) (h : s.update o = .ok s') : Snap s' c := by
  unfold Store.update at h
  split at h
  · cases h
  · split at h
    · cases h; exact hc.write _ _ _
    · cases h

theorem Snap.updateStatus {s s' : Store Spec Status} {c o : Obj Spec Status} (hc : Snap s c)
    (h : s.updateStatus o = .ok s') : Snap s' c := by
  unfold Store.updateStatus at h
  split at h
  · cases h
  · split at h
    · cases h; exact hc.write _ _ _
    · cases h

theorem Snap.create {s s' : Store Spec Status} {c : Obj Spec Status} {k spec status}
    (hc : Snap s c) (h : s.create k spec status = .ok s') : Snap s' c := by
  unfold Store.create at h
  split at h
  · cases h
  · cases h; exact hc.write _ _ _

theorem Snap.delete {s s' : Store Spec Status} {c : Obj Spec Status} {k} (hc : Snap s c)
    (h : s.delete k = .ok s') : Snap s' c := by
  unfold Store.delete at h
  split at h
  · cases h
  · split at h <;> cases h
    · exact hc
    · exact hc.write _ _ _

/-- An `update` from a copy of the snapshot `c` finds `c` stored, and lands on it. -/
theorem update_of_snap [DecidableEq Spec] {s s' : Store Spec Status} {c o : Obj Spec Status}
    (hc : Snap s c) (hk : o.key = c.key)
    (hrv : o.metadata.resourceVersion = c.metadata.resourceVersion)
    (h : s.update o = .ok s') :
    s.objects c.key = some c ∧ s'.objects = Function.update s.objects c.key (s.updated c o) := by
  obtain ⟨cur, hcur, hcv, hobj, -⟩ := update_ok h
  rw [hk] at hcur hobj
  obtain rfl := hc.2.2 cur hcur (hcv.trans hrv)
  exact ⟨hcur, hobj⟩

/-- A status write from a copy of the snapshot `c` finds `c` stored, and keeps it under its key
with the new status. -/
theorem updateStatus_landed {s s' : Store Spec Status} {c o : Obj Spec Status} (hc : Snap s c)
    (hm : o.metadata = c.metadata) (h : s.updateStatus o = .ok s') :
    s.objects c.key = some c ∧ s'.objects c.key = some (s.statusUpdated c o) := by
  obtain ⟨cur, hcur, hcv, hobj, -⟩ := updateStatus_ok h
  have hk : o.key = c.key := by simp only [Obj.key, hm]
  rw [hk] at hcur hobj
  obtain rfl := hc.2.2 cur hcur (hcv.trans (by rw [hm]))
  exact ⟨hcur, by rw [hobj, Function.update_same]⟩

/-! ## Generations

The API server bumps `generation` on every spec change, so while an object keeps its `uid`, its
generation never falls below that of an earlier copy, and equals it only while the spec is
still the copy's. -/

/-- One successful write call on the store. -/
inductive Changes [DecidableEq Spec] (s : Store Spec Status) : Store Spec Status → Prop
  | update {o s'} : s.update o = .ok s' → Changes s s'
  | updateStatus {o s'} : s.updateStatus o = .ok s' → Changes s s'
  | create {k spec status s'} : s.create k spec status = .ok s' → Changes s s'
  | delete {k s'} : s.delete k = .ok s' → Changes s s'

theorem Changes.revision_le [DecidableEq Spec] {s s' : Store Spec Status} (h : Changes s s') :
    s.revision ≤ s'.revision := by
  cases h with
  | update h => obtain ⟨-, -, -, -, e⟩ := update_ok h; omega
  | updateStatus h => obtain ⟨-, -, -, -, e⟩ := updateStatus_ok h; omega
  | create h => obtain ⟨-, -, e⟩ := create_ok h; omega
  | delete h => obtain ⟨-, -, ⟨-, rfl⟩ | ⟨-, -, e⟩⟩ := delete_ok h <;> omega

theorem Snap.changes [DecidableEq Spec] {s s' : Store Spec Status} {c : Obj Spec Status}
    (hc : Snap s c) (h : Changes s s') : Snap s' c := by
  cases h with
  | update h => exact hc.update h
  | updateStatus h => exact hc.updateStatus h
  | create h => exact hc.create h
  | delete h => exact hc.delete h

/-- While the object under `c`'s key is `c`'s own, its generation is at least `c`'s, and its
spec is `c`'s as long as the generation is. -/
def Tracks (s : Store Spec Status) (c : Obj Spec Status) : Prop :=
  c.metadata.uid ≤ s.revision ∧
    ∀ o, s.objects c.key = some o → o.metadata.uid = c.metadata.uid →
      c.metadata.generation ≤ o.metadata.generation ∧
        (o.metadata.generation = c.metadata.generation → o.spec = c.spec)

theorem tracks_of_get {s : Store Spec Status} {k : Key} {o : Obj Spec Status}
    (h : s.get k = .ok o) : Tracks s o := by
  rw [get_ok] at h
  refine ⟨s.uid_le _ _ h, fun o' h' _ => ?_⟩
  rw [s.keyed _ _ h, h] at h'
  cases h'
  exact ⟨le_rfl, fun _ => rfl⟩

/-- Tracking depends only on the key, uid, generation and spec of a copy. -/
theorem Tracks.congr {s : Store Spec Status} {c c' : Obj Spec Status} (h : Tracks s c)
    (hk : c'.key = c.key) (hu : c'.metadata.uid = c.metadata.uid)
    (hg : c'.metadata.generation = c.metadata.generation) (hs : c'.spec = c.spec) : Tracks s c' := by
  obtain ⟨hle, h⟩ := h
  refine ⟨hu ▸ hle, fun o ho hou => ?_⟩
  rw [hk] at ho
  rw [hg, hs]; exact h o ho (hou.trans hu)

/-- The value written under `k` is a fresh object, or the object it replaces with no fewer
generations and, at the same generation, the same spec. -/
def Grows (s : Store Spec Status) (k : Key) (v : Option (Obj Spec Status)) : Prop :=
  ∀ o', v = some o' → o'.metadata.uid = s.revision + 1 ∨
    ∃ o, s.objects k = some o ∧ o'.metadata.uid = o.metadata.uid ∧
      o.metadata.generation ≤ o'.metadata.generation ∧
        (o'.metadata.generation = o.metadata.generation → o'.spec = o.spec)

theorem Tracks.write {s : Store Spec Status} {c : Obj Spec Status} (hc : Tracks s c) {k : Key}
    {v} (hg : Grows s k v) (hv) : Tracks (s.write k v hv) c := by
  refine ⟨Nat.le_succ_of_le hc.1, fun o h hu => ?_⟩
  by_cases same : c.key = k
  · rw [write_objects, same, Function.update_same] at h
    rcases hg o h with fresh | ⟨o0, h0, hu0, hgen, hspec⟩
    · have := hc.1; omega
    · rw [← same] at h0
      obtain ⟨hle, heq⟩ := hc.2 o0 h0 (hu0.symm.trans hu)
      refine ⟨hle.trans hgen, fun hg' => ?_⟩
      have hg0 : o0.metadata.generation = c.metadata.generation := by omega
      rw [hspec (hg'.trans hg0.symm), heq hg0]
  · rw [write_objects, Function.update_noteq same] at h
    exact hc.2 o h hu

theorem grows_updated [DecidableEq Spec] {s : Store Spec Status} {k : Key} {cur o : Obj Spec Status}
    (h : s.objects k = some cur) : Grows s k (s.updated cur o) := by
  intro o' h'
  obtain ⟨-, hu, -, hs, -, -, -, hg⟩ := updated_spec h'
  refine .inr ⟨cur, h, hu, ?_, fun heq => ?_⟩ <;> rw [hg] at * <;> split at * <;> simp_all

theorem Tracks.changes [DecidableEq Spec] {s s' : Store Spec Status} {c : Obj Spec Status}
    (hc : Tracks s c) (h : Changes s s') : Tracks s' c := by
  cases h with
  | update h =>
    unfold Store.update at h
    split at h
    · cases h
    · split at h
      · cases h; exact hc.write (grows_updated ‹_›) _
      · cases h
  | updateStatus h =>
    unfold Store.updateStatus at h
    split at h
    · cases h
    · next cur hcur =>
      split at h
      · cases h
        exact hc.write (fun _ h' => by cases h'; exact .inr ⟨cur, hcur, rfl, le_rfl, fun _ => rfl⟩) _
      · cases h
  | create h =>
    unfold Store.create at h
    split at h
    · cases h
    · cases h; exact hc.write (fun _ h' => by cases h'; exact .inl rfl) _
  | delete h =>
    unfold Store.delete at h
    split at h
    · cases h
    · next cur hcur =>
      split at h <;> cases h
      · exact hc
      · refine hc.write (fun o' h' => ?_) _
        unfold deleted at h'
        split at h' <;> cases h'
        exact .inr ⟨cur, hcur, rfl, Nat.le_succ _, fun _ => rfl⟩

end Store

end SchemaOperator
