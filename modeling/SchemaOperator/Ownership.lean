import SchemaOperator.SchemaPass

/-!
# Who answers for a registered subject

A Schema addresses one subject of one registry: the URL of the `SchemaRegistry` its
`registryRef` resolves to in the cluster, and its `spec.subject` (`target`). The webhook keeps
the subject of a stored Schema but lets users change `registryRef`, and users may change a
SchemaRegistry's URL or delete it; the results here hold for users who do none of these
(`Frozen`).

Under that policy the cluster keeps every SchemaRegistry it has had, at its URL (`KeptURLs`), so
that a client a pass built from an earlier state of the cluster still talks to its copy's target.
The object stored under a key keeps, while it keeps its `uid`, the subject and `registryRef` of
every copy a pass read of it, and keeps a deletion requested of it (`persists_step`,
`CopiesStay`). Every registration a pass made is then answered for: a stored Schema that
addresses the subject and holds the finalizer will clean it up when it goes, or the cleanup has
already happened, or was waived (`Accounted`).

Results:
* `registered_accounted`: every `(registry, subject)` pair a pass registered into is the target
  of a stored Schema, or was the target of a later `DeleteSubject` that returned nil, or of a
  later deletion pass that waived its cleanup.
* `subject_orphaned`: a change of `registryRef`, a change of the SchemaRegistry's URL and a
  deletion of the SchemaRegistry each leave a registered subject with none of these.
-/

namespace SchemaOperator

/-- Every SchemaRegistry of `cl` is in `cl'`, at the same URL. -/
def Cluster.Keeps (cl cl' : Cluster) : Prop :=
  ∀ k sr, cl.registries k = some sr → ∃ sr', cl'.registries k = some sr' ∧ sr'.spec.url = sr.spec.url

theorem Cluster.Keeps.refl (cl : Cluster) : cl.Keeps cl :=
  fun _ sr h => ⟨sr, h, rfl⟩

theorem Cluster.Keeps.trans {cl₁ cl₂ cl₃ : Cluster} (h₁ : cl₁.Keeps cl₂) (h₂ : cl₂.Keeps cl₃) :
    cl₁.Keeps cl₃ := fun k sr h =>
  let ⟨sr₂, h₂', e₂⟩ := h₁ k sr h
  let ⟨sr₃, h₃, e₃⟩ := h₂ k sr₂ h₂'
  ⟨sr₃, h₃, e₃.trans e₂⟩

namespace SchemaController

open Client Registry

/-! ## Targets and the policy -/

/-- The registry URL and the subject a Schema addresses in the cluster `cl`, when its
`registryRef` resolves. -/
def target (cl : Cluster) (o : Schema) : Option (String × String) :=
  (cl.registries (registryKey o)).map fun sr => (sr.spec.url, o.spec.subject)

theorem target_keeps {cl cl' : Cluster} {o : Schema} {p : String × String} (h : cl.Keeps cl')
    (ht : target cl o = some p) : target cl' o = some p := by
  obtain ⟨sr, hsr, rfl⟩ := Option.map_eq_some'.mp ht
  obtain ⟨sr', hsr', hurl⟩ := h _ sr hsr
  simp [target, hsr', hurl]

/-- Users keep a Schema's `registryRef` (the webhook keeps its subject) and a SchemaRegistry's
URL, and delete no SchemaRegistry. -/
def Frozen (w : SchemaWorld) : Choice SchemaSpec → Prop
  | .update k spec => ∀ x, w.store.objects k = some x → spec.registryRef = x.spec.registryRef
  | .putRegistry sr => ∀ sr₀, w.cluster.registries sr.key = some sr₀ → sr.spec.url = sr₀.spec.url
  | .deleteRegistry _ => False
  | _ => True

/-- `x'` is `x` later: the same uid, subject and `registryRef`, and a deletion requested of `x` is
requested of `x'`. -/
def Persists (x x' : Schema) : Prop :=
  x'.metadata.uid = x.metadata.uid ∧ x'.spec.subject = x.spec.subject ∧
    x'.spec.registryRef = x.spec.registryRef ∧
    (x.metadata.deletionTimestamp = true → x'.metadata.deletionTimestamp = true)

theorem Persists.refl (x : Schema) : Persists x x := ⟨rfl, rfl, rfl, id⟩

theorem Persists.trans {x y z : Schema} (h : Persists x y) (h' : Persists y z) : Persists x z :=
  ⟨h'.1.trans h.1, h'.2.1.trans h.2.1, h'.2.2.1.trans h.2.2.1, fun hd => h'.2.2.2 (h.2.2.2 hd)⟩

theorem target_eq {cl : Cluster} {o x : Schema} (hk : x.key = o.key) (h : Persists o x) :
    target cl x = target cl o := by
  have hns : x.metadata.ns = o.metadata.ns := congrArg Key.ns hk
  simp only [target, registryKey, registryNamespace, hns, h.2.1, h.2.2.1]

variable {env : Env} {H : Cluster → Prop} {s s' : SchemaStore} {k : Key}

/-! ## The cluster -/

theorem keeps_step {w w' : SchemaWorld} {ch : Choice SchemaSpec} (hp : Frozen w ch)
    (h : StepKind controller env w ch w') : w.cluster.Keeps w'.cluster := by
  rcases h.cluster with e | ⟨cl, hm, rfl⟩
  · rw [e]; exact .refl _
  cases hm with
  | @putRegistry sr _ =>
    intro k sr₀ h₀
    by_cases e : k = sr.key
    · subst e
      exact ⟨sr, Function.update_same _ _ _, hp sr₀ h₀⟩
    · exact ⟨sr₀, (Function.update_noteq e _ _).trans h₀, rfl⟩
  | deleteRegistry _ => exact hp.elim
  | putSecret => exact fun _ sr h => ⟨sr, h, rfl⟩

/-- The cluster keeps every SchemaRegistry of every state it has been through, at its URL. -/
def KeptURLs (w : SchemaWorld) : Prop :=
  ∀ cl, w.had cl → cl.Keeps w.cluster

theorem keptURLs_step {w w' : SchemaWorld} {ch : Choice SchemaSpec} (hk : KeptURLs w)
    (hp : Frozen w ch) (h : StepKind controller env w ch w') : KeptURLs w' := by
  intro cl hcl
  rcases h.had_new hcl with rfl | hcl
  · exact .refl _
  · exact (hk cl hcl).trans (keeps_step hp h)

theorem registry_of_client {cl : Cluster} {o : Schema} {c : SchemaRegistryClient}
    (hb : buildClient env.keyPair cl.reader o = .ok c) :
    ∃ sr, cl.registries (registryKey o) = some sr ∧ c.baseURL = sr.spec.url := by
  obtain ⟨sr, hsr, hurl⟩ := buildClient_ok hb
  refine ⟨sr, ?_, hurl⟩
  simp only [Cluster.reader, Reader.ofLookup] at hsr
  cases h : cl.registries (registryKey o) <;> simp_all

/-- A client a pass built, from a state the cluster has been through, talks to its copy's target
now. -/
theorem target_of_built {w : SchemaWorld} (hk : KeptURLs w) {o : Schema} {c : SchemaRegistryClient}
    (hb : Built env w.had o c) : target w.cluster o = some (c.baseURL, o.spec.subject) := by
  obtain ⟨cl, hcl, hb⟩ := hb
  obtain ⟨sr, hsr, hurl⟩ := registry_of_client hb
  exact target_keeps (hk cl hcl) (by simp [target, hsr, hurl])

/-! ## What a step does to a stored object -/

theorem call_updateStatus {st : Stage} {n : Schema} (hok : StageOK env H s k st)
    (hc : call k st = some (.updateStatus n)) :
    ∃ o', Store.Snap s o' ∧ n.metadata = o'.metadata ∧ o'.key = k ∧
      ((∃ o resp, st = .commit o o' resp ∧ n = committed o' resp) ∨
        ∃ o result reason message, st = .failUpdate o o' result reason message ∧
          n = conditionFailed o' reason message) := by
  cases st <;> simp only [call, Option.some.injEq, Call.updateStatus.injEq, reduceCtorEq] at hc <;>
    subst hc
  case commit o o' resp =>
    exact ⟨o', hok.snap o' (by simp [Stage.snaps]), rfl, hok.facts.2.1, .inl ⟨o, resp, rfl, rfl⟩⟩
  case failUpdate o o' result reason message =>
    exact ⟨o', hok.snap o' (by simp [Stage.snaps]), rfl, hok.facts.2.1,
      .inr ⟨o, result, reason, message, rfl, rfl⟩⟩

theorem object_step {w w' : SchemaWorld} {ch : Choice SchemaSpec} (hi : Inv env w)
    (h : StepKind controller env w ch w') (k : Key) :
    w'.store.objects k = w.store.objects k ∨
    (∃ spec, ch = .create k spec ∧ w.store.objects k = none ∧
      w'.store.objects k = some (w.store.fresh k spec SchemaStatus.empty)) ∨
    (∃ cur o, w.store.objects k = some cur ∧ w'.store.objects k = w.store.updated cur o ∧
      ((∃ spec, ch = .update k spec ∧ o = { cur with spec := spec } ∧
          controller.admitUpdate env cur o = true) ∨ o.spec = cur.spec)) ∨
    (∃ cur, ch = .delete k ∧ w.store.objects k = some cur ∧
      w'.store.objects k = w.store.deleted cur) ∨
    (∃ st n cur f, ch = .step k f ∧ w.passes k = some st ∧ call k st = some (.updateStatus n) ∧
      w.store.objects k = some cur ∧ n.metadata = cur.metadata ∧
      w'.store.objects k = some (w.store.statusUpdated cur n)) := by
  have same : ∀ {k₀ v}, w'.store.objects = Function.update w.store.objects k₀ v → k ≠ k₀ →
      w'.store.objects k = w.store.objects k := fun hobj e => by rw [hobj, Function.update_noteq e]
  cases h with
  | @create k₀ spec _ _ hc =>
    obtain ⟨hnone, hobj, -⟩ := Store.create_ok hc
    by_cases e : k = k₀
    · subst e; exact .inr (.inl ⟨spec, rfl, hnone, by rw [hobj, Function.update_same]; rfl⟩)
    · exact .inl (same hobj e)
  | @update k₀ spec cur _ hcur hadm hu =>
    obtain ⟨cur', hcur', -, hobj, -⟩ := Store.update_ok hu
    have hk₀ : cur.key = k₀ := w.store.keyed _ _ hcur
    change w.store.objects cur.key = some cur' at hcur'
    change _ = Function.update _ cur.key _ at hobj
    rw [hk₀, hcur] at hcur'
    cases hcur'
    rw [hk₀] at hobj
    by_cases e : k = k₀
    · subst e
      exact .inr (.inr (.inl ⟨cur, _, hcur, by rw [hobj, Function.update_same],
        .inl ⟨spec, rfl, rfl, hadm⟩⟩))
    · exact .inl (same hobj e)
  | @delete k₀ _ hd =>
    obtain ⟨cur, hcur, ⟨-, rfl⟩ | ⟨-, hobj, -⟩⟩ := Store.delete_ok hd
    · exact .inl rfl
    · by_cases e : k = k₀
      · subst e
        exact .inr (.inr (.inr (.inl ⟨cur, rfl, hcur, by rw [hobj, Function.update_same]⟩)))
      · exact .inl (same hobj e)
  | @call k₀ st _ f _ _ _ hst hc ha =>
    have hok := hi _ _ hst
    rw [World.answered_store]
    rcases answer_store ha with hs | ⟨o', rfl, hu⟩ | ⟨n, rfl, hu⟩
    · exact .inl (by rw [hs])
    · obtain ⟨o, hs, hk, hrv, hsp⟩ : ∃ o, Store.Snap w.store o ∧ o'.key = o.key ∧
          o'.metadata.resourceVersion = o.metadata.resourceVersion ∧ o'.spec = o.spec := by
        obtain ⟨-, ⟨o, rfl, rfl⟩ | ⟨o, cl, rfl, rfl⟩⟩ := call_update hok.facts hc
        · exact ⟨o, hok.snap o (by simp [Stage.snaps]), addFinalizer_key o,
            addFinalizer_resourceVersion o, addFinalizer_spec o⟩
        · exact ⟨o, hok.snap o (by simp [Stage.snaps]), rfl, rfl, rfl⟩
      obtain ⟨hcur, hobj⟩ := Store.update_of_snap hs hk hrv hu
      by_cases e : k = o.key
      · subst e
        exact .inr (.inr (.inl ⟨o, o', hcur, by rw [hobj, Function.update_same], .inr hsp⟩))
      · exact .inl (same hobj e)
    · obtain ⟨o', hs, hm, hk, -⟩ := call_updateStatus hok hc
      obtain ⟨hcur, hobj⟩ := Store.updateStatus_landed hs hm hu
      rw [hk] at hcur hobj
      by_cases e : k = k₀
      · subst e
        exact .inr (.inr (.inr (.inr ⟨st, n, o', f, rfl, hst, hc, hcur, hm, hobj⟩)))
      · have hnk : k ≠ n.key := by rwa [show n.key = k₀ by simp only [Obj.key, hm]; exact hk]
        exact .inl (Store.updateStatus_other hu hnk)
  | _ => exact .inl rfl

theorem stored_step {w w' : SchemaWorld} {ch : Choice SchemaSpec} (hi : Inv env w)
    (hp : Frozen w ch) (h : StepKind controller env w ch w') {x' : Schema}
    (hx' : w'.store.objects k = some x') :
    (∃ spec, ch = .create k spec ∧ x' = w.store.fresh k spec SchemaStatus.empty) ∨
    ∃ x, w.store.objects k = some x ∧ Persists x x' ∧
      ((x'.status = x.status ∧ x.metadata.generation ≤ x'.metadata.generation) ∨
        ∃ st n f, ch = .step k f ∧ w.passes k = some st ∧ call k st = some (.updateStatus n) ∧
          n.metadata = x.metadata ∧ x' = w.store.statusUpdated x n) := by
  rcases object_step hi h k with e | ⟨spec, rfl, -, e⟩ | ⟨cur, o, hcur, e, ho⟩ | ⟨cur, rfl, hcur, e⟩ |
      ⟨st, n, cur, f, rfl, hst, hc, hcur, hm, e⟩ <;> rw [e] at hx'
  · exact .inr ⟨x', hx', .refl x', .inl ⟨rfl, le_rfl⟩⟩
  · cases hx'; exact .inl ⟨spec, rfl, rfl⟩
  · obtain ⟨-, hu, -, hs, -, hd, hst, hg⟩ := Store.updated_spec hx'
    have hkeep : x'.spec.subject = cur.spec.subject ∧ x'.spec.registryRef = cur.spec.registryRef := by
      rcases ho with ⟨spec, rfl, rfl, hadm⟩ | hos
      · have hsub := ((Webhook.validateUpdate_eq_nil _ _ _).mp (List.isEmpty_iff.mp hadm)).1
        exact ⟨by rw [hs]; exact hsub.symm, by rw [hs]; exact hp cur hcur⟩
      · exact ⟨by rw [hs, hos], by rw [hs, hos]⟩
    refine .inr ⟨cur, hcur, ⟨hu, hkeep.1, hkeep.2, fun h => hd.trans h⟩, .inl ⟨hst, ?_⟩⟩
    rw [hg]; split_ifs <;> omega
  · unfold Store.deleted at hx'
    split at hx'
    · cases hx'
    · cases hx'; exact .inr ⟨cur, hcur, ⟨rfl, rfl, rfl, fun _ => rfl⟩, .inl ⟨rfl, Nat.le_succ _⟩⟩
  · cases hx'
    exact .inr ⟨cur, hcur, ⟨rfl, rfl, rfl, id⟩, .inr ⟨st, n, f, rfl, hst, hc, hm, rfl⟩⟩

theorem persists_step {w w' : SchemaWorld} {ch : Choice SchemaSpec} (hi : Inv env w)
    (hp : Frozen w ch) (h : StepKind controller env w ch w') {x' : Schema}
    (hx' : w'.store.objects k = some x') (hu : x'.metadata.uid ≤ w.store.revision) :
    ∃ x, w.store.objects k = some x ∧ Persists x x' := by
  rcases stored_step hi hp h hx' with ⟨spec, -, rfl⟩ | ⟨x, hx, hpx, -⟩
  · exact absurd hu (by simp [Store.fresh])
  · exact ⟨x, hx, hpx⟩

/-! ## Copies -/

/-- The stored object of a copy's uid persists from the copy. -/
def Stays (s : SchemaStore) (o : Schema) : Prop :=
  ∀ x, s.objects o.key = some x → x.metadata.uid = o.metadata.uid → Persists o x

theorem Stays.of_stored {o : Schema} (h : s.objects o.key = some o) : Stays s o := by
  intro x hx _
  rw [h] at hx; cases hx
  exact .refl o

theorem Stays.step {w w' : SchemaWorld} {ch : Choice SchemaSpec} {o : Schema} (hi : Inv env w)
    (hp : Frozen w ch) (h : StepKind controller env w ch w') (hs : Stays w.store o)
    (hle : o.metadata.uid ≤ w.store.revision) : Stays w'.store o := by
  intro x' hx' hu'
  obtain ⟨x, hx, hpx⟩ := persists_step hi hp h hx' (hu' ▸ hle)
  exact (hs x hx (hpx.1.symm.trans hu')).trans hpx

theorem Stays.addFinalizer {o : Schema} (h : Stays s o) : Stays s (addFinalizer o) := by
  intro x hx hu
  obtain ⟨h1, h2, h3, h4⟩ := h x (by simpa using hx) (by simpa using hu)
  refine ⟨by simpa using h1, by simpa using h2, by simpa using h3, fun hd => h4 ?_⟩
  unfold SchemaController.addFinalizer at hd; split_ifs at hd <;> exact hd

theorem Stage.copy_mem {st : Stage} {o : Schema} (ho : st.copy = some o) :
    o ∈ st.tracked ∨ o ∈ st.snaps := by
  cases st <;> simp_all [Stage.copy, Stage.tracked, Stage.snaps]

theorem Stage.copy_key {st : Stage} {o : Schema} (hf : st.Facts env H k) (ho : st.copy = some o) :
    o.key = k := by
  cases st <;> simp only [Stage.copy, Option.some.injEq, reduceCtorEq] at ho <;> subst ho
  all_goals first | exact hf | exact hf.1 | exact hf.1.1

theorem StageOK.copy_uid {st : Stage} {o : Schema} (h : StageOK env H s k st) (ho : st.copy = some o) :
    o.metadata.uid ≤ s.revision := by
  rcases Stage.copy_mem ho with ht | hs
  · exact (h.tracks o ht).1
  · exact (h.snap o hs).2.1

@[simp] theorem copy_toRegister (o : Schema) (c : SchemaRegistryClient) :
    (toRegister o c).copy = some o := by
  unfold toRegister; split <;> rfl

@[simp] theorem copy_afterRegister (o : Schema) (c : SchemaRegistryClient) (resp : SchemaResponse) :
    (afterRegister o c resp).copy = some o := by
  unfold afterRegister; split_ifs
  · split <;> rfl
  · rfl

@[simp] theorem copy_afterPost (o : Schema) (c : SchemaRegistryClient) (id : Int) :
    (afterPost o c id).copy = some o := by
  unfold afterPost; split
  · rfl
  · exact copy_afterRegister o c _

theorem copy_toDelete {o o' : Schema} {c : SchemaRegistryClient} (h : (toDelete o c).copy = some o') :
    o' = o := by
  unfold toDelete at h; split at h <;> simp_all [Stage.copy]

theorem copy_next {cl : Cluster} {m m' : Remote} {st : Stage} {c : Call SchemaSpec SchemaStatus}
    {f : Fault} {a : Answer SchemaSpec SchemaStatus} {o : Schema} (hc : call k st = some c)
    (ha : answer env cl s m c f = some (a, s', m')) (ho : (next env st a).copy = some o) :
    st.copy = some o ∨ s'.objects o.key = some o ∨ ∃ o₀, st = .attach o₀ ∧ o = addFinalizer o₀ := by
  have read : ∀ o', answer env cl s m (.get k) f = some (.got (.ok o'), s', m') →
      s'.objects o'.key = some o' := fun o' h => by
    obtain ⟨hs, hx⟩ := answer_got h
    rw [hs, s.keyed _ _ hx]; exact hx
  cases st with
  | get =>
    cases hc
    rcases a with (_ | o') | _ | _ | _ <;> simp only [next] at ho
    · simp [Stage.copy] at ho
    · split_ifs at ho <;> simp only [Stage.copy, Option.some.injEq, reduceCtorEq] at ho <;>
        (subst ho; exact .inr (.inl (read _ ha)))
    all_goals simp [Stage.copy] at ho
  | attach o₀ =>
    rcases a with _ | (_ | ⟨⟩) | _ | _ <;> simp only [next, Stage.copy, Option.some.injEq,
      reduceCtorEq] at ho
    all_goals first
      | (subst ho; exact .inl rfl)
      | exact .inr (.inr ⟨o₀, rfl, ho.symm⟩)
  | refetch o₀ =>
    cases hc
    rcases a with (_ | o') | _ | _ | _ <;> simp only [next, Stage.copy, Option.some.injEq,
      reduceCtorEq] at ho
    · subst ho; exact .inr (.inl (read _ ha))
    all_goals (subst ho; exact .inl rfl)
  | deleteBuild o₀ =>
    rcases a with _ | _ | rd | _ <;> simp only [next] at ho
    case read =>
      split at ho
      · simp only [Stage.copy, Option.some.injEq] at ho; subst ho; exact .inl rfl
      · rw [copy_toDelete ho]; exact .inl rfl
    all_goals exact .inl ho
  | done => cases hc
  | _ =>
    left
    rcases a with (_ | _) | (_ | ⟨⟩) | _ | _ <;> (try simp only [next] at ho) <;> (try split at ho) <;>
      (try simp only [copy_toRegister, copy_afterPost, copy_afterRegister] at ho) <;>
      simp only [Stage.copy, Option.some.injEq, reduceCtorEq] at ho ⊢ <;>
      exact ho

/-- Every copy a pass holds stays. -/
def CopiesStay (w : SchemaWorld) : Prop :=
  ∀ k st o, w.passes k = some st → st.copy = some o → Stays w.store o

theorem copiesStay_step {w w' : SchemaWorld} {ch : Choice SchemaSpec} (hi : Inv env w)
    (hc : CopiesStay w) (hp : Frozen w ch) (h : StepKind controller env w ch w') :
    CopiesStay w' := by
  have other : ∀ k st o, w.passes k = some st → st.copy = some o → Stays w'.store o :=
    fun k st o hk ho => (hc k st o hk ho).step hi hp h ((hi k st hk).copy_uid ho)
  intro k st' o hk ho
  rcases h.pass hk with ⟨hold, -⟩ | ⟨-, rfl⟩ | ⟨st, c, f, a, s, m, -, hst, hc, ha, rfl, rfl⟩
  · exact other k st' o hold ho
  · cases ho
  · rcases copy_next hc ha ho with h1 | h2 | ⟨o₀, rfl, rfl⟩
    · exact other _ _ _ hst h1
    · exact Stays.of_stored h2
    · exact (other _ _ _ hst rfl).addFinalizer

/-! ## Cleanups -/

theorem afterRegister_ne_release {o o' : Schema} {c : SchemaRegistryClient} {resp : SchemaResponse}
    {cl : Cleanup} : afterRegister o c resp ≠ .release o' cl := by
  unfold afterRegister; split_ifs
  · split <;> nofun
  · nofun

theorem afterPost_ne_release {o o' : Schema} {c : SchemaRegistryClient} {id : Int} {cl : Cleanup} :
    afterPost o c id ≠ .release o' cl := by
  unfold afterPost; split
  · nofun
  · exact afterRegister_ne_release

theorem toRegister_ne_release {o o' : Schema} {c : SchemaRegistryClient} {cl : Cleanup} :
    toRegister o c ≠ .release o' cl := by
  unfold toRegister; split <;> nofun

theorem next_release {st : Stage} {a : Answer SchemaSpec SchemaStatus} {o : Schema} {cl : Cleanup}
    (hst : ∀ o cl, st ≠ .release o cl) (h : next env st a = .release o cl) :
    (st = .deleteBuild o ∧ events env st a = [.waived o]) ∨
      ∃ c r, st = .deleteSubject o c r ∧ events env st a = [.deleted c.baseURL o.spec.subject] := by
  cases st with
  | deleteBuild o₀ =>
    rcases a with _ | _ | rd | _ <;> simp only [next] at h
    case read =>
      split at h
      · next he => cases h; exact .inl ⟨rfl, by simp only [events, he]⟩
      · unfold toDelete at h; split at h <;> cases h
    all_goals cases h
  | deleteSubject o₀ c₀ r₀ =>
    rcases a with _ | _ | _ | a <;> simp only [next] at h
    case sent =>
      split at h
      · cases h
      · next hd => cases h; exact .inr ⟨c₀, r₀, rfl, by simp only [events, hd]⟩
    all_goals cases h
  | release o₀ cl₀ => exact absurd rfl (hst o₀ cl₀)
  | _ =>
    exfalso
    rcases a with (_ | _) | (_ | ⟨⟩) | _ | _ <;> simp only [next, reduceCtorEq] at h <;>
      (try split at h) <;> (try split at h) <;>
      simp_all [toRegister_ne_release, afterPost_ne_release, afterRegister_ne_release]

theorem registered_event {st : Stage} {a : Answer SchemaSpec SchemaStatus} {b s : String}
    (h : Event.registered b s ∈ events env st a) :
    ∃ o c r, st = .register o c r ∧ b = c.baseURL ∧ s = o.spec.subject := by
  cases st <;> rcases a with _ | _ | _ | _ <;> simp only [events, List.not_mem_nil] at h
  all_goals (split at h <;> simp only [List.mem_singleton, List.not_mem_nil, Event.registered.injEq,
    reduceCtorEq] at h)
  exact ⟨_, _, _, rfl, h⟩

/-- An event that cleans up the subject `s` of the registry at `b`: a `DeleteSubject` of it that
returned nil, or a cleanup waived for a Schema that addresses it in the cluster `cl`. -/
def Cleans (cl : Cluster) (b s : String) : Event → Prop
  | .deleted b' s' => b' = b ∧ s' = s
  | .waived o => target cl o = some (b, s)
  | .registered _ _ => False

/-- A stored Schema answers for `(b, s)`: it addresses the pair and holds the finalizer, and its
pass is not past its cleanup. -/
def Claimed (w : SchemaWorld) (b s : String) : Prop :=
  ∃ k x, w.store.objects k = some x ∧ target w.cluster x = some (b, s) ∧
    schemaFinalizer ∈ x.metadata.finalizers ∧ ∀ o cu, w.passes k ≠ some (.release o cu)

/-- Every registration in the log is answered for by a stored Schema, or cleaned up later. -/
def Accounted (w : SchemaWorld) : Prop :=
  ∀ (i : Nat) b s, w.log[i]? = some (Event.registered b s) →
    Claimed w b s ∨ ∃ j : Nat, ∃ e, i < j ∧ w.log[j]? = some e ∧ Cleans w.cluster b s e

theorem Cleans.keeps {cl cl' : Cluster} {b s : String} {e : Event} (h : cl.Keeps cl')
    (hc : Cleans cl b s e) : Cleans cl' b s e := by
  cases e with
  | waived o => exact target_keeps h hc
  | _ => exact hc

theorem target_of_pinned {w : SchemaWorld} {cl : Cluster} {st : Stage} {o x : Schema} (hi : Inv env w)
    (hc : CopiesStay w) (hst : w.passes k = some st) (ho : st.copy = some o) (hp : o ∈ st.pinned)
    (hx : w.store.objects k = some x) : target cl x = target cl o := by
  obtain ⟨x', hx', hu, -⟩ := (hi k st hst).pinned o hp
  rw [hx] at hx'; cases hx'
  have hk : x.key = k := w.store.keyed _ _ hx
  have hok := Stage.copy_key (hi k st hst).facts ho
  exact target_eq (hk.trans hok.symm) (hc k st o hst ho x (hok ▸ hx) hu)

theorem claimed_step {w w' : SchemaWorld} {ch : Choice SchemaSpec} {b s : String} (hi : Inv env w)
    (hk : KeptURLs w) (hc : CopiesStay w) (hp : Frozen w ch) (h : StepKind controller env w ch w')
    (hcl : Claimed w b s) :
    Claimed w' b s ∨ ∃ e ∈ w'.log.drop w.log.length, Cleans w'.cluster b s e := by
  obtain ⟨kx, x, hx, ht, hfin, hnr⟩ := hcl
  obtain ⟨x', hx', ht', hfin'⟩ : ∃ x', w'.store.objects kx = some x' ∧
      target w'.cluster x' = some (b, s) ∧ schemaFinalizer ∈ x'.metadata.finalizers := by
    rcases pinned_step hi h ⟨x, hx, rfl, hfin⟩ with ⟨x', hx', hu, hfin'⟩ | ⟨o, cu, -, -, hrel, -⟩
    · obtain ⟨x₀, hx₀, hpx⟩ := persists_step hi hp h hx' (hu ▸ w.store.uid_le _ _ hx)
      rw [hx] at hx₀; cases hx₀
      exact ⟨x', hx', target_keeps (keeps_step hp h) <| (target_eq ((w'.store.keyed _ _ hx').trans
        (w.store.keyed _ _ hx).symm) hpx).trans ht, hfin'⟩
    · exact absurd hrel (hnr o cu)
  by_cases hrel : ∃ o cu, w'.passes kx = some (.release o cu)
  · obtain ⟨o, cu, h'⟩ := hrel
    rcases h.pass h' with ⟨hold, -⟩ | ⟨-, he⟩ | ⟨st, c, f, a, s', m, -, hst, -, -, hn, rfl⟩
    · exact absurd hold (hnr o cu)
    · cases he
    -- the step moved the pass over `kx` to its release: it logged the cleanup
    right
    simp only [World.answered_log, World.answered_cluster, List.drop_left]
    rcases next_release (fun o cu h' => hnr o cu (h' ▸ hst)) hn.symm with ⟨rfl, hev⟩ | ⟨c, r, rfl, hev⟩
    · refine ⟨.waived o, by simp [controller, hev], ?_⟩
      show target w.cluster o = some (b, s)
      rw [← target_of_pinned hi hc hst rfl (by simp [Stage.pinned]) hx, ht]
    · refine ⟨.deleted c.baseURL o.spec.subject, by simp [controller, hev], ?_⟩
      rw [target_of_pinned hi hc hst rfl (by simp [Stage.pinned]) hx,
        target_of_built hk (hi _ _ hst).facts.2.1, Option.some.injEq, Prod.mk.injEq] at ht
      exact ht
  · exact .inl ⟨kx, x', hx', ht', hfin', fun o cu h' => hrel ⟨o, cu, h'⟩⟩

theorem claimed_registered {w : SchemaWorld} {st : Stage} {c : Call SchemaSpec SchemaStatus}
    {f : Fault} {a : Answer SchemaSpec SchemaStatus} {s' : SchemaStore} {m' : Remote} {b s : String}
    (hi : Inv env w) (hk : KeptURLs w) (hc : CopiesStay w) (hst : w.passes k = some st)
    (hcall : call k st = some c) (ha : answer env w.cluster w.store w.remote c f = some (a, s', m'))
    (hb : Event.registered b s ∈ events env st a) :
    Claimed (w.answered (next env) (events env) k st a s' m') b s := by
  obtain ⟨o, c, r, rfl, rfl, rfl⟩ := registered_event hb
  cases hcall
  obtain ⟨rfl, -⟩ := answer_send ha
  obtain ⟨x, hx, -, hfin⟩ := (hi k _ hst).pinned o (by simp [Stage.pinned])
  refine ⟨k, x, hx, (target_of_pinned hi hc hst rfl (by simp [Stage.pinned]) hx).trans
    (target_of_built hk (hi _ _ hst).facts.2.1), hfin, fun o' cu h' => ?_⟩
  simp only [World.answered_passes, Function.update_same, Option.some.injEq] at h'
  rcases next_release (fun _ _ h => by cases h) h' with ⟨h'', -⟩ | ⟨_, _, h'', -⟩ <;> cases h''

theorem accounted_step {w w' : SchemaWorld} {ch : Choice SchemaSpec} (hi : Inv env w)
    (hk : KeptURLs w) (hc : CopiesStay w) (hp : Frozen w ch) (hacc : Accounted w)
    (h : StepKind controller env w ch w') : Accounted w' := by
  have hlog := (List.prefix_iff_eq_append.mp h.log_prefix).symm
  intro i b s hi'
  by_cases hlt : i < w.log.length
  · rw [hlog, List.getElem?_append_left hlt] at hi'
    rcases hacc i b s hi' with hcl | ⟨j, e, hij, hj, hcj⟩
    · rcases claimed_step hi hk hc hp h hcl with hcl' | ⟨e, he, hce⟩
      · exact .inl hcl'
      · obtain ⟨n, hn⟩ := List.mem_iff_getElem?.mp he
        refine .inr ⟨w.log.length + n, e, by omega, ?_, hce⟩
        rw [hlog, List.getElem?_append_right (by omega), Nat.add_sub_cancel_left, ← hn, hlog,
          List.drop_left]
    · have hjl : j < w.log.length := by
        by_contra hn; rw [List.getElem?_eq_none (by omega)] at hj; cases hj
      exact .inr ⟨j, e, hij, by rw [hlog, List.getElem?_append_left hjl]; exact hj,
        hcj.keeps (keeps_step hp h)⟩
  · cases h with
    | call hst hcall ha =>
      rw [World.answered_log, List.getElem?_append_right (by omega)] at hi'
      exact .inl (claimed_registered hi hk hc hst hcall ha (List.mem_iff_getElem?.mpr ⟨_, hi'⟩))
    | _ => rw [List.getElem?_eq_none (by simpa using hlt)] at hi'; cases hi'

/-- The invariants of every world reachable under a frozen policy. -/
theorem frozen_reachable {policy : SchemaWorld → Choice SchemaSpec → Prop} {m : Remote}
    (hpol : ∀ w ch, policy w ch → Frozen w ch) {w : SchemaWorld}
    (hw : Reachable controller env policy m w) : Inv env w ∧ KeptURLs w ∧ CopiesStay w := by
  induction hw with
  | init =>
    refine ⟨inv_init m, fun cl hcl => ?_, fun k st o h => nomatch h⟩
    rcases hcl with rfl | h
    · exact .refl _
    · cases h
  | step _ hch hx ih =>
    obtain ⟨hi, hk, hc⟩ := ih
    have h := exec_kind hx
    exact ⟨inv_step hi h, keptURLs_step hk (hpol _ _ hch) h, copiesStay_step hi hc (hpol _ _ hch) h⟩

theorem accounted_reachable {policy : SchemaWorld → Choice SchemaSpec → Prop} {m : Remote}
    (hpol : ∀ w ch, policy w ch → Frozen w ch) {w : SchemaWorld}
    (hw : Reachable controller env policy m w) : Accounted w := by
  induction hw with
  | init => intro i b s h; simp [World.init] at h
  | step hr hch hx ih =>
    obtain ⟨hi, hk, hc⟩ := frozen_reachable hpol hr
    exact accounted_step hi hk hc (hpol _ _ hch) ih (exec_kind hx)

/-- Under users who keep `registryRef`, keep every SchemaRegistry's URL and delete no
SchemaRegistry, every `(registry, subject)` pair a pass registered into is the target of a stored
Schema, or was the target of a later `DeleteSubject` that returned nil, or of a later deletion
pass that waived its cleanup because `buildClient` failed. -/
theorem registered_accounted {policy : SchemaWorld → Choice SchemaSpec → Prop} {m : Remote}
    (hpol : ∀ w ch, policy w ch → Frozen w ch) {w : SchemaWorld}
    (hw : Reachable controller env policy m w) :
    ∀ (i : Nat) b s, w.log[i]? = some (Event.registered b s) →
      (∃ k x, w.store.objects k = some x ∧ target w.cluster x = some (b, s)) ∨
      (∃ j : Nat, i < j ∧ w.log[j]? = some (Event.deleted b s)) ∨
      (∃ j : Nat, ∃ o, i < j ∧ w.log[j]? = some (Event.waived o) ∧ target w.cluster o = some (b, s)) := by
  intro i b s hi
  rcases accounted_reachable hpol hw i b s hi with ⟨k, x, hx, ht, -⟩ | ⟨j, e, hij, hj, hce⟩
  · exact .inl ⟨k, x, hx, ht⟩
  · cases e with
    | registered => cases hce
    | deleted b' s' => obtain ⟨rfl, rfl⟩ := hce; exact .inr (.inl ⟨j, hij, hj⟩)
    | waived o => exact .inr (.inr ⟨j, o, hij, hj, hce⟩)

/-- One pass over a new `kafka/orders`, run to its end with every call succeeding. -/
def ordersPass : List (Choice SchemaSpec) :=
  .start ordersKey :: List.replicate 8 (.step ordersKey .none) ++ [.finish ordersKey]

/-- The world after `kafka/sr` and `kafka/orders` are created and the first pass over
`kafka/orders` has run. -/
def ordersRegistered : Option SchemaWorld :=
  kafkaRun (.putRegistry kafkaRegistry :: .create ordersKey (ordersSpec "sr" proto3) :: ordersPass)

theorem mem_ordersPass {ch : Choice SchemaSpec} (h : ch ∈ ordersPass) :
    ch = .start ordersKey ∨ ch = .step ordersKey .none ∨ ch = .finish ordersKey := by
  simp only [ordersPass, List.cons_append, List.mem_cons, List.mem_append, List.mem_replicate,
    List.mem_singleton] at h
  tauto

theorem reachable_kafkaRun {policy : SchemaWorld → Choice SchemaSpec → Prop}
    {chs : List (Choice SchemaSpec)} {w : SchemaWorld}
    (h₀ : policy (World.init fun _ => Server.empty) (.putRegistry kafkaRegistry))
    (hp : ∀ ch ∈ chs, ∀ w₁, policy w₁ ch) (hw : kafkaRun (.putRegistry kafkaRegistry :: chs) = some w) :
    Reachable controller kafkaEnv policy (fun _ => Server.empty) w := by
  rw [kafkaRun, World.run.eq_2, Option.bind_eq_some] at hw
  obtain ⟨w₁, h₁, h₂⟩ := hw
  exact reachable_run_of (.step .init h₀ h₁) hp h₂

theorem frozen_ordersRegistered {w : SchemaWorld} (hw : ordersRegistered = some w) :
    Reachable controller kafkaEnv Frozen (fun _ => Server.empty) w :=
  reachable_kafkaRun (fun _ h => nomatch h) (fun ch hch _ => by
    rcases List.mem_cons.mp hch with rfl | hch
    · trivial
    · rcases mem_ordersPass hch with rfl | rfl | rfl <;> trivial) hw

/-- The theorem after the first pass over `kafka/orders`. -/
theorem registered_accounted_orders :
    ∃ w, Reachable controller kafkaEnv Frozen (fun _ => Server.empty) w ∧
      w.log[0]? = some (Event.registered "http://sr:8081" "orders-value") ∧
      ((∃ k x, w.store.objects k = some x ∧ target w.cluster x = some ("http://sr:8081", "orders-value")) ∨
        (∃ j : Nat, 0 < j ∧ w.log[j]? = some (Event.deleted "http://sr:8081" "orders-value")) ∨
        (∃ j : Nat, ∃ o, 0 < j ∧ w.log[j]? = some (Event.waived o) ∧
          target w.cluster o = some ("http://sr:8081", "orders-value"))) := by
  obtain ⟨w, hw⟩ : ∃ w, ordersRegistered = some w := Option.isSome_iff_exists.mp (by decide)
  have hlog : ordersRegistered.map (·.log[0]?) = some (some (Event.registered "http://sr:8081" "orders-value")) := by
    decide
  rw [hw, Option.map_some', Option.some.injEq] at hlog
  have hr := frozen_ordersRegistered hw
  exact ⟨w, hr, hlog, @registered_accounted _ Frozen _ (fun _ _ h => h) _ hr 0 _ _ hlog⟩

/-- The pair `p` is registered at the registry its URL reaches, and no stored Schema addresses
it. -/
def Unclaimed (env : Env) (w : SchemaWorld) (p : String × String) : Prop :=
  (∀ k x, w.store.objects k = some x → target w.cluster x ≠ some p) ∧
    (w.remote (env.server p.1)).versions p.2.toList ≠ []

theorem unclaimed_of_run {chs : List (Choice SchemaSpec)} {log : List Event} {p : String × String}
    (t : Option (String × String)) (hcreate : ∀ k spec, Choice.create k spec ∈ chs → k = ordersKey)
    (hlog : (kafkaRun chs).map (·.log) = some log)
    (ht : (kafkaRun chs).map (fun w => (w.store.objects ordersKey).map (target w.cluster)) = some (some t))
    (htp : t ≠ some p)
    (hr : (kafkaRun chs).map (fun w => ((w.remote (kafkaEnv.server p.1)).versions p.2.toList).isEmpty) =
      some false) :
    ∃ w, kafkaRun chs = some w ∧ w.log = log ∧ Unclaimed kafkaEnv w p := by
  obtain ⟨w, hw, -⟩ := Option.map_eq_some'.mp hlog
  rw [hw, Option.map_some', Option.some.injEq] at hlog ht hr
  refine ⟨w, hw, hlog, fun k x hx => ?_, fun h => by rw [h] at hr; cases hr⟩
  rcases run_objects (k := k) hw (by simp [hx]) with h0 | ⟨spec, hm⟩
  · simp [World.init, Store.empty] at h0
  · obtain rfl := hcreate k spec hm
    rw [hx, Option.map_some', Option.some.injEq] at ht
    rwa [ht]

/-- `kafka/orders` is registered at `kafka/sr1`; the user then points it at `kafka/sr2`, and the
next pass registers it there. -/
def movedRun : List (Choice SchemaSpec) :=
  [.putRegistry (registryAt "sr1" "http://sr1:8081"), .putRegistry (registryAt "sr2" "http://sr2:8081"),
    .create ordersKey (ordersSpec "sr1" proto3)] ++ ordersPass ++
    [.update ordersKey (ordersSpec "sr2" proto3), .start ordersKey] ++ List.replicate 6 (.step ordersKey .none)

/-- `kafka/orders` is registered at `kafka/sr`; the user then changes the URL of `kafka/sr`. -/
def urlEditRun : List (Choice SchemaSpec) :=
  [.putRegistry kafkaRegistry, .create ordersKey (ordersSpec "sr" proto3)] ++ ordersPass ++
    [.putRegistry (registryAt "sr" "http://sr-b:8081")]

/-- `kafka/orders` is registered at `kafka/sr`; the user then deletes `kafka/sr`. -/
def registryDeleteRun : List (Choice SchemaSpec) :=
  [.putRegistry kafkaRegistry, .create ordersKey (ordersSpec "sr" proto3)] ++ ordersPass ++
    [.deleteRegistry kafkaRegistry.key]

/-- A change of `registryRef`, a change of the SchemaRegistry's URL and a deletion of the
SchemaRegistry each leave the subject `orders-value` registered where a pass registered it, with
no stored Schema addressing it and no cleanup of it in the log. -/
theorem subject_orphaned :
    (∃ w, kafkaRun movedRun = some w ∧
      w.log = [.registered "http://sr1:8081" "orders-value", .registered "http://sr2:8081" "orders-value"] ∧
      Unclaimed kafkaEnv w ("http://sr1:8081", "orders-value")) ∧
    (∃ w, kafkaRun urlEditRun = some w ∧ w.log = [.registered "http://sr:8081" "orders-value"] ∧
      Unclaimed kafkaEnv w ("http://sr:8081", "orders-value")) ∧
    (∃ w, kafkaRun registryDeleteRun = some w ∧ w.log = [.registered "http://sr:8081" "orders-value"] ∧
      Unclaimed kafkaEnv w ("http://sr:8081", "orders-value")) :=
  ⟨unclaimed_of_run (some ("http://sr2:8081", "orders-value"))
      (by simp [movedRun, ordersPass, List.mem_replicate]) (by decide) (by decide) (by decide) (by decide),
    unclaimed_of_run (some ("http://sr-b:8081", "orders-value"))
      (by simp [urlEditRun, ordersPass, List.mem_replicate]) (by decide) (by decide) (by decide) (by decide),
    unclaimed_of_run none
      (by simp [registryDeleteRun, ordersPass, List.mem_replicate]) (by decide) (by decide) (by decide)
      (by decide)⟩

end SchemaController

end SchemaOperator
