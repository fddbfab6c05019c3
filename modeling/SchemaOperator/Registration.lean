import SchemaOperator.Ownership

/-!
# What stays registered

A live Schema whose `Ready` condition is `True` at its current generation should have its subject
registered at the registry its `registryRef` resolves to. The operator keeps that only for users
who keep `registryRef` and every SchemaRegistry's URL and delete no SchemaRegistry (`Frozen`),
give each Schema a plain subject (no `/`, `?`, `#`, `%` or control character), put
SchemaRegistries only at well-formed URLs, and never let two stored Schemas address one subject
on one registry server, through one URL or two that reach the same server (`Exclusive`):
otherwise the deletion pass of one Schema deletes a subject another reports as registered.

The argument: only a `DeleteSubject` removes a subject's versions (`remote_step`), and only the
deletion pass of the Schema that addresses it on that server sends one; a registering pass has
its subject registered from the answer of its POST on (`Owned.working`), and its commit hands
that over to the stored object (`Owned.live`).

Results:
* `registered_while_ready`: under `Exclusive` users, every live Schema that is `Ready` at its
  generation has its subject registered at the registry server its `registryRef` resolves to.
* `request_guarded`: every request a pass sends is for the stored Schema under its key, which
  carries the finalizer, at the registry URL and subject it resolves to; a `DeleteSubject` only
  while it is marked for deletion.
* `ready_unregistered`: two Schemas with one subject at one registry, or at two URLs of one
  server; a change of the SchemaRegistry's URL; a deletion of the SchemaRegistry: each leaves a
  live Schema `Ready` with its subject not registered where it resolves to.
-/

namespace SchemaOperator

namespace SchemaController

open Client Registry

variable {env : Env} {H : Cluster → Prop} {k : Key}

/-! ## The users and the registries -/

/-- A URL of the form `scheme://host[:port][/path]`, as `URL.BaseURL` renders one. -/
def WellFormed (url : String) : Prop := ∃ b : URL.BaseURL, url.toList = b.render

/-- A subject the client puts into a path as it is: no `/`, `?`, `#`, `%` or control character. -/
def Plain (s : String) : Prop := ∀ ch ∈ s.toList, URL.plainChar ch = true

instance : DecidablePred Plain := fun s => inferInstanceAs (Decidable (∀ ch ∈ s.toList, _ = true))

/-- The registry server and the subject a Schema addresses in `cl`: its target, with the URL
resolved to the server it reaches. -/
def served (env : Env) (cl : Cluster) (o : Schema) : Option (String × String) :=
  (target cl o).map fun p => (env.server p.1, p.2)

/-- No two stored Schemas address one subject on one registry server. -/
def Distinct (env : Env) (cl : Cluster) (s : SchemaStore) : Prop :=
  ∀ k k' x x' q, s.objects k = some x → s.objects k' = some x' → served env cl x = some q →
    served env cl x' = some q → k = k'

/-- Users keep `registryRef` and every SchemaRegistry's URL and delete no SchemaRegistry
(`Frozen`). They create a Schema only with a plain subject that no stored Schema addresses on the
same registry server, and put a SchemaRegistry only at a well-formed URL and so that no two stored
Schemas then address one subject on one server. -/
def Exclusive (env : Env) (w : SchemaWorld) : Choice SchemaSpec → Prop
  | .create k spec => Plain spec.subject ∧
    ∀ q, served env w.cluster (w.store.fresh k spec SchemaStatus.empty) = some q →
      ∀ k' x, w.store.objects k' = some x → served env w.cluster x ≠ some q
  | .putRegistry sr => Frozen w (.putRegistry sr) ∧ WellFormed sr.spec.url ∧
    Distinct env (w.cluster.putRegistry sr) w.store
  | ch => Frozen w ch

theorem Exclusive.frozen {w : SchemaWorld} {ch : Choice SchemaSpec} (h : Exclusive env w ch) :
    Frozen w ch := by
  cases ch
  case create => trivial
  case putRegistry => exact h.1
  all_goals exact h

/-- The registry server the URL `p.1` reaches has a version of the subject `p.2`. -/
def Registered (env : Env) (m : Remote) (p : String × String) : Prop :=
  (m (env.server p.1)).versions p.2.toList ≠ []

instance (env : Env) (m : Remote) : DecidablePred (Registered env m) :=
  fun _ => inferInstanceAs (Decidable (_ ≠ _))

/-- The `Ready` condition is `True` at the object's generation. -/
def ReadyAt (x : Schema) : Prop :=
  (findStatusCondition x.status.conditions "Ready").map (fun c => (c.status, c.observedGeneration)) =
    some (.conditionTrue, x.metadata.generation)

instance : DecidablePred ReadyAt := fun _ => inferInstanceAs (Decidable (_ = _))

theorem readyGeneration_of_readyAt {x : Schema} (h : ReadyAt x) :
    readyGeneration x.status.conditions = some x.metadata.generation := by
  unfold ReadyAt at h
  cases hf : findStatusCondition x.status.conditions "Ready" <;> simp_all [readyGeneration]

theorem wellFormed_of_target {cl : Cluster} {o : Schema} {b s : String}
    (hurl : ∀ k sr, cl.registries k = some sr → WellFormed sr.spec.url) (ht : target cl o = some (b, s)) :
    WellFormed b := by
  obtain ⟨sr, hsr, he⟩ := Option.map_eq_some'.mp ht
  cases he
  exact hurl _ sr hsr

/-- The copy a pass past its POST registered. -/
def Stage.registered : Stage → Option Schema
  | .latest o _ _ _ | .compat o _ _ _ | .reread o _ | .commit o _ _ => some o
  | _ => none

theorem Stage.registered_pinned {st : Stage} {o : Schema} (h : st.registered = some o) :
    st.copy = some o ∧ o ∈ st.pinned := by
  cases st <;> simp_all [Stage.registered, Stage.copy, Stage.pinned]

@[simp] theorem registered_toRegister (o : Schema) (c : SchemaRegistryClient) :
    (toRegister o c).registered = none := by
  unfold toRegister; split <;> rfl

@[simp] theorem registered_afterRegister (o : Schema) (c : SchemaRegistryClient) (resp : SchemaResponse) :
    (afterRegister o c resp).registered = some o := by
  unfold afterRegister; split_ifs
  · split <;> rfl
  · rfl

@[simp] theorem registered_afterPost (o : Schema) (c : SchemaRegistryClient) (id : Int) :
    (afterPost o c id).registered = some o := by
  unfold afterPost; split
  · rfl
  · exact registered_afterRegister o c _

@[simp] theorem registered_toDelete (o : Schema) (c : SchemaRegistryClient) :
    (toDelete o c).registered = none := by
  unfold toDelete; split <;> rfl

theorem registered_next {st : Stage} {a : Answer SchemaSpec SchemaStatus} {o : Schema}
    (h : (next env st a).registered = some o) :
    st.registered = some o ∨
      ∃ c r resp, st = .register o c r ∧ a = .sent (.ok resp) ∧ resp.statusCode = 200 := by
  cases st
  case register o' c r =>
    rcases a with _ | _ | _ | a
    all_goals try exact .inl h
    simp only [next] at h
    cases hid : registerResult a with
    | error e => simp [hid, Stage.registered] at h
    | ok id =>
      simp only [hid, registered_afterPost, Option.some.injEq] at h
      subst h
      obtain ⟨resp, rfl, h200⟩ := registerResult_ok hid
      exact .inr ⟨c, r, resp, rfl, rfl, h200⟩
  all_goals
    left
    rcases a with (_ | _) | (_ | _) | _ | _ <;> (try simp only [next] at h) <;> (try split_ifs at h) <;>
      (try split at h) <;>
      (try simp only [registered_toRegister, registered_afterRegister, registered_toDelete] at h) <;>
      simp only [Stage.registered, Option.some.injEq, reduceCtorEq] at h ⊢ <;> exact h

/-! ## What a step does to the registries -/

variable {w w' : SchemaWorld} {ch : Choice SchemaSpec}

theorem call_send {st : Stage} {base : String} {r : Request} (hf : st.Facts env H k)
    (hc : call k st = some (.send base r)) :
    ∃ o c e, st.copy = some o ∧ o ∈ st.pinned ∧ Built env H o c ∧ base = c.baseURL ∧
      c.subjectRequest o.spec.subject (registerRequest o) o.spec.compatibilityLevel e = .ok r ∧
      (e = .subject → ∃ r', st = .deleteSubject o c r') := by
  cases st <;> simp only [call, Option.some.injEq, Call.send.injEq, reduceCtorEq] at hc
  case register o c r => exact ⟨o, c, .versions, rfl, by simp [Stage.pinned], hf.2.1, hc.1.symm,
    hc.2 ▸ hf.2.2, nofun⟩
  case latest o c id r => exact ⟨o, c, .latest, rfl, by simp [Stage.pinned], hf.2.1, hc.1.symm,
    hc.2 ▸ hf.2.2, nofun⟩
  case compat o c resp r => exact ⟨o, c, .config, rfl, by simp [Stage.pinned], hf.2.1, hc.1.symm,
    hc.2 ▸ hf.2.2, nofun⟩
  case deleteSubject o c r => exact ⟨o, c, .subject, rfl, by simp [Stage.pinned], hf.2.1, hc.1.symm,
    hc.2 ▸ hf.2.2, fun _ => ⟨r, rfl⟩⟩

theorem remote_step (hi : Inv env w) (h : StepKind controller env w ch w') :
    w'.remote = w.remote ∨
      ∃ k f st o c e r, ch = .step k f ∧ w.passes k = some st ∧ call k st = some (.send c.baseURL r) ∧
        st.copy = some o ∧ o ∈ st.pinned ∧ Built env w.had o c ∧
        c.subjectRequest o.spec.subject (registerRequest o) o.spec.compatibilityLevel e = .ok r ∧
        (e = .subject → ∃ r', st = .deleteSubject o c r') ∧
        w'.remote = (env.roundTrip w.remote c.baseURL r).2 := by
  cases h with
  | @call k st c f a s m hst hc ha =>
    rcases answer_remote ha with e | ⟨base, r, rfl, e⟩
    · exact .inl e
    · obtain ⟨o, cl, ep, ho, hp, hb, rfl, hr, hd⟩ := call_send (hi k st hst).facts hc
      exact .inr ⟨k, f, st, o, cl, ep, r, rfl, hst, hc, ho, hp, hb, hr, hd, e⟩
  | _ => exact .inl rfl

theorem serve_built {o : Schema} {c : SchemaRegistryClient} {e : Endpoint} {r : Request}
    (hwf : WellFormed c.baseURL) (hs : Plain o.spec.subject)
    (hr : c.subjectRequest o.spec.subject (registerRequest o) o.spec.compatibilityLevel e = .ok r)
    (srv : Server) :
    serve env.accepts c.baseURL srv r =
      srv.handle env.accepts (routeOf o.spec.subject.toList e)
        (e.body (registerRequest o) o.spec.compatibilityLevel) := by
  obtain ⟨b, hbr⟩ := hwf
  obtain ⟨r', hr', hserve⟩ := serve_subjectRequest env.accepts b c hbr hs
    (registerRequest o) o.spec.compatibilityLevel e
  rw [hr] at hr'; cases hr'
  exact hserve srv

theorem plain_copy (hi : Inv env w) (hc : CopiesStay w)
    (hplain : ∀ k x, w.store.objects k = some x → Plain x.spec.subject) {st : Stage} {o : Schema}
    (hst : w.passes k = some st) (hcopy : st.copy = some o) (hp : o ∈ st.pinned) :
    Plain o.spec.subject := by
  obtain ⟨x, hx, hu, -⟩ := (hi k st hst).pinned o hp
  have hok := Stage.copy_key (hi k st hst).facts hcopy
  exact (hc k st o hst hcopy x (by rw [hok]; exact hx) hu).2.1 ▸ hplain k x hx

theorem registered_step (hi : Inv env w) (hk : KeptURLs w) (hc : CopiesStay w)
    (hurl : ∀ k sr, w.cluster.registries k = some sr → WellFormed sr.spec.url)
    (hplain : ∀ k x, w.store.objects k = some x → Plain x.spec.subject)
    (h : StepKind controller env w ch w') {p : String × String} (hreg : Registered env w.remote p)
    (hdel : ∀ k o c r, w.passes k = some (.deleteSubject o c r) →
      served env w.cluster o ≠ some (env.server p.1, p.2)) :
    Registered env w'.remote p := by
  obtain ⟨b, t⟩ := p
  rcases remote_step hi h with e | ⟨k, f, st, o, c, e, r, -, hst, -, ho, hp, hb, hr, hd, hm⟩
  · rw [Registered, e]; exact hreg
  have ht := target_of_built hk hb
  unfold Registered at hreg ⊢
  rw [hm]
  by_cases hsrv : env.server b = env.server c.baseURL
  · simp only [Env.roundTrip, hsrv, Function.update_same] at hreg ⊢
    rw [serve_built (wellFormed_of_target hurl ht) (plain_copy hi hc hplain hst ho hp) hr]
    refine handle_routeOf_ne_nil _ _ _ _ _ _ hreg fun he hsub => ?_
    obtain ⟨r', rfl⟩ := hd he
    apply hdel k o c r' hst
    simp [served, ht, hsrv, String.ext hsub]
  · simp only [Env.roundTrip, Function.update_noteq hsrv]; exact hreg

/-! ## What the registries hold -/

theorem deleting_stored (hi : Inv env w) (hc : CopiesStay w) {o : Schema} {c : SchemaRegistryClient}
    {r : Request} {x : Schema} (hst : w.passes k = some (.deleteSubject o c r))
    (hx : w.store.objects k = some x) : x.metadata.deletionTimestamp = true := by
  obtain ⟨x', hx', hu, -⟩ := (hi k _ hst).pinned o (by simp [Stage.pinned])
  rw [hx] at hx'; cases hx'
  have hf := (hi k _ hst).facts
  exact (hc k _ o hst rfl x (by rw [hf.1.1]; exact hx) hu).2.2.2 hf.1.2.1

theorem readyGeneration_write {st : Stage} {n : Schema} (hc : call k st = some (.updateStatus n)) :
    readyGeneration n.status.conditions = some n.metadata.generation := by
  cases st <;> simp only [call, Option.some.injEq, Call.updateStatus.injEq, reduceCtorEq] at hc <;>
    subst hc <;> exact readyGeneration_setStatusCondition _ rfl

/-- What the cluster, the registries and the stored Schemas hold in every reachable world:
SchemaRegistry URLs are well-formed, stored subjects are plain, no two stored Schemas address one
subject on one server, a `Ready` generation is never ahead of the object's, a pass past its POST
has its copy's subject registered, and so has a live Schema that is `Ready` at its generation. -/
structure Owned (env : Env) (w : SchemaWorld) : Prop where
  urls : ∀ k sr, w.cluster.registries k = some sr → WellFormed sr.spec.url
  plain : ∀ k x, w.store.objects k = some x → Plain x.spec.subject
  unique : Distinct env w.cluster w.store
  observed : ∀ k x g, w.store.objects k = some x → readyGeneration x.status.conditions = some g →
    g ≤ x.metadata.generation
  working : ∀ k st o, w.passes k = some st → st.registered = some o →
    ∃ p, target w.cluster o = some p ∧ Registered env w.remote p
  live : ∀ k x, w.store.objects k = some x → x.metadata.deletionTimestamp = false → ReadyAt x →
    ∃ p, target w.cluster x = some p ∧ Registered env w.remote p

theorem stored_target (hi : Inv env w) (hp : Frozen w ch) (h : StepKind controller env w ch w')
    {x' : Schema} (hx' : w'.store.objects k = some x') :
    (∃ spec, ch = .create k spec ∧ x' = w.store.fresh k spec SchemaStatus.empty) ∨
      ∃ x, w.store.objects k = some x ∧ ∀ cl, target cl x = target cl x' := by
  rcases stored_step hi hp h hx' with hf | ⟨x, hx, hpx, -⟩
  · exact .inl hf
  · exact .inr ⟨x, hx, fun _ => (target_eq ((w'.store.keyed _ _ hx').trans (w.store.keyed _ _ hx).symm) hpx).symm⟩

theorem keep_registered (hi : Inv env w) (hk : KeptURLs w) (hc : CopiesStay w) (ho : Owned env w)
    (h : StepKind controller env w ch w') {x : Schema} {p : String × String}
    (hx : w.store.objects k = some x) (ht : target w.cluster x = some p)
    (hnot : ∀ o c r, w.passes k ≠ some (.deleteSubject o c r)) (hr : Registered env w.remote p) :
    Registered env w'.remote p :=
  registered_step hi hk hc ho.urls ho.plain h hr fun k₂ o₂ c₂ r₂ hst₂ ht₂ => by
    obtain ⟨x₂, hx₂, -⟩ := (hi k₂ _ hst₂).pinned o₂ (by simp [Stage.pinned])
    have hs₂ : served env w.cluster x₂ = some (env.server p.1, p.2) := by
      rw [served, target_of_pinned hi hc hst₂ rfl (by simp [Stage.pinned]) hx₂]; exact ht₂
    obtain rfl := ho.unique k k₂ x x₂ _ hx hx₂ (by simp [served, ht]) hs₂
    exact hnot o₂ c₂ r₂ hst₂

theorem remote_of_updateStatus {f : Fault} (hi : Inv env w) (h : StepKind controller env w (.step k f) w')
    {st : Stage} {n : Schema} (hst : w.passes k = some st) (hcall : call k st = some (.updateStatus n)) :
    w'.remote = w.remote := by
  rcases remote_step hi h with e | ⟨k', f, st', o, c, e, r, hch, hst', hc', -⟩
  · exact e
  · cases hch
    rw [hst] at hst'; cases hst'
    rw [hcall] at hc'; cases hc'

section Step

variable (hi : Inv env w) (hk : KeptURLs w) (hc : CopiesStay w) (hp : Exclusive env w ch)
  (ho : Owned env w) (h : StepKind controller env w ch w')
include hi hp ho h

omit hi in
theorem Owned.urls_step : ∀ k sr, w'.cluster.registries k = some sr → WellFormed sr.spec.url := by
  rcases h.cluster with hcl | ⟨cl, hm, rfl⟩
  · rw [hcl]; exact ho.urls
  cases hm with
  | @putRegistry sr _ =>
    intro k sr' h'
    by_cases e : k = sr.key
    · subst e
      simp only [World.recluster, Cluster.putRegistry, Function.update_same, Option.some.injEq] at h'
      exact h' ▸ hp.2.1
    · exact ho.urls k sr' ((Function.update_noteq e _ _).symm.trans h')
  | deleteRegistry _ => exact hp.elim
  | putSecret => exact ho.urls

theorem Owned.plain_step : ∀ k x, w'.store.objects k = some x → Plain x.spec.subject := by
  intro k x' hx'
  rcases stored_step hi hp.frozen h hx' with ⟨spec, rfl, rfl⟩ | ⟨x, hx, hpx, -⟩
  · exact hp.1
  · exact hpx.2.1 ▸ ho.plain k x hx

theorem Owned.unique_step : Distinct env w'.cluster w'.store := by
  rcases h.cluster with hcl | ⟨cl, hm, rfl⟩
  · rw [hcl]
    intro k₁ k₂ x₁ x₂ q h₁ h₂ ht₁ ht₂
    rcases stored_target hi hp.frozen h h₁ with ⟨s₁, rfl, rfl⟩ | ⟨y₁, hy₁, e₁⟩ <;>
      rcases stored_target hi hp.frozen h h₂ with ⟨s₂, he, rfl⟩ | ⟨y₂, hy₂, e₂⟩
    · exact (Choice.create.inj he).1
    · exact absurd (by rw [served, e₂]; exact ht₂) (hp.2 q ht₁ k₂ y₂ hy₂)
    · cases he
      exact absurd (by rw [served, e₁]; exact ht₁) (hp.2 q ht₂ k₁ y₁ hy₁)
    · exact ho.unique k₁ k₂ y₁ y₂ q hy₁ hy₂ (by rw [served, e₁]; exact ht₁) (by rw [served, e₂]; exact ht₂)
  cases hm with
  | putRegistry _ => exact hp.2.2
  | deleteRegistry _ => exact hp.elim
  | putSecret => exact ho.unique

theorem Owned.observed_step : ∀ k x g, w'.store.objects k = some x →
    readyGeneration x.status.conditions = some g → g ≤ x.metadata.generation := by
  intro k x' g hx' hg
  rcases stored_step hi hp.frozen h hx' with ⟨spec, -, rfl⟩ | ⟨x, hx, -, ⟨hs, hle⟩ | ⟨st, n, -, -, -, hcall, hm, rfl⟩⟩
  · simp [Store.fresh, readyGeneration, findStatusCondition, SchemaStatus.empty] at hg
  · rw [hs] at hg; exact (ho.observed k x g hx hg).trans hle
  · rw [Store.statusUpdated, readyGeneration_write hcall, hm] at hg
    cases hg; exact le_refl _

omit hp in
theorem Owned.working_step (hfz : Frozen w ch) (hk : KeptURLs w) (hc : CopiesStay w) :
    ∀ k st o, w'.passes k = some st → st.registered = some o →
      ∃ p, target w'.cluster o = some p ∧ Registered env w'.remote p := by
  have keep : ∀ k st o, w.passes k = some st → st.registered = some o →
      ∃ p, target w'.cluster o = some p ∧ Registered env w'.remote p := fun k st o hst hreg => by
    obtain ⟨p, ht, hr⟩ := ho.working k st o hst hreg
    obtain ⟨hcopy, hpin⟩ := Stage.registered_pinned hreg
    obtain ⟨x, hx, -⟩ := (hi k st hst).pinned o hpin
    refine ⟨p, target_keeps (keeps_step hfz h) ht, keep_registered hi hk hc ho h hx
      ((target_of_pinned hi hc hst hcopy hpin hx).trans ht) (fun o' c r he => ?_) hr⟩
    rw [hst] at he; cases he
    cases hreg
  intro k st' o hk' hreg
  rcases h.pass hk' with ⟨hold, -⟩ | ⟨-, rfl⟩ | ⟨st, c, f, a, s, m, -, hst, hcall, ha, rfl, rfl⟩
  · exact keep k st' o hold hreg
  · cases hreg
  rcases registered_next hreg with hold | ⟨cl, r, resp, rfl, rfl, h200⟩
  · exact keep k st o hst hold
  -- the POST answered 200: the registry server now holds the copy's subject
  simp only [controller, call, Option.some.injEq] at hcall
  subst hcall
  obtain ⟨-, ⟨hres, hm'⟩ | ⟨e, he, -⟩⟩ := answer_send ha
  · have hf := (hi k _ hst).facts
    have ht := target_of_built hk hf.2.1
    have hserve := @serve_built env o cl .versions r (wellFormed_of_target ho.urls ht)
      (plain_copy hi hc ho.plain hst rfl (by simp [Stage.pinned])) hf.2.2
      (w.remote (env.server cl.baseURL))
    simp only [Env.roundTrip, Answer.sent.injEq, Except.ok.injEq, hserve] at hres hm'
    subst hres
    refine ⟨_, ht, ?_⟩
    show (m (env.server cl.baseURL)).versions o.spec.subject.toList ≠ []
    rw [hm', Function.update_same]
    exact register_ok _ _ _ _ h200
  · cases he

theorem Owned.live_step (hk : KeptURLs w) (hc : CopiesStay w) :
    ∀ k x, w'.store.objects k = some x → x.metadata.deletionTimestamp = false → ReadyAt x →
      ∃ p, target w'.cluster x = some p ∧ Registered env w'.remote p := by
  intro k x' hx' hdt hready
  rcases stored_step hi hp.frozen h hx' with ⟨spec, -, rfl⟩ | ⟨x, hx, hpx, ⟨hs, hle⟩ | ⟨st, n, f, rfl, hst, hcall, -, rfl⟩⟩
  · simp [ReadyAt, Store.fresh, SchemaStatus.empty, findStatusCondition] at hready
  -- the status is the stored one: so is its `Ready` generation, which the object has not passed
  · have hg : x.metadata.generation = x'.metadata.generation :=
      le_antisymm hle (ho.observed k x _ hx (hs ▸ readyGeneration_of_readyAt hready))
    have hdx : x.metadata.deletionTimestamp = false := by
      cases hd : x.metadata.deletionTimestamp
      · rfl
      · rw [hpx.2.2.2 hd] at hdt; cases hdt
    have hrx : ReadyAt x := by unfold ReadyAt at hready ⊢; rw [hg, ← hs]; exact hready
    obtain ⟨p, ht, hr⟩ := ho.live k x hx hdx hrx
    refine ⟨p, target_keeps (keeps_step hp.frozen h) <|
      (target_eq ((w'.store.keyed _ _ hx').trans (w.store.keyed _ _ hx).symm) hpx).trans ht,
      keep_registered hi hk hc ho h hx ht (fun o c r hst => ?_) hr⟩
    rw [deleting_stored hi hc hst hx] at hdx; cases hdx
  -- a status write: the commit of a registering pass, or a failure that is not `Ready`
  · rcases call_updateStatus (hi _ _ hst) hcall with
      ⟨o', -, -, -, ⟨o, resp, rfl, rfl⟩ | ⟨o, result, reason, message, rfl, rfl⟩⟩
    · obtain ⟨p, ht, hr⟩ := ho.working k _ o hst rfl
      refine ⟨p, target_keeps (keeps_step hp.frozen h) ?_,
        by rw [remote_of_updateStatus hi h hst hcall]; exact hr⟩
      rw [← ht]
      exact (target_of_pinned hi hc hst rfl (by simp [Stage.pinned]) hx : target w.cluster x = _)
    · have hf := findStatusCondition_setStatusCondition o'.status.conditions
        ⟨"Ready", .conditionFalse, reason, message, o'.metadata.generation⟩
      simp [ReadyAt, Store.statusUpdated, conditionFailed, hf] at hready

end Step

theorem Owned.step (ho : Owned env w) (hi : Inv env w) (hk : KeptURLs w) (hc : CopiesStay w)
    (hp : Exclusive env w ch) (h : StepKind controller env w ch w') : Owned env w' :=
  ⟨ho.urls_step hp h, ho.plain_step hi hp h, ho.unique_step hi hp h, ho.observed_step hi hp h,
    ho.working_step hi h hp.frozen hk hc, ho.live_step hi hp h hk hc⟩

theorem owned_reachable {policy : SchemaWorld → Choice SchemaSpec → Prop} {m : Remote}
    (hpol : ∀ w ch, policy w ch → Exclusive env w ch) {w : SchemaWorld}
    (hw : Reachable controller env policy m w) : Owned env w := by
  induction hw with
  | init =>
    refine ⟨fun _ _ h => ?_, fun _ _ h => ?_, fun _ _ _ _ _ h => ?_, fun _ _ _ h => ?_,
      fun _ _ _ h => ?_, fun _ _ h => ?_⟩ <;> cases h
  | step hr hch hx ih =>
    obtain ⟨hi, hk, hc⟩ := frozen_reachable (fun w ch h => (hpol w ch h).frozen) hr
    exact ih.step hi hk hc (hpol _ _ hch) (exec_kind hx)

/-! ## Registered while ready -/

/-- Under users who keep `registryRef` and every SchemaRegistry's URL, delete no SchemaRegistry,
put SchemaRegistries at well-formed URLs, and give each Schema a plain subject that no other stored
Schema addresses on the same registry server, every live Schema whose `Ready` condition is `True`
at its generation has its subject registered at the registry server its `registryRef` resolves
to. -/
theorem registered_while_ready {policy : SchemaWorld → Choice SchemaSpec → Prop} {m : Remote}
    (hpol : ∀ w ch, policy w ch → Exclusive env w ch) {w : SchemaWorld}
    (hw : Reachable controller env policy m w) :
    ∀ k x, w.store.objects k = some x → x.metadata.deletionTimestamp = false → ReadyAt x →
      ∃ p, target w.cluster x = some p ∧ Registered env w.remote p :=
  (owned_reachable hpol hw).live

theorem exclusive_ordersRegistered {w : SchemaWorld} (hw : ordersRegistered = some w) :
    Reachable controller kafkaEnv (Exclusive kafkaEnv) (fun _ => Server.empty) w := by
  rw [ordersRegistered, kafkaRun, World.run.eq_2, Option.bind_eq_some] at hw
  obtain ⟨w₁, h₁, hw⟩ := hw
  rw [World.run.eq_2, Option.bind_eq_some] at hw
  obtain ⟨w₂, h₂, h₃⟩ := hw
  have hr₁ : Reachable controller kafkaEnv (Exclusive kafkaEnv) (fun _ => Server.empty) w₁ :=
    .step .init (show Exclusive kafkaEnv _ (.putRegistry kafkaRegistry) from
      ⟨fun _ h => (nomatch h), ⟨exampleBase, by decide⟩, fun _ _ _ _ _ h => nomatch h⟩) h₁
  cases exec_kind h₁ with
  | recluster _ =>
    refine reachable_run_of (.step hr₁ (show Exclusive kafkaEnv _ (.create ordersKey (ordersSpec "sr" proto3))
      from ⟨by decide, fun _ _ _ _ h => nomatch h⟩) h₂) (fun ch hch _ => ?_) h₃
    rcases mem_ordersPass hch with rfl | rfl | rfl <;> trivial

/-- The theorem after the first pass over `kafka/orders`: it is `Ready`, and its subject is
registered. -/
theorem registered_while_ready_orders :
    ∃ w x, Reachable controller kafkaEnv (Exclusive kafkaEnv) (fun _ => Server.empty) w ∧
      w.store.objects ordersKey = some x ∧ x.metadata.deletionTimestamp = false ∧ ReadyAt x ∧
      ∃ p, target w.cluster x = some p ∧ Registered kafkaEnv w.remote p := by
  obtain ⟨w, hw⟩ : ∃ w, ordersRegistered = some w := Option.isSome_iff_exists.mp (by decide)
  have hready : ordersRegistered.map (fun w => (w.store.objects ordersKey).map fun x =>
      (x.metadata.deletionTimestamp, decide (ReadyAt x))) = some (some (false, true)) := by
    decide
  rw [hw, Option.map_some', Option.some.injEq, Option.map_eq_some'] at hready
  obtain ⟨x, hx, hready⟩ := hready
  simp only [Prod.mk.injEq, decide_eq_true_eq] at hready
  have hr := exclusive_ordersRegistered hw
  exact ⟨w, x, hr, hx, hready.1, hready.2,
    registered_while_ready (fun _ _ h => h) hr ordersKey x hx hready.1 hready.2⟩

/-- The Schema stored under `k` is live and `Ready` at its generation, and its subject is not
registered at the registry server it resolves to. -/
def ReadyUnregistered (env : Env) (w : SchemaWorld) (k : Key) : Prop :=
  ∃ x, w.store.objects k = some x ∧ x.metadata.deletionTimestamp = false ∧ ReadyAt x ∧
    ∀ p, target w.cluster x = some p → ¬ Registered env w.remote p

theorem readyUnregistered_of {run : Option SchemaWorld} (t : Option Bool) (ht : t ≠ some true)
    (h : run.map (fun w => (w.store.objects k).map fun x => (x.metadata.deletionTimestamp,
      decide (ReadyAt x), (target w.cluster x).map fun p => decide (Registered env w.remote p))) =
      some (some (false, true, t))) :
    ∃ w, run = some w ∧ ReadyUnregistered env w k := by
  obtain ⟨w, hw, h⟩ := Option.map_eq_some'.mp h
  obtain ⟨x, hx, h⟩ := Option.map_eq_some'.mp h
  simp only [Prod.mk.injEq, decide_eq_true_eq] at h
  obtain ⟨hdt, hready, hreg⟩ := h
  refine ⟨w, hw, x, hx, hdt, hready, fun p hp hr => ht ?_⟩
  rw [← hreg, hp]
  simp [hr]

/-- The Schema `kafka/orders-copy`. -/
def copyKey : Key := ⟨"kafka", "orders-copy"⟩

/-- `kafka/orders` and then `kafka/orders-copy`, both on `kafka/sr`, are registered and committed
with one subject; `kafka/orders-copy` is then deleted. -/
def sharedRun : List (Choice SchemaSpec) :=
  [.putRegistry kafkaRegistry, .create ordersKey (ordersSpec "sr" proto3)] ++ ordersPass ++
    [.create copyKey (ordersSpec "sr" proto3), .start copyKey] ++
    List.replicate 8 (.step copyKey .none) ++ [.finish copyKey, .delete copyKey, .start copyKey] ++
    List.replicate 4 (.step copyKey .none) ++ [.finish copyKey]

/-- The registry `kafka/sr`, and the same server under its cluster-local name. -/
def aliasEnv : Env :=
  { kafkaEnv with server := fun url => if url = "http://sr.kafka.svc:8081" then "http://sr:8081" else url }

/-- As `sharedRun`, with `kafka/orders-copy` on `kafka/sr-local`, which names the server of
`kafka/sr` by another URL. -/
def aliasRun : List (Choice SchemaSpec) :=
  [.putRegistry kafkaRegistry, .putRegistry (registryAt "sr-local" "http://sr.kafka.svc:8081"),
    .create ordersKey (ordersSpec "sr" proto3)] ++ ordersPass ++
    [.create copyKey (ordersSpec "sr-local" proto3), .start copyKey] ++
    List.replicate 8 (.step copyKey .none) ++ [.finish copyKey, .delete copyKey, .start copyKey] ++
    List.replicate 4 (.step copyKey .none) ++ [.finish copyKey]

/-- `kafka/orders` is left live and `Ready` at its generation with its subject not registered
where it resolves to: after the deletion of another Schema with its subject at its registry, or at
another URL of the same server; after a change of its SchemaRegistry's URL; and after a deletion
of its SchemaRegistry. -/
theorem ready_unregistered :
    (∃ w, kafkaRun sharedRun = some w ∧ ReadyUnregistered kafkaEnv w ordersKey) ∧
    (∃ w, (World.init fun _ => Server.empty).run controller aliasEnv aliasRun = some w ∧
      ReadyUnregistered aliasEnv w ordersKey) ∧
    (∃ w, kafkaRun urlEditRun = some w ∧ ReadyUnregistered kafkaEnv w ordersKey) ∧
    (∃ w, kafkaRun registryDeleteRun = some w ∧ ReadyUnregistered kafkaEnv w ordersKey) :=
  ⟨readyUnregistered_of (some false) (by decide) (by decide),
    readyUnregistered_of (some false) (by decide) (by decide),
    readyUnregistered_of (some false) (by decide) (by decide),
    readyUnregistered_of none (by decide) (by decide)⟩

/-! ## What a pass sends -/

/-- Under users who keep `registryRef` and every SchemaRegistry's URL and delete no
SchemaRegistry, every request a pass sends goes to the registry URL and the subject that the
Schema stored under its key resolves to, while that Schema carries the operator's finalizer: it is
the request a client built from a state of the cluster builds for one endpoint of the subject,
from a copy of that Schema, and a `DeleteSubject` goes out only while the stored Schema is marked
for deletion. -/
theorem request_guarded {policy : SchemaWorld → Choice SchemaSpec → Prop} {m : Remote}
    (hpol : ∀ w ch, policy w ch → Frozen w ch) {w : SchemaWorld}
    (hw : Reachable controller env policy m w) {st : Stage} {base : String} {r : Request}
    (hst : w.passes k = some st) (hc : call k st = some (.send base r)) :
    ∃ x o c e, w.store.objects k = some x ∧ schemaFinalizer ∈ x.metadata.finalizers ∧
      x.metadata.uid = o.metadata.uid ∧ target w.cluster x = some (base, x.spec.subject) ∧
      Built env w.had o c ∧
      c.subjectRequest x.spec.subject (registerRequest o) o.spec.compatibilityLevel e = .ok r ∧
      (e = .subject → x.metadata.deletionTimestamp = true) := by
  obtain ⟨hi, hk, hcs⟩ := frozen_reachable hpol hw
  obtain ⟨o, cl, e, ho, hp, hb, rfl, hr, hd⟩ := call_send (hi k st hst).facts hc
  obtain ⟨x, hx, hu, hf⟩ := (hi k st hst).pinned o hp
  have hsub : x.spec.subject = o.spec.subject :=
    (hcs k st o hst ho x (Stage.copy_key (hi k st hst).facts ho ▸ hx) hu).2.1
  refine ⟨x, o, cl, e, hx, hf, hu, ?_, hb, hsub ▸ hr, fun he => ?_⟩
  · rw [target_of_pinned hi hcs hst ho hp hx, target_of_built hk hb, hsub]
  · obtain ⟨r', rfl⟩ := hd he
    exact deleting_stored hi hcs hst hx

/-- `kafka/orders` registered and committed, then deleted: its deletion pass has built its
client and is about to send `DeleteSubject`. -/
def ordersDeleting : Option SchemaWorld :=
  kafkaRun ([.putRegistry kafkaRegistry, .create ordersKey (ordersSpec "sr" proto3)] ++ ordersPass ++
    [.delete ordersKey, .start ordersKey] ++ List.replicate 2 (.step ordersKey .none))

/-- The theorem at the `DeleteSubject` of `kafka/orders`. -/
theorem request_guarded_deleting :
    ∃ w st base r, Reachable controller kafkaEnv Frozen (fun _ => Server.empty) w ∧
      w.passes ordersKey = some st ∧ call ordersKey st = some (.send base r) ∧
      ∃ x o c e, w.store.objects ordersKey = some x ∧ schemaFinalizer ∈ x.metadata.finalizers ∧
        x.metadata.uid = o.metadata.uid ∧ target w.cluster x = some (base, x.spec.subject) ∧
        Built kafkaEnv w.had o c ∧
        c.subjectRequest x.spec.subject (registerRequest o) o.spec.compatibilityLevel e = .ok r ∧
        (e = .subject → x.metadata.deletionTimestamp = true) := by
  have hs : (ordersDeleting.bind fun w => (w.passes ordersKey).bind fun st =>
      match call ordersKey st with
      | some (.send b r) => some (w, st, b, r)
      | _ => none).isSome := by
    decide
  obtain ⟨⟨w, st, b, r⟩, h⟩ := Option.isSome_iff_exists.mp hs
  simp only [Option.bind_eq_some] at h
  obtain ⟨w', hw, st', hst, h⟩ := h
  split at h
  case h_1 b' r' hc =>
    simp only [Option.some.injEq, Prod.mk.injEq] at h
    obtain ⟨rfl, rfl, rfl, rfl⟩ := h
    have hr : Reachable controller kafkaEnv Frozen (fun _ => Server.empty) w' := by
      refine reachable_kafkaRun (fun _ h => nomatch h) (fun ch hch _ => ?_) hw
      cases ch <;> first | exact trivial | simp [ordersPass] at hch
    exact ⟨w', st', b', r', hr, hst, hc, request_guarded (fun _ _ h => h) hr hst hc⟩
  case h_2 => cases h

end SchemaController

end SchemaOperator
