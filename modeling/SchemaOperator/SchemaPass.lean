import SchemaOperator.SchemaController

/-!
# What every Schema pass holds

The invariant of the Schema system: at each stage, a pass's copies are filed under its key, are
snapshots of the store and are tracked by it (`Store.Snap`, `Store.Tracks`); once the pass has
seen the finalizer, the object it read stays stored, with the finalizer (`Pinned`); the client it
holds is the one `buildClient` builds from the reads of a state the cluster has been through
(`Built`): users may have changed the SchemaRegistry or its Secrets since; and a pass about to
remove the finalizer has read a Schema being deleted and has cleaned up or waived the cleanup
(`Cleanup.Done`).

`stageOK_next` is the step lemma of a pass, `StageOK.transport` what a pass keeps while other
steps run, and `inv_reachable` the invariant of every reachable world.

Results:
* `finalizer_release`: the finalizer leaves a stored Schema only by the `Update` of a pass that
  read the Schema with a `deletionTimestamp` and the finalizer, after `DeleteSubject` answered
  200 or 404 on the client `buildClient` built from its `registryRef`, or after `buildClient`
  failed.
* `commit_generation`: a status write of a pass lands on the object it read, and records the
  object's generation at that moment: at least that of the copy the pass used, and equal to it
  only while the spec is still that copy's.
-/

namespace SchemaOperator

namespace SchemaController

open Client Registry

abbrev SchemaStore := Store SchemaSpec SchemaStatus

/-! ## Pinned objects -/

/-- The object under `k` has `o`'s uid and still holds the finalizer. -/
def Pinned (s : SchemaStore) (k : Key) (o : Schema) : Prop :=
  ∃ x, s.objects k = some x ∧ x.metadata.uid = o.metadata.uid ∧ schemaFinalizer ∈ x.metadata.finalizers

variable {s s' : SchemaStore} {k : Key} {o : Schema}

theorem Pinned.of_objects (h : Pinned s k o) (he : s'.objects k = s.objects k) : Pinned s' k o := by
  obtain ⟨x, hx, hu, hf⟩ := h
  exact ⟨x, he.trans hx, hu, hf⟩

theorem Pinned.create {k' spec status} (h : Pinned s k o) (hc : s.create k' spec status = .ok s') :
    Pinned s' k o := by
  obtain ⟨hnone, hobj, -⟩ := Store.create_ok hc
  have hk : k ≠ k' := by rintro rfl; obtain ⟨x, hx, -⟩ := h; rw [hx] at hnone; cases hnone
  exact h.of_objects (by rw [hobj, Function.update_noteq hk])

theorem Pinned.update {o' : Schema} (h : Pinned s k o) (hu : s.update o' = .ok s')
    (hf : ∀ cur, s.objects o'.key = some cur → schemaFinalizer ∈ cur.metadata.finalizers →
      schemaFinalizer ∈ o'.metadata.finalizers) :
    Pinned s' k o := by
  by_cases hk : k = o'.key
  · obtain ⟨cur, hcur, -, hobj, -⟩ := Store.update_ok hu
    obtain ⟨x, hx, hu', hfin⟩ := h
    rw [← hk, hx] at hcur; cases hcur
    have hfo := hf cur (hk ▸ hx) hfin
    cases hup : s.updated cur o' with
    | none =>
      unfold Store.updated at hup
      split at hup
      · exact absurd ‹_ ∧ _›.2 (List.ne_nil_of_mem hfo)
      · cases hup
    | some y =>
      obtain ⟨-, hyu, -, -, hyf, -⟩ := Store.updated_spec hup
      exact ⟨y, by rw [hobj, ← hk, Function.update_same, hup], hyu.trans hu', hyf ▸ hfo⟩
  · exact h.of_objects (Store.update_other hu hk)

theorem Pinned.updateStatus {o' : Schema} (h : Pinned s k o) (hu : s.updateStatus o' = .ok s') :
    Pinned s' k o := by
  by_cases hk : k = o'.key
  · obtain ⟨cur, hcur, -, hobj, -⟩ := Store.updateStatus_ok hu
    obtain ⟨x, hx, hu', hfin⟩ := h
    rw [← hk, hx] at hcur; cases hcur
    exact ⟨s.statusUpdated cur o', by rw [hobj, ← hk, Function.update_same], hu', hfin⟩
  · exact h.of_objects (Store.updateStatus_other hu hk)

theorem Pinned.delete {k'} (h : Pinned s k o) (hd : s.delete k' = .ok s') : Pinned s' k o := by
  obtain ⟨cur, hcur, ⟨-, rfl⟩ | ⟨-, hobj, -⟩⟩ := Store.delete_ok hd
  · exact h
  by_cases hk : k = k'
  · subst hk
    obtain ⟨x, hx, hu', hfin⟩ := h
    rw [hx] at hcur; cases hcur
    exact ⟨{ cur with metadata := { cur.metadata with
        deletionTimestamp := true
        generation := cur.metadata.generation + 1
        resourceVersion := s.revision + 1 } },
      by rw [hobj, Function.update_same, Store.deleted, if_neg (List.ne_nil_of_mem hfin)], hu', hfin⟩
  · exact h.of_objects (by rw [hobj, Function.update_noteq hk])

/-! ## Stages -/

/-- The Schema under `k` that a pass read while its deletion was requested, with the finalizer. -/
def Deleting (k : Key) (o : Schema) : Prop :=
  o.key = k ∧ o.metadata.deletionTimestamp = true ∧ schemaFinalizer ∈ o.metadata.finalizers

/-- `c` is the client `buildClient` builds for `o` from the reads of a cluster in `H`. -/
def Built (env : Env) (H : Cluster → Prop) (o : Schema) (c : SchemaRegistryClient) : Prop :=
  ∃ cl, H cl ∧ buildClient env.keyPair cl.reader o = .ok c

/-- How a cleanup went, over the states of the cluster in `H`: `DeleteSubject(spec.subject)` on
the client `buildClient` built for `o` answered 200 or 404, or `buildClient` failed. -/
def Cleanup.Done (env : Env) (H : Cluster → Prop) (o : Schema) : Cleanup → Prop
  | .deleted c r a =>
    Built env H o c ∧ c.deleteSubjectRequest o.spec.subject = .ok r ∧
      ∃ resp, a = .ok resp ∧ (resp.statusCode = 200 ∨ resp.statusCode = 404)
  | .waived e => ∃ cl rd, H cl ∧ cl.reader.Degrades rd ∧ buildClient env.keyPair rd o = .error e

/-- What a stage holds whatever the store: the copies' key, and the client and requests built
from the reads of a cluster in `H`. -/
def Stage.Facts (env : Env) (H : Cluster → Prop) (k : Key) : Stage → Prop
  | .get | .done _ _ => True
  | .attach o => o.key = k ∧ o.metadata.deletionTimestamp = false
  | .refetch o | .build o | .reread o _ | .failGet o _ _ _ => o.key = k
  | .register o c r =>
    o.key = k ∧ Built env H o c ∧ c.registerSchemaRequest o.spec.subject (registerRequest o) = .ok r
  | .latest o c _ r => o.key = k ∧ Built env H o c ∧ c.latestVersionRequest o.spec.subject = .ok r
  | .compat o c _ r =>
    o.key = k ∧ Built env H o c ∧ c.setCompatibilityRequest o.spec.subject o.spec.compatibilityLevel = .ok r
  | .commit o o' _ | .failUpdate o o' _ _ _ =>
    o.key = k ∧ o'.key = k ∧ o'.metadata.uid = o.metadata.uid
  | .deleteBuild o => Deleting k o
  | .deleteSubject o c r =>
    Deleting k o ∧ Built env H o c ∧ c.deleteSubjectRequest o.spec.subject = .ok r
  | .release o cleanup => Deleting k o ∧ cleanup.Done env H o

/-- The copies a stage holds that are snapshots. -/
def Stage.snaps : Stage → List Schema
  | .attach o | .deleteBuild o | .deleteSubject o _ _ | .release o _ => [o]
  | .commit _ o' _ | .failUpdate _ o' _ _ _ => [o']
  | _ => []

/-- The copies whose generation and spec the store tracks: the copy a pass works from. -/
def Stage.tracked : Stage → List Schema
  | .attach o | .refetch o | .build o | .register o _ _ | .latest o _ _ _ | .compat o _ _ _
  | .reread o _ | .commit o _ _ | .failGet o _ _ _ | .failUpdate o _ _ _ _ => [o]
  | _ => []

/-- The copies whose object stays stored with the finalizer. -/
def Stage.pinned : Stage → List Schema
  | .refetch o | .build o | .register o _ _ | .latest o _ _ _ | .compat o _ _ _ | .reread o _
  | .commit o _ _ | .failGet o _ _ _ | .failUpdate o _ _ _ _ | .deleteBuild o | .deleteSubject o _ _
  | .release o _ => [o]
  | _ => []

/-- A pass over `k` at stage `st`, in store `s`, after the states of the cluster in `H`. -/
structure StageOK (env : Env) (H : Cluster → Prop) (s : SchemaStore) (k : Key) (st : Stage) : Prop where
  facts : st.Facts env H k
  snap : ∀ o ∈ st.snaps, Store.Snap s o
  tracks : ∀ o ∈ st.tracked, Store.Tracks s o
  pinned : ∀ o ∈ st.pinned, Pinned s k o

/-- Every pass is at a stage it can be at. -/
def Inv (env : Env) (w : SchemaWorld) : Prop :=
  ∀ k st, w.passes k = some st → StageOK env w.had w.store k st

variable {env : Env} {H H' : Cluster → Prop}

theorem Built.mono (hH : ∀ cl, H cl → H' cl) {o : Schema} {c : SchemaRegistryClient}
    (h : Built env H o c) : Built env H' o c :=
  let ⟨cl, hcl, hb⟩ := h
  ⟨cl, hH cl hcl, hb⟩

theorem Stage.Facts.mono (hH : ∀ cl, H cl → H' cl) {st : Stage} (h : st.Facts env H k) :
    st.Facts env H' k := by
  cases st
  case register | latest | compat | deleteSubject => exact ⟨h.1, h.2.1.mono hH, h.2.2⟩
  case release o cleanup =>
    refine ⟨h.1, ?_⟩
    cases cleanup with
    | deleted c r a => exact ⟨h.2.1.mono hH, h.2.2⟩
    | waived e => obtain ⟨cl, rd, hcl, hrd, hb⟩ := h.2; exact ⟨cl, rd, hH cl hcl, hrd, hb⟩
  all_goals exact h

theorem StageOK.transport {st : Stage} (h : StageOK env H s k st) (hH : ∀ cl, H cl → H' cl)
    (hsnap : ∀ c, Store.Snap s c → Store.Snap s' c) (htr : ∀ c, Store.Tracks s c → Store.Tracks s' c)
    (hpin : ∀ c, Pinned s k c → Pinned s' k c) : StageOK env H' s' k st :=
  ⟨h.facts.mono hH, fun o ho => hsnap o (h.snap o ho), fun o ho => htr o (h.tracks o ho),
    fun o ho => hpin o (h.pinned o ho)⟩


/-! ## A pass's own steps -/

theorem stageOK_done {r : Result} {e : Option String} : StageOK env H s k (.done r e) :=
  ⟨trivial, (fun _ h => nomatch h), (fun _ h => nomatch h), (fun _ h => nomatch h)⟩

theorem stageOK_working {st : Stage} {o : Schema} (hf : st.Facts env H k) (hs : st.snaps = [])
    (ht : st.tracked = [o]) (hp : st.pinned = [o]) (htr : Store.Tracks s o) (hpin : Pinned s k o) :
    StageOK env H s k st :=
  ⟨hf, by simp [hs], by simp [ht, htr], by simp [hp, hpin]⟩

/-- The working copy of a stage. -/
def Stage.copy : Stage → Option Schema
  | .refetch o | .build o | .register o _ _ | .latest o _ _ _ | .compat o _ _ _ | .reread o _
  | .commit o _ _ | .failGet o _ _ _ | .failUpdate o _ _ _ _ | .deleteBuild o | .deleteSubject o _ _
  | .release o _ | .attach o => some o
  | .get | .done _ _ => none

theorem stageOK_toRegister {o : Schema} {c : SchemaRegistryClient} (hk : o.key = k)
    (hb : Built env H o c) (htr : Store.Tracks s o) (hpin : Pinned s k o) :
    StageOK env H s k (toRegister o c) := by
  unfold toRegister
  split
  · exact stageOK_working ⟨hk, hb, ‹_›⟩ rfl rfl rfl htr hpin
  · exact stageOK_working hk rfl rfl rfl htr hpin

theorem stageOK_afterRegister {o : Schema} {c : SchemaRegistryClient} {resp : SchemaResponse}
    (hk : o.key = k) (hb : Built env H o c) (htr : Store.Tracks s o)
    (hpin : Pinned s k o) : StageOK env H s k (afterRegister o c resp) := by
  unfold afterRegister
  split_ifs
  · split
    · exact stageOK_working ⟨hk, hb, ‹_›⟩ rfl rfl rfl htr hpin
    · exact stageOK_working hk rfl rfl rfl htr hpin
  · exact stageOK_working hk rfl rfl rfl htr hpin

theorem stageOK_afterPost {o : Schema} {c : SchemaRegistryClient} {id : Int} (hk : o.key = k)
    (hb : Built env H o c) (htr : Store.Tracks s o) (hpin : Pinned s k o) :
    StageOK env H s k (afterPost o c id) := by
  unfold afterPost
  split
  · exact stageOK_working ⟨hk, hb, ‹_›⟩ rfl rfl rfl htr hpin
  · exact stageOK_afterRegister hk hb htr hpin

theorem stageOK_toDelete {o : Schema} {c : SchemaRegistryClient} (hd : Deleting k o)
    (hb : Built env H o c) (hs : Store.Snap s o) (hpin : Pinned s k o) :
    StageOK env H s k (toDelete o c) := by
  unfold toDelete
  split
  · exact ⟨⟨hd, hb, ‹_›⟩, by simp [Stage.snaps, hs], by simp [Stage.tracked],
      by simp [Stage.pinned, hpin]⟩
  · exact stageOK_done

theorem deleteSubjectResult_ok {a : Except String Response} (h : deleteSubjectResult a = .ok ()) :
    ∃ resp, a = .ok resp ∧ (resp.statusCode = 200 ∨ resp.statusCode = 404) := by
  unfold deleteSubjectResult at h
  split at h
  · cases h
  · next resp =>
    split_ifs at h with h404 h200
    · exact ⟨resp, rfl, .inr h404⟩
    · exact ⟨resp, rfl, .inl (not_not.mp h200)⟩

theorem got_copy {o : Schema} (h : s.get k = .ok o) :
    o.key = k ∧ Store.Snap s o ∧ Store.Tracks s o :=
  ⟨s.keyed _ _ (Store.get_ok.mp h), Store.snap_of_get h, Store.tracks_of_get h⟩

theorem got_pinned {o o' : Schema} (hpin : Pinned s k o) (h : s.get k = .ok o') :
    o'.metadata.uid = o.metadata.uid ∧ Pinned s k o' := by
  obtain ⟨x, hx, hu, hf⟩ := hpin
  rw [Store.get_ok, hx] at h
  obtain rfl := Option.some.inj h
  exact ⟨hu, _, hx, rfl, hf⟩

@[simp] theorem addFinalizer_key (o : Schema) : (addFinalizer o).key = o.key := by
  unfold addFinalizer; split_ifs <;> rfl

@[simp] theorem addFinalizer_uid (o : Schema) :
    (addFinalizer o).metadata.uid = o.metadata.uid := by
  unfold addFinalizer; split_ifs <;> rfl

@[simp] theorem addFinalizer_generation (o : Schema) :
    (addFinalizer o).metadata.generation = o.metadata.generation := by
  unfold addFinalizer; split_ifs <;> rfl

@[simp] theorem addFinalizer_resourceVersion (o : Schema) :
    (addFinalizer o).metadata.resourceVersion = o.metadata.resourceVersion := by
  unfold addFinalizer; split_ifs <;> rfl

@[simp] theorem addFinalizer_spec (o : Schema) : (addFinalizer o).spec = o.spec := by
  unfold addFinalizer; split_ifs <;> rfl

theorem mem_addFinalizer (o : Schema) : schemaFinalizer ∈ (addFinalizer o).metadata.finalizers := by
  unfold addFinalizer; split_ifs with h
  · exact h
  · simp

theorem attach_landed {o : Schema} {s' : SchemaStore} (hk : o.key = k) (hdt : o.metadata.deletionTimestamp = false)
    (hs : Store.Snap s o) (ht : Store.Tracks s o) (hu : s.update (addFinalizer o) = .ok s') :
    Store.Tracks s' (addFinalizer o) ∧ Pinned s' k (addFinalizer o) := by
  obtain ⟨-, hobj⟩ := Store.update_of_snap hs (addFinalizer_key o) (addFinalizer_resourceVersion o) hu
  refine ⟨(ht.changes (.update hu)).congr (addFinalizer_key o) (addFinalizer_uid o)
    (addFinalizer_generation o) (addFinalizer_spec o), ?_⟩
  rw [← hk]
  refine ⟨_, by rw [hobj, Function.update_same, Store.updated, if_neg (by simp [hdt])], ?_, ?_⟩
  · simp
  · exact mem_addFinalizer o

theorem stageOK_reread {o o' : Schema} {st : Stage} (hst : st.Facts env H k → o.key = k)
    (hfacts : st.Facts env H k) (hg : s.get k = .ok o') (ht : Store.Tracks s o) (hpin : Pinned s k o)
    (st' : Stage) (hf' : o.key = k → o'.key = k → o'.metadata.uid = o.metadata.uid → st'.Facts env H k)
    (hs' : st'.snaps = [o']) (ht' : st'.tracked = [o]) (hp' : st'.pinned = [o]) :
    StageOK env H s k st' := by
  obtain ⟨hk', hs, -⟩ := got_copy hg
  exact ⟨hf' (hst hfacts) hk' (got_pinned hpin hg).1, by simp [hs', hs], by simp [ht', ht],
    by simp [hp', hpin]⟩

theorem stageOK_next {cl : Cluster} {m m' : Remote} {st : Stage} {c : Call SchemaSpec SchemaStatus}
    {f : Fault} {a : Answer SchemaSpec SchemaStatus} (hok : StageOK env H s k st) (hcl : H cl)
    (hc : call k st = some c) (ha : answer env cl s m c f = some (a, s', m')) :
    StageOK env H s' k (next env st a) := by
  cases st with
  | get =>
    cases hc
    apply answer_get_cases ha
    · exact fun _ => stageOK_done
    intro o hg
    obtain ⟨hk, hs, ht⟩ := got_copy hg
    have hx := Store.get_ok.mp hg
    by_cases hdt : o.metadata.deletionTimestamp = true
    · by_cases hfin : schemaFinalizer ∈ o.metadata.finalizers
      · rw [show next env .get (.got (.ok o)) = .deleteBuild o from
          (if_pos hdt).trans (if_pos hfin)]
        exact ⟨⟨hk, hdt, hfin⟩, by simp [Stage.snaps, hs], by simp [Stage.tracked],
          by simp only [Stage.pinned, List.mem_singleton, forall_eq]; exact ⟨o, hx, rfl, hfin⟩⟩
      · rw [show next env .get (.got (.ok o)) = .done ⟨0⟩ none from (if_pos hdt).trans (if_neg hfin)]
        exact stageOK_done
    · by_cases hfin : schemaFinalizer ∈ o.metadata.finalizers
      · rw [show next env .get (.got (.ok o)) = .build o from
          (if_neg hdt).trans (if_neg (not_not_intro hfin))]
        exact stageOK_working hk rfl rfl rfl ht ⟨o, hx, rfl, hfin⟩
      · rw [show next env .get (.got (.ok o)) = .attach o from (if_neg hdt).trans (if_pos hfin)]
        exact ⟨⟨hk, by simpa using hdt⟩, by simp [Stage.snaps, hs], by simp [Stage.tracked, ht],
          by simp [Stage.pinned]⟩
  | attach o =>
    cases hc
    obtain ⟨hk, hdt⟩ := hok.facts
    obtain ⟨-, ⟨rfl, hu⟩ | ⟨e, rfl, -⟩⟩ := answer_update ha
    · obtain ⟨ht', hpin'⟩ := attach_landed hk hdt (hok.snap o (by simp [Stage.snaps]))
        (hok.tracks o (by simp [Stage.tracked])) hu
      show StageOK env H s' k (.refetch (addFinalizer o))
      exact stageOK_working (show (addFinalizer o).key = k by simpa using hk) rfl rfl rfl ht' hpin'
    · exact stageOK_done
  | refetch o =>
    cases hc
    apply answer_get_cases ha
    · exact fun _ => stageOK_done
    intro o' hg
    obtain ⟨hk', -, ht'⟩ := got_copy hg
    exact stageOK_working hk' rfl rfl rfl ht' (got_pinned (hok.pinned o (by simp [Stage.pinned])) hg).2
  | build o =>
    cases hc
    obtain ⟨hs', -, rd, rfl, hrd⟩ := answer_read ha
    rw [hs']
    have ht := hok.tracks o (by simp [Stage.tracked])
    have hpin := hok.pinned o (by simp [Stage.pinned])
    simp only [next]
    split
    · exact stageOK_working hok.facts rfl rfl rfl ht hpin
    · exact stageOK_toRegister hok.facts ⟨cl, hcl, buildClient_degrades hrd ‹_›⟩ ht hpin
  | register o c r =>
    cases hc
    obtain ⟨hs', ⟨rfl, -⟩ | ⟨e, rfl, -⟩⟩ := answer_send ha <;> rw [hs'] <;>
    · obtain ⟨hk, hb, -⟩ := hok.facts
      have ht := hok.tracks o (by simp [Stage.tracked])
      have hpin := hok.pinned o (by simp [Stage.pinned])
      simp only [next]
      split
      · exact stageOK_working hk rfl rfl rfl ht hpin
      · exact stageOK_afterPost hk hb ht hpin
  | latest o c id r =>
    cases hc
    obtain ⟨hs', ⟨rfl, -⟩ | ⟨e, rfl, -⟩⟩ := answer_send ha <;> rw [hs'] <;>
    · obtain ⟨hk, hb, -⟩ := hok.facts
      exact stageOK_afterRegister hk hb (hok.tracks o (by simp [Stage.tracked]))
        (hok.pinned o (by simp [Stage.pinned]))
  | compat o c resp r =>
    cases hc
    obtain ⟨hs', ⟨rfl, -⟩ | ⟨e, rfl, -⟩⟩ := answer_send ha <;> rw [hs'] <;>
    · exact stageOK_working hok.facts.1 rfl rfl rfl (hok.tracks o (by simp [Stage.tracked]))
        (hok.pinned o (by simp [Stage.pinned]))
  | reread o resp =>
    cases hc
    apply answer_get_cases ha
    · exact fun _ => stageOK_done
    intro o' hg
    exact stageOK_reread id hok.facts hg (hok.tracks o (by simp [Stage.tracked]))
      (hok.pinned o (by simp [Stage.pinned])) _ (fun h1 h2 h3 => ⟨h1, h2, h3⟩) rfl rfl rfl
  | commit o o' resp =>
    cases hc
    obtain ⟨-, ⟨rfl, -⟩ | ⟨e, rfl, -⟩⟩ := answer_updateStatus ha <;> exact stageOK_done
  | failGet o result reason message =>
    cases hc
    rw [show o.key = k from hok.facts] at ha
    apply answer_get_cases ha
    · exact fun _ => stageOK_done
    intro o' hg
    exact stageOK_reread id hok.facts hg (hok.tracks o (by simp [Stage.tracked]))
      (hok.pinned o (by simp [Stage.pinned])) _ (fun h1 h2 h3 => ⟨h1, h2, h3⟩) rfl rfl rfl
  | failUpdate o o' result reason message =>
    cases hc
    obtain ⟨-, ⟨rfl, -⟩ | ⟨e, rfl, -⟩⟩ := answer_updateStatus ha <;> exact stageOK_done
  | deleteBuild o =>
    cases hc
    obtain ⟨hs', -, rd, rfl, hrd⟩ := answer_read ha
    rw [hs']
    have hs := hok.snap o (by simp [Stage.snaps])
    have hpin := hok.pinned o (by simp [Stage.pinned])
    simp only [next]
    split
    · exact ⟨⟨hok.facts, cl, rd, hcl, hrd, ‹_›⟩, by simp [Stage.snaps, hs], by simp [Stage.tracked],
        by simp [Stage.pinned, hpin]⟩
    · exact stageOK_toDelete hok.facts ⟨cl, hcl, buildClient_degrades hrd ‹_›⟩ hs hpin
  | deleteSubject o c r =>
    cases hc
    obtain ⟨hd, hb, hr⟩ := hok.facts
    have hs := hok.snap o (by simp [Stage.snaps])
    have hpin := hok.pinned o (by simp [Stage.pinned])
    obtain ⟨hs', ⟨rfl, -⟩ | ⟨e, rfl, -⟩⟩ := answer_send ha <;> rw [hs'] <;>
    · simp only [next]
      split
      · exact stageOK_done
      · exact ⟨⟨hd, hb, hr, deleteSubjectResult_ok ‹_›⟩, by simp [Stage.snaps, hs],
          by simp [Stage.tracked], by simp [Stage.pinned, hpin]⟩
  | release o cleanup =>
    cases hc
    obtain ⟨-, ⟨rfl, -⟩ | ⟨e, rfl, -⟩⟩ := answer_update ha <;> exact stageOK_done
  | done => cases hc

/-! ## Every reachable world -/

theorem call_update {st : Stage} {o' : Schema} (hf : st.Facts env H k)
    (hc : call k st = some (.update o')) :
    o'.key = k ∧ ((∃ o, st = .attach o ∧ o' = addFinalizer o) ∨
      ∃ o cleanup, st = .release o cleanup ∧ o' = removeFinalizer o) := by
  cases st <;> simp only [call, Option.some.injEq, Call.update.injEq, reduceCtorEq] at hc
  · subst hc; exact ⟨by simpa using hf.1, .inl ⟨_, rfl, rfl⟩⟩
  · subst hc; exact ⟨hf.1.1, .inr ⟨_, _, rfl, rfl⟩⟩

theorem pinned_step {w w' : SchemaWorld} {ch : Choice SchemaSpec} (hi : Inv env w)
    (h : StepKind controller env w ch w') (hp : Pinned w.store k o) :
    Pinned w'.store k o ∨ ∃ x cleanup f, ch = .step k f ∧
      w.passes k = some (.release x cleanup) ∧ w.store.update (removeFinalizer x) = .ok w'.store := by
  cases h with
  | create _ hc => exact .inl (hp.create hc)
  | @update _ _ cur _ hcur _ hu =>
    refine .inl (hp.update hu fun cur' h' hf => ?_)
    change w.store.objects cur.key = some cur' at h'
    rw [w.store.keyed _ _ hcur, hcur] at h'
    cases h'; exact hf
  | delete hd => exact .inl (hp.delete hd)
  | call hst hc ha =>
    rcases answer_store ha with hs | ⟨o', rfl, hu⟩ | ⟨o', rfl, hu⟩
    · exact .inl (hs ▸ hp)
    · obtain ⟨hk, ⟨o, rfl, rfl⟩ | ⟨x, cleanup, rfl, rfl⟩⟩ := call_update (hi _ _ hst).facts hc
      · exact .inl (hp.update hu fun _ _ _ => mem_addFinalizer o)
      · by_cases e : k = (removeFinalizer x).key
        · obtain rfl := e.trans hk
          exact .inr ⟨x, cleanup, _, rfl, hst, hu⟩
        · exact .inl (hp.of_objects (Store.update_other hu e))
    · exact .inl (hp.updateStatus hu)
  | _ => exact .inl hp

theorem inv_step {w w' : SchemaWorld} {ch : Choice SchemaSpec} (hi : Inv env w)
    (h : StepKind controller env w ch w') : Inv env w' := by
  have other : ∀ k st, w.passes k = some st → (∀ f, ch ≠ .step k f) → StageOK env w'.had w'.store k st :=
    fun k st hk hch => (hi k st hk).transport (fun _ => h.had) (fun _ => h.snap) (fun _ => h.tracks)
      fun _ hp => (pinned_step hi h hp).resolve_right fun ⟨_, _, _, e, _⟩ => hch _ e
  intro k st' hk
  rcases h.pass hk with ⟨hold, hch⟩ | ⟨-, rfl⟩ | ⟨st, c, f, a, s, m, -, hst, hc, ha, rfl, rfl⟩
  · exact other k st' hold hch
  · exact ⟨trivial, (fun _ h => nomatch h), (fun _ h => nomatch h), (fun _ h => nomatch h)⟩
  · exact stageOK_next (hi _ _ hst) (.inl rfl) hc ha

theorem inv_init (m : Remote) : Inv env (World.init m : SchemaWorld) := by
  intro k st h; cases h

/-- The run lemma: every world reachable under any policy satisfies the invariant. -/
theorem inv_reachable {policy : SchemaWorld → Choice SchemaSpec → Prop} {m : Remote}
    {w : SchemaWorld} (hw : Reachable controller env policy m w) : Inv env w := by
  induction hw with
  | init => exact inv_init m
  | step _ _ hx ih => exact inv_step ih (exec_kind hx)

/-! ## The finalizer -/

/-- The finalizer leaves a stored Schema only through the release `Update` of the pass over its
key. That pass read this very object while its deletion was requested, with the finalizer, and
has cleaned up the subject or waived the cleanup because no client could be built, from a state
of the cluster the run has been through. -/
theorem finalizer_release {policy : SchemaWorld → Choice SchemaSpec → Prop} {m : Remote}
    {w w' : SchemaWorld} {ch : Choice SchemaSpec} {x : Schema}
    (hw : Reachable controller env policy m w) (hx : w.store.objects k = some x)
    (hfin : schemaFinalizer ∈ x.metadata.finalizers) (hstep : w.exec controller env ch = some w')
    (hgone : ¬ Pinned w'.store k x) :
    ∃ cleanup f, ch = .step k f ∧ w.passes k = some (.release x cleanup) ∧ Deleting k x ∧
      cleanup.Done env w.had x := by
  have hi := inv_reachable hw
  obtain hp | ⟨o, cleanup, f, rfl, hst, hu⟩ := pinned_step hi (exec_kind hstep) ⟨x, hx, rfl, hfin⟩
  · exact absurd hp hgone
  obtain ⟨⟨hd, hdone⟩, hsnap, -, -⟩ := hi k _ hst
  obtain ⟨cur, hcur, hrv, -⟩ := Store.update_ok hu
  change w.store.objects o.key = some cur at hcur
  have hco : cur = o := (hsnap o (by simp [Stage.snaps])).2.2 cur hcur hrv
  rw [hd.1, hx, hco] at hcur
  cases hcur
  exact ⟨cleanup, f, rfl, hst, hd, hdone⟩

/-- `kafka/sr` created, then `kafka/orders` registered and deleted, its deletion pass at the
release `Update`. -/
def releasing : Option SchemaWorld :=
  (World.init fun _ => Server.empty).run controller kafkaEnv
    ([.putRegistry kafkaRegistry, .create ordersKey (ordersSpec "sr" proto3), .start ordersKey] ++
      List.replicate 8 (.step ordersKey .none) ++ [.finish ordersKey, .delete ordersKey, .start ordersKey] ++
      List.replicate 3 (.step ordersKey .none))

/-- The theorem at the release `Update` of `kafka/orders`. -/
theorem finalizer_release_orders :
    ∃ w w' x, Reachable controller kafkaEnv anyone (fun _ => Server.empty) w ∧
      w.store.objects ordersKey = some x ∧ schemaFinalizer ∈ x.metadata.finalizers ∧
      w.exec controller kafkaEnv (.step ordersKey .none) = some w' ∧ ¬ Pinned w'.store ordersKey x ∧
      ∃ cleanup f, (Choice.step ordersKey .none : Choice SchemaSpec) = .step ordersKey f ∧
        w.passes ordersKey = some (.release x cleanup) ∧ Deleting ordersKey x ∧
        cleanup.Done kafkaEnv w.had x := by
  obtain ⟨w, hw⟩ : ∃ w, releasing = some w := Option.isSome_iff_exists.mp (by decide)
  have hobj : releasing.map (fun w => (w.store.objects ordersKey).map fun x =>
      decide (schemaFinalizer ∈ x.metadata.finalizers)) = some (some true) := by
    decide
  have hnext : (releasing.bind (·.exec controller kafkaEnv (.step ordersKey .none))).map
      (fun w' => (w'.store.objects ordersKey).isNone) = some true := by
    decide
  rw [hw] at hobj hnext
  simp only [Option.map_some', Option.some.injEq, Option.some_bind, decide_eq_true_eq] at hobj hnext
  obtain ⟨x, hx, hfin⟩ := Option.map_eq_some'.mp hobj
  replace hfin := of_decide_eq_true hfin
  obtain ⟨w', hw', hgone⟩ := Option.map_eq_some'.mp hnext
  have hreach : Reachable controller kafkaEnv anyone (fun _ => Server.empty) w := reachable_run .init hw
  have hpin : ¬ Pinned w'.store ordersKey x := fun ⟨y, hy, _⟩ => by simp [hy] at hgone
  exact ⟨w, w', x, hreach, hx, hfin, hw', hpin, finalizer_release hreach hx hfin hw' hpin⟩

/-! ## Status writes -/

/-- A status write from the fresh copy `o'` lands on `o'` itself; the object keeps `o'`'s
generation, which the tracked copy `o` bounds from below. -/
theorem statusWrite_landed {st : Stage} {o o' n : Schema} (hok : StageOK env H s k st)
    (hf : st.Facts env H k → o.key = k ∧ o'.key = k ∧ o'.metadata.uid = o.metadata.uid)
    (hs : st.snaps = [o']) (ht : st.tracked = [o]) (hn : n.metadata = o'.metadata)
    (hu : s.updateStatus n = .ok s') :
    ∃ x, s'.objects k = some x ∧ x.status = n.status ∧
      x.metadata.generation = o'.metadata.generation ∧ x.metadata.uid = o.metadata.uid ∧
      o.metadata.generation ≤ x.metadata.generation ∧
      (x.metadata.generation = o.metadata.generation → x.spec = o.spec) := by
  obtain ⟨hk, hk', huid⟩ := hf hok.facts
  obtain ⟨hcur, hobj⟩ := Store.updateStatus_landed (hok.snap o' (by simp [hs])) hn hu
  obtain ⟨hle, heq⟩ := (hok.tracks o (by simp [ht])).2 o' (by rw [hk, ← hk']; exact hcur) huid
  exact ⟨s.statusUpdated o' n, hk' ▸ hobj, rfl, rfl, huid, hle, heq⟩

/-- The status commit lands on the object the pass read, and records the object's generation at
that moment: at least that of the copy the pass registered, and equal to it only while the spec
is still that copy's. -/
theorem commit_generation {policy : SchemaWorld → Choice SchemaSpec → Prop} {m : Remote}
    {w w' : SchemaWorld} {f : Fault} {o o' : Schema} {resp : SchemaResponse}
    (hw : Reachable controller env policy m w) (hst : w.passes k = some (.commit o o' resp))
    (hstep : w.exec controller env (.step k f) = some w') :
    w'.store = w.store ∨ ∃ x, w'.store.objects k = some x ∧ x.metadata.uid = o.metadata.uid ∧
      x.status = (committed o' resp).status ∧
      x.status.observedGeneration = x.metadata.generation ∧
      readyGeneration x.status.conditions = some x.metadata.generation ∧
      o.metadata.generation ≤ x.metadata.generation ∧
      (x.metadata.generation = o.metadata.generation → x.spec = o.spec) := by
  cases exec_kind hstep with
  | call hst' hc ha =>
    rw [hst] at hst'; cases hst'; cases hc
    rcases answer_store ha with hs | ⟨_, hc, -⟩ | ⟨n, hc, hu⟩
    · exact .inl hs
    · cases hc
    cases hc
    obtain ⟨x, hx, hxs, hxg, hxu, hle, heq⟩ :=
      statusWrite_landed (n := committed o' resp) (inv_reachable hw k _ hst) id rfl rfl rfl hu
    refine .inr ⟨x, hx, hxu, hxs, by rw [hxs, hxg]; rfl, ?_, hle, heq⟩
    rw [hxs, hxg]
    exact readyGeneration_setStatusCondition _ rfl
  | recluster hm => cases hm

/-- The status write of `setConditionFailed` lands on the object the pass read, and its `Ready`
condition records the object's generation at that moment, bounded as the commit's. -/
theorem failUpdate_generation {policy : SchemaWorld → Choice SchemaSpec → Prop} {m : Remote}
    {w w' : SchemaWorld} {f : Fault} {o o' : Schema} {result : Result} {reason message : String}
    (hw : Reachable controller env policy m w)
    (hst : w.passes k = some (.failUpdate o o' result reason message))
    (hstep : w.exec controller env (.step k f) = some w') :
    w'.store = w.store ∨ ∃ x, w'.store.objects k = some x ∧ x.metadata.uid = o.metadata.uid ∧
      x.status = (conditionFailed o' reason message).status ∧
      readyGeneration x.status.conditions = some x.metadata.generation ∧
      o.metadata.generation ≤ x.metadata.generation ∧
      (x.metadata.generation = o.metadata.generation → x.spec = o.spec) := by
  cases exec_kind hstep with
  | call hst' hc ha =>
    rw [hst] at hst'; cases hst'; cases hc
    rcases answer_store ha with hs | ⟨_, hc, -⟩ | ⟨n, hc, hu⟩
    · exact .inl hs
    · cases hc
    cases hc
    obtain ⟨x, hx, hxs, hxg, hxu, hle, heq⟩ := statusWrite_landed
      (n := conditionFailed o' reason message) (inv_reachable hw k _ hst) id rfl rfl rfl hu
    refine .inr ⟨x, hx, hxu, hxs, ?_, hle, heq⟩
    rw [hxs, hxg]
    exact readyGeneration_setStatusCondition _ rfl
  | recluster hm => cases hm

end SchemaController

end SchemaOperator
