import SchemaOperator.Runtime
import SchemaOperator.Webhook

/-!
# `SchemaReconciler`

`SchemaReconciler.Reconcile` (`internal/controller/schema_controller.go`) as a state machine
with one stage per external call, and `findSchemasForRegistry`, the map from a changed
`SchemaRegistry` to the Schemas to reconcile.

A pass reads the Schema. On the deletion path it builds a client, deletes the subject and removes
its finalizer; a client that cannot be built waives the cleanup. Otherwise it adds the finalizer
when missing (and reads the Schema again), builds a client, registers the schema (a POST, then a
best-effort GET of the latest version), sets the compatibility level when one is declared (a
failure is ignored), reads the Schema again and writes its status. A client or registration
failure goes to `setConditionFailed`, which reads the Schema once more and writes a failed
`Ready` condition.

Each stage holds what the code holds at that point. Some stages also hold what the code has
overwritten (the copy a pass used before its last read, how its cleanup went): these are
recorded for the statements and never read by `next`.

Results:
* `findSchemasForRegistry_misses`: a Schema that points at a registry in another namespace is
  not enqueued when that registry changes, although `buildClient` looks that registry up.
-/

namespace SchemaOperator

namespace SchemaController

open Client Registry

/-! ## Status writes -/

/-- `controllerutil.AddFinalizer`. -/
def addFinalizer (o : Schema) : Schema :=
  if schemaFinalizer ∈ o.metadata.finalizers then o
  else { o with metadata := { o.metadata with finalizers := o.metadata.finalizers ++ [schemaFinalizer] } }

/-- `controllerutil.RemoveFinalizer`. -/
def removeFinalizer (o : Schema) : Schema :=
  { o with metadata := { o.metadata with
      finalizers := o.metadata.finalizers.filter (· ≠ schemaFinalizer) } }

/-- The `Ready` condition of a registration. -/
def readyCondition (resp : SchemaResponse) (generation : Nat) : Condition :=
  ⟨"Ready", .conditionTrue, "Registered",
    "Schema registered with ID " ++ toString resp.id ++ ", version " ++ toString resp.version,
    generation⟩

/-- The status the commit writes on the copy `o`. -/
def committed (o : Schema) (resp : SchemaResponse) : Schema :=
  { o with status := { o.status with
      schemaID := some resp.id
      version := some resp.version
      observedGeneration := o.metadata.generation
      conditions := setStatusCondition o.status.conditions (readyCondition resp o.metadata.generation) } }

/-- The status `setConditionFailed` writes on the copy `o`. -/
def conditionFailed (o : Schema) (reason message : String) : Schema :=
  { o with status := { o.status with
      conditions := setStatusCondition o.status.conditions
        ⟨"Ready", .conditionFalse, reason, message, o.metadata.generation⟩ } }

/-- `convertReferences`. -/
def convertReferences (refs : List SchemaReference) : List Client.SchemaReference :=
  refs.map fun ref => ⟨ref.name, ref.subject, ref.version⟩

/-- The body of the registration. -/
def registerRequest (o : Schema) : RegisterSchemaRequest :=
  ⟨o.spec.schema, o.spec.schemaType.toString, convertReferences o.spec.references⟩

/-! ## Stages -/

/-- How a deletion pass's cleanup went: `DeleteSubject` on the client answered nil, or the client
could not be built. -/
inductive Cleanup where
  | deleted (c : SchemaRegistryClient) (r : Request) (a : Except String Response)
  | waived (e : String)
deriving DecidableEq, Repr

/-- Where a pass stands: the call it makes next, and what it holds. -/
inductive Stage where
  /-- `r.Get(req.NamespacedName)`. -/
  | get
  /-- `r.Update` after `AddFinalizer`. -/
  | attach (o : Schema)
  /-- The `Get` after the finalizer was added to `o`. -/
  | refetch (o : Schema)
  /-- `buildClient`. -/
  | build (o : Schema)
  /-- The POST of `RegisterSchema`. -/
  | register (o : Schema) (c : SchemaRegistryClient) (r : Request)
  /-- The GET of `getLatestVersionForSubject`, after the POST answered `id`. -/
  | latest (o : Schema) (c : SchemaRegistryClient) (id : Int) (r : Request)
  /-- The PUT of `SetCompatibility`. -/
  | compat (o : Schema) (c : SchemaRegistryClient) (resp : SchemaResponse) (r : Request)
  /-- The `Get` before the status update; `o` is the copy the pass registered. -/
  | reread (o : Schema) (resp : SchemaResponse)
  /-- `r.Status().Update` of the fresh copy `o'`. -/
  | commit (o o' : Schema) (resp : SchemaResponse)
  /-- The `Get` of `setConditionFailed`. -/
  | failGet (o : Schema) (result : Result) (reason message : String)
  /-- The `Status().Update` of `setConditionFailed` on the fresh copy `o'`. -/
  | failUpdate (o o' : Schema) (result : Result) (reason message : String)
  /-- `buildClient` on the deletion path. -/
  | deleteBuild (o : Schema)
  /-- The DELETE of `DeleteSubject`. -/
  | deleteSubject (o : Schema) (c : SchemaRegistryClient) (r : Request)
  /-- `r.Update` after `RemoveFinalizer`. -/
  | release (o : Schema) (cleanup : Cleanup)
  /-- `Reconcile` returned. -/
  | done (result : Result) (err : Option String)
deriving DecidableEq, Repr

/-- `RegisterSchema` starts: the POST, unless its request cannot be built. -/
def toRegister (o : Schema) (c : SchemaRegistryClient) : Stage :=
  match c.registerSchemaRequest o.spec.subject (registerRequest o) with
  | .ok r => .register o c r
  | .error e => .failGet o ⟨minute⟩ "RegistrationFailed" e

/-- After `RegisterSchema` returned `resp`: `SetCompatibility` when a level is declared (its
failures are ignored), then the `Get` before the status update. -/
def afterRegister (o : Schema) (c : SchemaRegistryClient) (resp : SchemaResponse) : Stage :=
  if o.spec.compatibilityLevel ≠ "" then
    match c.setCompatibilityRequest o.spec.subject o.spec.compatibilityLevel with
    | .ok r => .compat o c resp r
    | .error _ => .reread o resp
  else .reread o resp

/-- After the POST answered `id`: the GET of the latest version, unless its request cannot be
built (then the version is 0). -/
def afterPost (o : Schema) (c : SchemaRegistryClient) (id : Int) : Stage :=
  match c.latestVersionRequest o.spec.subject with
  | .ok r => .latest o c id r
  | .error e => afterRegister o c (registerSchemaResponse id (.error e))

/-- `deleteFromRegistry` with a client: the DELETE, unless its request cannot be built. -/
def toDelete (o : Schema) (c : SchemaRegistryClient) : Stage :=
  match c.deleteSubjectRequest o.spec.subject with
  | .ok r => .deleteSubject o c r
  | .error e => .done ⟨0⟩ (some e)

/-- The call a pass over `k` makes at each stage. -/
def call (k : Key) : Stage → Option (Call SchemaSpec SchemaStatus)
  | .get | .refetch _ | .reread _ _ => some (.get k)
  | .attach o => some (.update (addFinalizer o))
  | .build _ | .deleteBuild _ => some .read
  | .register _ c r | .latest _ c _ r | .compat _ c _ r | .deleteSubject _ c r => some (.send c.baseURL r)
  | .commit _ o' resp => some (.updateStatus (committed o' resp))
  | .failGet o _ _ _ => some (.get o.key)
  | .failUpdate _ o' _ reason message => some (.updateStatus (conditionFailed o' reason message))
  | .release o _ => some (.update (removeFinalizer o))
  | .done _ _ => none

/-- The stage after the answer. -/
def next (env : Env) : Stage → Answer SchemaSpec SchemaStatus → Stage
  | .get, .got (.error e) => .done ⟨0⟩ (ignored e)
  | .get, .got (.ok o) =>
    if o.metadata.deletionTimestamp then
      if schemaFinalizer ∈ o.metadata.finalizers then .deleteBuild o else .done ⟨0⟩ none
    else if schemaFinalizer ∉ o.metadata.finalizers then .attach o
    else .build o
  | .attach _, .wrote (.error e) => .done ⟨0⟩ (some e.message)
  | .attach o, .wrote (.ok ()) => .refetch (addFinalizer o)
  | .refetch _, .got (.error e) => .done ⟨0⟩ (ignored e)
  | .refetch _, .got (.ok o) => .build o
  | .build o, .read rd =>
    match buildClient env.keyPair rd o with
    | .error e => .failGet o ⟨minute⟩ "ClientBuildFailed" e
    | .ok c => toRegister o c
  | .register o c _, .sent a =>
    match registerResult a with
    | .error e => .failGet o ⟨minute⟩ "RegistrationFailed" e
    | .ok id => afterPost o c id
  | .latest o c id _, .sent a => afterRegister o c (registerSchemaResponse id (latestVersionResult a))
  | .compat o _ resp _, .sent _ => .reread o resp
  | .reread _ _, .got (.error e) => .done ⟨0⟩ (ignored e)
  | .reread o resp, .got (.ok o') => .commit o o' resp
  | .commit _ _ _, .wrote (.error e) => .done ⟨0⟩ (some e.message)
  | .commit _ _ _, .wrote (.ok ()) => .done ⟨0⟩ none
  | .failGet _ result _ _, .got (.error e) => .done result (ignored e)
  | .failGet o result reason message, .got (.ok o') => .failUpdate o o' result reason message
  | .failUpdate _ _ result _ _, .wrote (.error e) => .done result (some e.message)
  | .failUpdate _ _ result _ _, .wrote (.ok ()) => .done result none
  | .deleteBuild o, .read rd =>
    match buildClient env.keyPair rd o with
    | .error e => .release o (.waived e)
    | .ok c => toDelete o c
  | .deleteSubject o c r, .sent a =>
    match deleteSubjectResult a with
    | .error e => .done ⟨0⟩ (some e)
    | .ok () => .release o (.deleted c r a)
  | .release _ _, .wrote (.error e) => .done ⟨0⟩ (some e.message)
  | .release _ _, .wrote (.ok ()) => .done ⟨0⟩ none
  | st, _ => st

/-! ## What a pass did to the registries -/

/-- The record of a pass's registry work: a registration `RegisterSchema` reported, a
`DeleteSubject` that returned nil, and a cleanup waived because no client could be built. -/
inductive Event where
  | registered (base subject : String)
  | deleted (base subject : String)
  | waived (o : Schema)
deriving DecidableEq, Repr

/-- What a step is recorded as. -/
def events (env : Env) : Stage → Answer SchemaSpec SchemaStatus → List Event
  | .register o c _, .sent a =>
    match registerResult a with
    | .ok _ => [.registered c.baseURL o.spec.subject]
    | .error _ => []
  | .deleteSubject o c _, .sent a =>
    match deleteSubjectResult a with
    | .ok () => [.deleted c.baseURL o.spec.subject]
    | .error _ => []
  | .deleteBuild o, .read rd =>
    match buildClient env.keyPair rd o with
    | .error _ => [.waived o]
    | .ok _ => []
  | _, _ => []

/-- The Schema reconciler with the Schema webhook. -/
def controller : Controller SchemaSpec SchemaStatus Stage Event where
  start := .get
  call := call
  next := next
  events := events
  initStatus := SchemaStatus.empty
  admitCreate env o := (Webhook.validateCreate env.jsonValid o).isEmpty
  admitUpdate env old new := (Webhook.validateUpdate env.jsonValid old new).isEmpty
  admitRegistry _ sr := (Webhook.validateSchemaRegistrySpec sr).isEmpty

/-- The system of Schemas. -/
abbrev SchemaWorld := World SchemaSpec SchemaStatus Stage Event

/-! ## `findSchemasForRegistry` -/

/-- `r.List(ctx, &list, client.InNamespace(ns))` over the stored Schemas `items`. -/
def listInNamespace (items : List Schema) (ns : String) : List Schema :=
  items.filter (·.metadata.ns = ns)

/-- `findSchemasForRegistry`: the listed Schemas of the registry's namespace whose
`registryRef.name` is the registry's name. A failed list enqueues nothing. -/
def findSchemasForRegistry (list : String → Except StatusError (List Schema))
    (registry : SchemaRegistry) : List Key :=
  match list registry.metadata.ns with
  | .error _ => []
  | .ok items => (items.filter fun s => s.spec.registryRef.name = registry.metadata.name).map Obj.key

/-- Over the stored Schemas, the router enqueues exactly the Schemas of the registry's own
namespace whose reference names the registry, whatever namespace the reference gives. -/
theorem mem_findSchemasForRegistry (items : List Schema) (registry : SchemaRegistry) (k : Key) :
    k ∈ findSchemasForRegistry (fun ns => .ok (listInNamespace items ns)) registry ↔
      ∃ s ∈ items, s.key = k ∧ s.metadata.ns = registry.metadata.ns ∧
        s.spec.registryRef.name = registry.metadata.name := by
  simp [findSchemasForRegistry, listInNamespace, and_assoc, and_comm, and_left_comm]

/-- The SchemaRegistry `name` of namespace `kafka`, served at `url` with no auth. -/
def registryAt (name url : String) : SchemaRegistry :=
  ⟨⟨name, "kafka", 1, 1, 1, false, []⟩, ⟨url, none, false, 30⟩, SchemaRegistryStatus.empty⟩

/-- The registry `sr` of namespace `kafka`. -/
def kafkaRegistry : SchemaRegistry := registryAt "sr" "http://sr:8081"

/-- A Schema of namespace `apps` whose reference names `kafka/sr`. -/
def appsSchema : Schema :=
  ⟨⟨"orders", "apps", 2, 1, 2, false, []⟩,
    ⟨"orders-value", .protobuf, "syntax = \"proto3\";", [], ⟨"sr", "kafka"⟩, ""⟩, SchemaStatus.empty⟩

/-- `buildClient` of `apps/orders` looks up `kafka/sr`, but a change of `kafka/sr` enqueues
nothing: the router lists only `kafka`. -/
theorem findSchemasForRegistry_misses :
    registryKey appsSchema = kafkaRegistry.key ∧
      findSchemasForRegistry (fun ns => .ok (listInNamespace [appsSchema] ns)) kafkaRegistry = [] := by
  decide

/-! ## Examples -/

/-- Every key pair valid, every JSON valid, a registry rule that takes every content, and one
server per URL. -/
def kafkaEnv : Env := ⟨fun _ _ => .ok (), fun _ => true, fun _ _ _ => true, id⟩

/-- The Schema `kafka/orders`. -/
def ordersKey : Key := ⟨"kafka", "orders"⟩

/-- A spec of `kafka/orders`: the subject `orders-value` with the protobuf `schema`, on the
registry `registry` of its own namespace. -/
def ordersSpec (registry schema : String) : SchemaSpec :=
  ⟨"orders-value", .protobuf, schema, [], ⟨registry, ""⟩, ""⟩

/-- The schema the examples register. -/
def proto3 : String := "syntax = \"proto3\";"

/-- The world after the choices `chs`, from an empty store and cluster and empty registries. -/
def kafkaRun (chs : List (Choice SchemaSpec)) : Option SchemaWorld :=
  (World.init fun _ => Server.empty).run controller kafkaEnv chs

end SchemaController

end SchemaOperator
