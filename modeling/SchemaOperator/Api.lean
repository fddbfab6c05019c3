import Mathlib.Data.List.Basic

/-!
# The `registry.strimzi.io/v1alpha1` resources

The two custom resources of the operator (`api/v1alpha1/schema_types.go`,
`api/v1alpha1/schemaregistry_types.go`), the Kubernetes object metadata the controllers read,
`metav1.Condition` with `meta.SetStatusCondition`, and `corev1.Secret`.

Both resources are instances of one generic object `Obj Spec Status`, so that the store
(`SchemaOperator.Store`) is written once for both. Timestamps (`registeredAt`, `lastChecked`,
`lastTransitionTime`) are written by the controllers but never read, and are left out.
-/

namespace SchemaOperator

/-- `types.NamespacedName`: the key a reconcile request carries. -/
structure Key where
  ns : String
  name : String
deriving DecidableEq, Repr

/-- The part of `metav1.ObjectMeta` the controllers and the API server use.
`deletionTimestamp` records only whether the timestamp is set. -/
structure ObjectMeta where
  name : String
  ns : String
  uid : Nat
  generation : Nat
  resourceVersion : Nat
  deletionTimestamp : Bool
  finalizers : List String
deriving DecidableEq, Repr

/-- A stored object of a kind with a status subresource. -/
structure Obj (Spec Status : Type) where
  metadata : ObjectMeta
  spec : Spec
  status : Status
deriving DecidableEq, Repr

/-- `client.ObjectKeyFromObject`. -/
def Obj.key {Spec Status : Type} (o : Obj Spec Status) : Key :=
  ⟨o.metadata.ns, o.metadata.name⟩

/-! ## Conditions -/

/-- `metav1.ConditionStatus`. -/
inductive ConditionStatus where
  | conditionTrue
  | conditionFalse
  | conditionUnknown
deriving DecidableEq, Repr

/-- `metav1.Condition` without its transition time. -/
structure Condition where
  type : String
  status : ConditionStatus
  reason : String
  message : String
  observedGeneration : Nat
deriving DecidableEq, Repr

/-- `meta.FindStatusCondition`: the first condition of the given type. -/
def findStatusCondition : List Condition → String → Option Condition
  | [], _ => none
  | c :: cs, t => if c.type = t then some c else findStatusCondition cs t

/-- `meta.SetStatusCondition`: the condition of the new one's type takes its status, reason,
message and observed generation, or the new condition is appended. -/
def setStatusCondition : List Condition → Condition → List Condition
  | [], c => [c]
  | d :: ds, c => if d.type = c.type then c :: ds else d :: setStatusCondition ds c

/-- `meta.SetStatusCondition` leaves the other conditions and adds only the new one. -/
theorem mem_setStatusCondition {cs : List Condition} {c d : Condition}
    (h : d ∈ setStatusCondition cs c) : d = c ∨ d ∈ cs := by
  induction cs with
  | nil => simpa [setStatusCondition] using h
  | cons e es ih =>
    unfold setStatusCondition at h
    split_ifs at h
    · rcases List.mem_cons.mp h with rfl | h
      · exact .inl rfl
      · exact .inr (List.mem_cons_of_mem _ h)
    · rcases List.mem_cons.mp h with rfl | h
      · exact .inr (List.mem_cons_self _ _)
      · exact (ih h).imp_right (List.mem_cons_of_mem _)

@[simp] theorem findStatusCondition_setStatusCondition (cs : List Condition) (c : Condition) :
    findStatusCondition (setStatusCondition cs c) c.type = some c := by
  induction cs with
  | nil => simp [setStatusCondition, findStatusCondition]
  | cons d ds ih =>
    by_cases same : d.type = c.type
    · simp [setStatusCondition, findStatusCondition, same]
    · simp [setStatusCondition, findStatusCondition, same, ih]

/-- The generation the `Ready` condition records. -/
def readyGeneration (cs : List Condition) : Option Nat :=
  (findStatusCondition cs "Ready").map (·.observedGeneration)

theorem readyGeneration_setStatusCondition (cs : List Condition) {c : Condition}
    (hc : c.type = "Ready") : readyGeneration (setStatusCondition cs c) = some c.observedGeneration := by
  rw [readyGeneration, ← hc, findStatusCondition_setStatusCondition]
  rfl

/-! ## `Schema` -/

/-- `SchemaType`: the CRD enum `AVRO;JSON;PROTOBUF`. -/
inductive SchemaType where
  | avro
  | json
  | protobuf
deriving DecidableEq, Repr

/-- `string(schema.Spec.SchemaType)`. -/
def SchemaType.toString : SchemaType → String
  | .avro => "AVRO"
  | .json => "JSON"
  | .protobuf => "PROTOBUF"

/-- `SchemaReference`. -/
structure SchemaReference where
  name : String
  subject : String
  version : Int
deriving DecidableEq, Repr

/-- `SchemaRegistryRef`; an empty `ns` means the Schema's own namespace. -/
structure SchemaRegistryRef where
  name : String
  ns : String
deriving DecidableEq, Repr

/-- `SchemaSpec`. An empty `compatibilityLevel` means none is declared. -/
structure SchemaSpec where
  subject : String
  schemaType : SchemaType
  schema : String
  references : List SchemaReference
  registryRef : SchemaRegistryRef
  compatibilityLevel : String
deriving DecidableEq, Repr

/-- `SchemaStatus`, without `registeredAt`. -/
structure SchemaStatus where
  schemaID : Option Int
  version : Option Int
  observedGeneration : Nat
  conditions : List Condition
deriving DecidableEq, Repr

/-- The status of a new object. -/
def SchemaStatus.empty : SchemaStatus := ⟨none, none, 0, []⟩

abbrev Schema := Obj SchemaSpec SchemaStatus

/-- `schemaFinalizer`. -/
def schemaFinalizer : String := "registry.strimzi.io/schema-finalizer"

/-! ## `SchemaRegistry` -/

/-- `AuthType`: the CRD enum `NONE;BASIC;BEARER;MTLS`. -/
inductive AuthType where
  | none
  | basic
  | bearer
  | mtls
deriving DecidableEq, Repr

/-- `string(sr.Spec.Auth.Type)`. -/
def AuthType.toString : AuthType → String
  | .none => "NONE"
  | .basic => "BASIC"
  | .bearer => "BEARER"
  | .mtls => "MTLS"

/-- `BasicAuthConfig`. -/
structure BasicAuthConfig where
  secretRef : String
deriving DecidableEq, Repr

/-- `BearerAuthConfig`. -/
structure BearerAuthConfig where
  secretRef : String
deriving DecidableEq, Repr

/-- `MTLSConfig`; an empty `caSecretRef` means no CA secret. -/
structure MTLSConfig where
  certSecretRef : String
  caSecretRef : String
deriving DecidableEq, Repr

/-- `AuthConfig` of the API (the client package has its own). -/
structure AuthConfig where
  type : AuthType
  basicAuth : Option BasicAuthConfig
  bearerAuth : Option BearerAuthConfig
  mtls : Option MTLSConfig
deriving DecidableEq, Repr

/-- `SchemaRegistrySpec`; `timeout` is in seconds. -/
structure SchemaRegistrySpec where
  url : String
  auth : Option AuthConfig
  insecureSkipVerify : Bool
  timeout : Int
deriving DecidableEq, Repr

/-- `SchemaRegistryStatus`, without `lastChecked`. -/
structure SchemaRegistryStatus where
  connectionStatus : String
  observedGeneration : Nat
  conditions : List Condition
deriving DecidableEq, Repr

/-- The status of a new object. -/
def SchemaRegistryStatus.empty : SchemaRegistryStatus := ⟨"", 0, []⟩

abbrev SchemaRegistry := Obj SchemaRegistrySpec SchemaRegistryStatus

/-! ## `Secret` -/

/-- `corev1.Secret`: its `Data` map, values read as strings. -/
structure Secret where
  data : List (String × String)
deriving DecidableEq, Repr

/-- `string(secret.Data[key])`: an absent key reads as the empty string. -/
def Secret.get (s : Secret) (key : String) : String :=
  (s.data.lookup key).getD ""

/-- Whether the key is present in `Data`. -/
def Secret.has (s : Secret) (key : String) : Bool :=
  (s.data.lookup key).isSome

end SchemaOperator
