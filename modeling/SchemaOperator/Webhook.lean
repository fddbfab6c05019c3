import SchemaOperator.Api

/-!
# The admission webhooks

`SchemaCustomValidator` and `SchemaRegistryCustomValidator` (`internal/webhook/v1alpha1`): the
checks the API server runs before it stores a created or updated resource. A validator returns
its `field.ErrorList`; the request is admitted when the list is empty.

`json.Valid` is a parameter (`jsonValid`), since only AVRO and JSON schemas are checked with it.

Results:
* `validateSchemaSpec_eq_nil`, `validateUpdate_eq_nil`, `validateSchemaRegistrySpec_eq_nil`: what
  each validator admits, stated field by field. An update of a Schema may change everything but
  `subject` and `schemaType`: its `registryRef` among the rest.
-/

namespace SchemaOperator

namespace Webhook

/-! ## Field errors -/

/-- An element of a `field.Path`. -/
inductive PathElem where
  | child (name : String)
  | index (i : Nat)
deriving DecidableEq, Repr

/-- `field.Path.String()`: `spec.references[0].name`. -/
def renderPath (p : List PathElem) : String :=
  p.foldl (fun acc e => match e with
    | .child n => if acc = "" then n else acc ++ "." ++ n
    | .index i => acc ++ "[" ++ toString i ++ "]") ""

/-- `field.NewPath(names...)`. -/
def path (names : List String) : List PathElem := names.map .child

/-- The constructors of `field.Error` the validators use. -/
inductive ErrorType where
  | required
  | invalid
  | forbidden
  | internal
deriving DecidableEq, Repr

/-- `field.Error`: the kind, the field, the rejected value (for `Invalid`) and the detail. -/
structure FieldError where
  type : ErrorType
  field : List PathElem
  value : String
  detail : String
deriving DecidableEq, Repr

/-- `field.Required(p, detail)` when `v` is empty. -/
def required (p : List PathElem) (v detail : String) : List FieldError :=
  if v = "" then [⟨.required, p, "", detail⟩] else []

/-- `field.Error.Error()`. -/
def FieldError.text (e : FieldError) : String :=
  renderPath e.field ++ ": " ++
    (match e.type with
      | .required => "Required value"
      | .invalid => "Invalid value: " ++ e.value
      | .forbidden => "Forbidden"
      | .internal => "Internal error") ++ ": " ++ e.detail

/-- `ErrorList.ToAggregate().Error()`. -/
def aggregateText : List FieldError → String
  | [e] => e.text
  | es => "[" ++ ", ".intercalate (es.map FieldError.text) ++ "]"

/-! ## `Schema` -/

/-- The checks of one reference, at index `i`. -/
def referenceErrors (i : Nat) (ref : SchemaReference) : List FieldError :=
  let refPath := path ["spec", "references"] ++ [.index i]
  required (refPath ++ [.child "name"]) ref.name "reference name must not be empty" ++
  required (refPath ++ [.child "subject"]) ref.subject "reference subject must not be empty" ++
  (if ref.version < 1 then
    [⟨.invalid, refPath ++ [.child "version"], toString ref.version, "reference version must be >= 1"⟩]
  else [])

/-- The checks of the references from index `i` on. -/
def referencesErrors : Nat → List SchemaReference → List FieldError
  | _, [] => []
  | i, ref :: refs => referenceErrors i ref ++ referencesErrors (i + 1) refs

/-- `validateSchemaSpec`. -/
def validateSchemaSpec (jsonValid : String → Bool) (obj : Schema) : List FieldError :=
  required (path ["spec", "subject"]) obj.spec.subject "subject must not be empty" ++
  required (path ["spec", "schema"]) obj.spec.schema "schema content must not be empty" ++
  required (path ["spec", "registryRef", "name"]) obj.spec.registryRef.name
    "registryRef.name must not be empty" ++
  (if (obj.spec.schemaType = .avro ∨ obj.spec.schemaType = .json) ∧ obj.spec.schema ≠ "" ∧
      jsonValid obj.spec.schema = false then
    [⟨.invalid, path ["spec", "schema"], obj.spec.schema,
      obj.spec.schemaType.toString ++ " schema must be valid JSON"⟩]
  else []) ++
  referencesErrors 0 obj.spec.references

/-- `SchemaCustomValidator.ValidateCreate`. -/
def validateCreate (jsonValid : String → Bool) (obj : Schema) : List FieldError :=
  validateSchemaSpec jsonValid obj

/-- `SchemaCustomValidator.ValidateUpdate`: `subject` and `schemaType` are immutable, and the new
object must pass `validateSchemaSpec`. -/
def validateUpdate (jsonValid : String → Bool) (oldObj newObj : Schema) : List FieldError :=
  (if oldObj.spec.subject ≠ newObj.spec.subject then
    [⟨.forbidden, path ["spec", "subject"], "",
      "subject is immutable and cannot be changed after creation"⟩]
  else []) ++
  (if oldObj.spec.schemaType ≠ newObj.spec.schemaType then
    [⟨.forbidden, path ["spec", "schemaType"], "",
      "schemaType is immutable and cannot be changed after creation"⟩]
  else []) ++
  (match validateSchemaSpec jsonValid newObj with
    | [] => []
    | errs => [⟨.internal, path ["spec"], "", aggregateText errs⟩])

@[simp] theorem required_eq_nil {p : List PathElem} {v detail : String} :
    required p v detail = [] ↔ v ≠ "" := by
  unfold required; split_ifs <;> simp_all

theorem referencesErrors_eq_nil (i : Nat) (refs : List SchemaReference) :
    referencesErrors i refs = [] ↔ ∀ ref ∈ refs, ref.name ≠ "" ∧ ref.subject ≠ "" ∧ 1 ≤ ref.version := by
  induction refs generalizing i with
  | nil => simp [referencesErrors]
  | cons ref refs ih =>
    simp only [referencesErrors, List.append_eq_nil, ih, List.forall_mem_cons, referenceErrors,
      required_eq_nil, ite_eq_right_iff, List.cons_ne_nil, imp_false, Int.not_lt]
    tauto

/-- A Schema is admitted when its subject, schema and `registryRef.name` are set, an AVRO or
JSON schema is valid JSON, and every reference has a name, a subject and a version of at
least 1. -/
theorem validateSchemaSpec_eq_nil (jsonValid : String → Bool) (obj : Schema) :
    validateSchemaSpec jsonValid obj = [] ↔
      obj.spec.subject ≠ "" ∧ obj.spec.schema ≠ "" ∧ obj.spec.registryRef.name ≠ "" ∧
      ((obj.spec.schemaType = .avro ∨ obj.spec.schemaType = .json) → jsonValid obj.spec.schema = true) ∧
      ∀ ref ∈ obj.spec.references, ref.name ≠ "" ∧ ref.subject ≠ "" ∧ 1 ≤ ref.version := by
  simp only [validateSchemaSpec, List.append_eq_nil, required_eq_nil, referencesErrors_eq_nil,
    ite_eq_right_iff, List.cons_ne_nil, imp_false, not_and, Bool.not_eq_false]
  constructor
  · rintro ⟨⟨⟨⟨hs, hc⟩, hn⟩, hj⟩, hr⟩
    exact ⟨hs, hc, hn, fun ht => hj ht hc, hr⟩
  · rintro ⟨hs, hc, hn, hj, hr⟩
    exact ⟨⟨⟨⟨hs, hc⟩, hn⟩, fun ht _ => hj ht⟩, hr⟩

/-- An update is admitted exactly when it keeps `subject` and `schemaType` and the new object
is admitted; `registryRef` and everything else may change. -/
theorem validateUpdate_eq_nil (jsonValid : String → Bool) (oldObj newObj : Schema) :
    validateUpdate jsonValid oldObj newObj = [] ↔
      oldObj.spec.subject = newObj.spec.subject ∧ oldObj.spec.schemaType = newObj.spec.schemaType ∧
        validateSchemaSpec jsonValid newObj = [] := by
  unfold validateUpdate
  rcases validateSchemaSpec jsonValid newObj with _ | ⟨e, es⟩ <;> split_ifs <;> simp_all

/-! ## `SchemaRegistry` -/

/-- The check of one auth strategy's block: it must be set, and name its Secret. -/
def authBlockErrors (block type refField : String) (ref : Option String) : List FieldError :=
  match ref with
  | none => [⟨.required, path ["spec", "auth", block], "",
      block ++ " must be set when auth type is " ++ type⟩]
  | some r => required (path ["spec", "auth", block, refField]) r
      (block ++ "." ++ refField ++ " must not be empty")

/-- The checks of `spec.auth`. -/
def authErrors : Option AuthConfig → List FieldError
  | none => []
  | some auth =>
    match auth.type with
    | .basic => authBlockErrors "basicAuth" "BASIC" "secretRef" (auth.basicAuth.map (·.secretRef))
    | .bearer => authBlockErrors "bearerAuth" "BEARER" "secretRef" (auth.bearerAuth.map (·.secretRef))
    | .mtls => authBlockErrors "mtls" "MTLS" "certSecretRef" (auth.mtls.map (·.certSecretRef))
    | .none => []

/-- `validateSchemaRegistrySpec`, behind both `ValidateCreate` and `ValidateUpdate`. -/
def validateSchemaRegistrySpec (obj : SchemaRegistry) : List FieldError :=
  required (path ["spec", "url"]) obj.spec.url "url must not be empty" ++
  (if obj.spec.timeout < 0 then
    [⟨.invalid, path ["spec", "timeout"], toString obj.spec.timeout, "timeout must be >= 0"⟩]
  else []) ++
  authErrors obj.spec.auth

theorem authBlockErrors_eq_nil {block type refField : String} {ref : Option String} :
    authBlockErrors block type refField ref = [] ↔ ∃ r, ref = some r ∧ r ≠ "" := by
  unfold authBlockErrors; cases ref <;> simp

/-- A SchemaRegistry is admitted when its URL is set, its timeout is not negative, and its
strategy's block is set and names a Secret. -/
theorem validateSchemaRegistrySpec_eq_nil (obj : SchemaRegistry) :
    validateSchemaRegistrySpec obj = [] ↔
      obj.spec.url ≠ "" ∧ 0 ≤ obj.spec.timeout ∧
      ∀ auth, obj.spec.auth = some auth →
        (auth.type = .basic → ∃ b, auth.basicAuth = some b ∧ b.secretRef ≠ "") ∧
        (auth.type = .bearer → ∃ b, auth.bearerAuth = some b ∧ b.secretRef ≠ "") ∧
        (auth.type = .mtls → ∃ m, auth.mtls = some m ∧ m.certSecretRef ≠ "") := by
  simp only [validateSchemaRegistrySpec, List.append_eq_nil, required_eq_nil, ite_eq_right_iff,
    List.cons_ne_nil, imp_false, Int.not_lt]
  rcases obj.spec.auth with _ | ⟨_ | _ | _ | _, b, br, m⟩ <;>
    simp [authErrors, authBlockErrors_eq_nil, and_assoc]

end Webhook

end SchemaOperator
