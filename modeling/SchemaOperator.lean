import SchemaOperator.Api
import SchemaOperator.Store
import SchemaOperator.Url
import SchemaOperator.Client
import SchemaOperator.Registry
import SchemaOperator.Auth
import SchemaOperator.Webhook
import SchemaOperator.Runtime
import SchemaOperator.SchemaController
import SchemaOperator.SchemaPass
import SchemaOperator.RegistryController
import SchemaOperator.Ownership
import SchemaOperator.Registration
import SchemaOperator.Convergence
import SchemaOperator.Writes
