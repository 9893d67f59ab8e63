import NodusVision.Pilot.Messages
import NodusVision.Text.Schema

/-! The request schemas that `openapi.yaml` pins for Pilot. A `format` is an annotation. -/
namespace NodusVision.Pilot
open Text

def identifierSchema : Schema := .text true 128

def nonNegativeInt64 : Schema := .integer 0 9223372036854775807

def positiveInt64 : Schema := .integer 1 9223372036854775807

def componentType : Schema :=
  .choice (["input_source", "camera", "policy", "ui", "observer", "service_provider"].map ascii)

def endpointProtocol : Schema := .choice (["http", "https"].map ascii)

def endpointMediaType : Schema := .text true 128

def endpointSchemaId : Schema := .oneOf (.text true 256) .null

/-- Its names are bounded by the encoded size alone. -/
def endpointMetadata : Schema := .bounded 1024 4 (.free none)

def endpointServiceContract : Schema :=
  .object [(ascii "method", .choice (["GET", "POST", "PUT", "DELETE"].map ascii)),
    (ascii "request_schema_id", endpointSchemaId),
    (ascii "response_schema_id", endpointSchemaId)]

def endpointStreamContract : Schema :=
  .object [(ascii "clock_domain", .choice
      (["monotonic_same_host", "unix_epoch_synchronized", "provider_defined"].map ascii)),
    (ascii "stream_group_id", .oneOf (.text true 128) .null)]

def descriptorFields (kind : String) (service stream : Schema) : List (ByteString × Schema) :=
  [(ascii "descriptor_id", identifierSchema),
    (ascii "kind", .choice [ascii kind]),
    (ascii "capability", identifierSchema),
    (ascii "contract_version", positiveInt64),
    (ascii "protocol", endpointProtocol),
    (ascii "endpoint", .text true 2048),
    (ascii "media_type", endpointMediaType),
    (ascii "schema_id", endpointSchemaId),
    (ascii "metadata", endpointMetadata),
    (ascii "service", service),
    (ascii "stream", stream)]

def endpointServiceDescriptor : Schema :=
  .object (descriptorFields "service" endpointServiceContract .null)

def endpointStreamDescriptor : Schema :=
  .object (descriptorFields "stream" .null endpointStreamContract)

def endpointDescriptor : Schema := .oneOf endpointServiceDescriptor endpointStreamDescriptor

def endpointCatalogPublicationRequest : Schema :=
  .object [(ascii "schema_version", .integer 1 1),
    (ascii "publication_id", identifierSchema),
    (ascii "expected_catalog_generation", nonNegativeInt64),
    (ascii "descriptors", .array 0 none endpointDescriptor)]

def commonStateSchema : Schema :=
  .bounded 8192 8 (.object
    [(ascii "health", .choice (["starting", "ready", "degraded", "faulted", "stopping"].map ascii)),
      (ascii "reason", .oneOf (.text false 256) .null),
      (ascii "details", .free (some 128))])

def componentRegistrationRequest : Schema :=
  .object [(ascii "component_id", identifierSchema),
    (ascii "instance_id", identifierSchema),
    (ascii "component_type", componentType),
    (ascii "protocol_version", .integer 1 1),
    (ascii "supported_schema_versions", .array 1 (some 16) positiveInt64),
    (ascii "capabilities", .array 0 (some 32) identifierSchema),
    (ascii "service_endpoints", .object []),
    (ascii "initial_state", commonStateSchema),
    (ascii "started_at", nonNegativeInt64),
    (ascii "metadata", .bounded 8192 8 (.free (some 128))),
    (ascii "clock_domain", .choice
      (["monotonic_same_host", "unix_epoch_synchronized"].map ascii))]

end NodusVision.Pilot
