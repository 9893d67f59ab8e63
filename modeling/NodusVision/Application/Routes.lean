import NodusVision.Pilot.Endpoint
import NodusVision.Provider.Dispatch

/-! The routes that the application registers, and the endpoints that it publishes. -/
namespace NodusVision.Application
open Text Config Pilot Provider

/-- The callbacks given to the server. Those of the recording answer also when it is disabled. -/
def applicationRoutes (config : VisionConfig) : SessionSetup where
  allowedOrigins := config.provider.allowedOrigins
  registered := fun route =>
    match route with
    | .colorSnapshot => isColorEnabled config
    | _ => true
  streamRegistered := fun kind =>
    match kind with
    | .color => isColorEnabled config
    | .depth => true
  maxHeaderBytes := config.provider.maxHeaderBytes.toNat
  maxBodyBytes := config.provider.maxBodyBytes.toNat

def descriptorMethod (d : PilotEndpointDescriptor) : ByteString :=
  if d.isStream then ascii "GET" else d.service.method

variable {geometry : CameraGeometry} {config : VisionConfig} {d : PilotEndpointDescriptor}
  {sent : SentRequest}

/-- A path of the table under the base URL, with its method, and registered. -/
inductive Published (config : VisionConfig) (d : PilotEndpointDescriptor) : Prop
  | route (route : Route) (path : String)
      (endpoint : d.endpoint = makeEndpoint config.provider.advertisedBaseUrl path)
      (target : ascii path = route.target)
      (method : HttpMethod.ofName (descriptorMethod d) = route.method)
      (registered : (applicationRoutes config).registered route = true)
  | stream (kind : ProviderStreamKind) (path : String)
      (endpoint : d.endpoint = makeEndpoint config.provider.advertisedBaseUrl path)
      (target : ascii path = kind.target)
      (method : HttpMethod.ofName (descriptorMethod d) = .get)
      (registered : (applicationRoutes config).streamRegistered kind = true)

theorem mem_catalog :
    d ∈ (buildCatalog geometry config).descriptors ↔ d ∈ addedDescriptors geometry config :=
  (List.perm_insertionSort _ _).mem_iff

end NodusVision.Application
