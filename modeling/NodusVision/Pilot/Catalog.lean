import Mathlib.Data.List.Sort
import NodusVision.Config.VisionConfig
import NodusVision.Pilot.Codec

/-! The endpoint catalog that the client publishes. -/
namespace NodusVision.Pilot
open Text Config

/-- The fixed camera transform. Its floating-point arithmetic stays open; what `validateMatrix` lets
through is 16 numbers of a rotation and of an allowed translation. -/
structure CameraGeometry where
  /-- `mount_from_camera_optical_matrix4x4` -/
  mountMatrix : CalibrationConfig → List ℚ
  length_mountMatrix : ∀ c, (mountMatrix c).length = 16
  mountMatrix_bounded : ∀ c, ∀ v ∈ mountMatrix c, -(maxInt64Value : ℚ) ≤ v ∧ v ≤ maxInt64Value

structure VisionEndpointCatalog where
  descriptors : List PilotEndpointDescriptor
  capabilities : List ByteString

variable (geometry : CameraGeometry) (config : VisionConfig)

def buildVisionStaticMetadata : JsonObject :=
  [(ascii "device_id", .string config.deviceId),
    (ascii "sensor_frame", .string config.calibration.sensorFrame),
    (ascii "mount_frame", .string config.calibration.mountFrame),
    (ascii "calibration_id", .string config.calibration.calibrationId),
    (ascii "mount_from_camera_optical_matrix4x4",
      .array ((geometry.mountMatrix config.calibration).map .double)),
    (ascii "api_version", .string (ascii "1.3.0"))]

def makeEndpoint (baseUrl : ByteString) (path : String) : ByteString :=
  (if baseUrl.getLast? = some 47 then baseUrl.dropLast else baseUrl) ++ ascii path

def makeService (descriptorId capability path mediaType schemaId method requestSchemaId : String) :
    PilotEndpointDescriptor where
  descriptorId := ascii descriptorId
  capability := ascii capability
  endpoint := makeEndpoint config.provider.advertisedBaseUrl path
  mediaType := ascii mediaType
  schemaId := ascii schemaId
  metadata := buildVisionStaticMetadata geometry config
  service :=
    { method := ascii method
      requestSchemaId := ascii requestSchemaId
      responseSchemaId := ascii schemaId }

def streamGroupId : ByteString := config.componentId ++ ascii ".capture"

def makeStream (descriptorId capability path schemaId : String) : PilotEndpointDescriptor where
  descriptorId := ascii descriptorId
  capability := ascii capability
  endpoint := makeEndpoint config.provider.advertisedBaseUrl path
  mediaType := ascii "multipart/x-mixed-replace"
  schemaId := ascii schemaId
  metadata := buildVisionStaticMetadata geometry config
  isStream := true
  stream := { clockDomain := ascii "monotonic_same_host", streamGroupId := streamGroupId config }

def isColorEnabled : Bool :=
  match config.device with
  | .fake _ => true
  | .intelD435 d435 => d435.enableColor

def baseDescriptors : List PilotEndpointDescriptor :=
  [makeService geometry config "health" "camera.health.get" "/health" "application/json"
      "nodus.vision.health.response.v1" "GET" "",
    makeService geometry config "metadata" "camera.metadata.get" "/metadata" "application/json"
      "nodus.vision.metadata.response.v1" "GET" "",
    makeStream geometry config "depth-preview" "camera.stream.depth.preview" "/stream/depth.mjpg"
      "nodus.vision.mjpeg.depth_part.v1",
    makeService geometry config "depth-snapshot" "camera.snapshot.depth.preview" "/snapshot/depth"
      "image/jpeg" "nodus.vision.jpeg.depth_preview.v1" "GET" "",
    makeService geometry config "roi-depth" "camera.query.roi_depth" "/query/roi_depth"
      "application/json" "nodus.vision.roi_depth.response.v1" "POST"
      "nodus.vision.roi_depth.request.v1",
    makeService geometry config "pixel-to-point" "camera.query.pixel_to_point"
      "/query/pixel_to_point" "application/json" "nodus.vision.pixel_point.response.v1" "POST"
      "nodus.vision.pixel_point.request.v1",
    makeService geometry config "pointcloud-binary" "camera.snapshot.pointcloud"
      "/snapshot/pointcloud.bin" "application/octet-stream" "nodus.vision.pointcloud.pcd1.v2" "GET" ""]

def colorDescriptors : List PilotEndpointDescriptor :=
  [makeStream geometry config "color-preview" "camera.stream.color.preview" "/stream/color.mjpg"
      "nodus.vision.mjpeg.color_part.v1",
    makeService geometry config "color-snapshot" "camera.snapshot.color" "/snapshot/color"
      "image/jpeg" "nodus.vision.jpeg.color.v1" "GET" ""]

def recordingDescriptors : List PilotEndpointDescriptor :=
  [makeService geometry config "recording-start" "camera.recording.start" "/recordings/start"
      "application/json" "nodus.vision.recording.start.response.v1" "POST"
      "nodus.vision.recording.start.request.v1",
    makeService geometry config "recording-stop" "camera.recording.stop" "/recordings/stop"
      "application/json" "nodus.vision.recording.stop.response.v1" "POST"
      "nodus.vision.recording.stop.request.v1",
    makeService geometry config "recording-current" "camera.recording.current" "/recordings/current"
      "application/json" "nodus.vision.recording.current.response.v1" "GET" ""]

/-- In the order in which they are added. -/
def addedDescriptors : List PilotEndpointDescriptor :=
  baseDescriptors geometry config ++
    (if isColorEnabled config then colorDescriptors geometry config else []) ++
    (if config.recording.enabled then recordingDescriptors geometry config else [])

/-- `std::sort`; the ids and the capabilities are pairwise different. -/
def sortBytes {α : Type} (key : α → ByteString) (items : List α) : List α :=
  items.insertionSort fun a b => byteLess (key b) (key a) = false

def buildCatalog : VisionEndpointCatalog :=
  let descriptors := sortBytes (·.descriptorId) (addedDescriptors geometry config)
  { descriptors
    capabilities := sortBytes id (descriptors.map (·.capability)) }

end NodusVision.Pilot
