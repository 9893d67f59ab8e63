import Mathlib.Data.List.TakeWhile
import NodusVision.Pilot.Catalog

/-! The request target that a client derives from an endpoint URL. -/
namespace NodusVision.Pilot
open Text Config

/-- The path part of an absolute HTTP URL without query and fragment. -/
def urlPath (url : ByteString) : ByteString := (url.drop httpPrefix.length).dropWhile (· != 47)

/-- What `makeEndpoint` leaves of the path of the base URL. -/
def basePath (path : ByteString) : ByteString :=
  if path.getLast? = some 47 then path.dropLast else path

end NodusVision.Pilot
