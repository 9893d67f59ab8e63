import NodusVision.Config.Accepted

/-! The checks of the HTTP transport when it is constructed. -/
namespace NodusVision.Pilot
open Text Config Program

structure ParsedBaseUrl where
  host : ByteString
  port : ByteString
  basePath : ByteString

def invalidUrl {α : Type} (what : String) : Parsed α := .error (.invalidArgument what)

def parseBaseUrl (baseUrl : ByteString) : Parsed ParsedBaseUrl :=
  if !httpPrefix.isPrefixOf baseUrl || (ascii "@?#").any baseUrl.contains then
    invalidUrl "Pilot base URL must be an absolute HTTP URL."
  else
    let digits := portText (authority baseUrl)
    if !(authority baseUrl).contains 58 || digits.length + 1 == (authority baseUrl).length ||
        digits.isEmpty then
      invalidUrl "Pilot base URL must contain a host and explicit port."
    else if !digits.all isDigit then invalidUrl "Pilot base URL port is invalid."
    else do
      let port ← stoi digits
      if port < 1 ∨ 65535 < port then
        invalidUrl "Pilot base URL port is outside the valid range."
      else
        .ok {
          host := (authority baseUrl).take ((authority baseUrl).length - digits.length - 1)
          port := digits
          basePath := baseUrl.drop (httpPrefix.length + (authority baseUrl).length) }

/-- The bounds of the transport, which it checks after the URL. -/
structure TransportBounds where
  connectTimeoutMs : ℤ
  requestTimeoutMs : ℤ
  maxResponseBytes : ℤ

def makePilotHttpTransport (baseUrl : ByteString) (bounds : TransportBounds) :
    Parsed ParsedBaseUrl := do
  let url ← parseBaseUrl baseUrl
  if bounds.connectTimeoutMs ≤ 0 ∨ bounds.requestTimeoutMs ≤ 0 ∨ bounds.maxResponseBytes ≤ 0 then
    invalidUrl "Pilot transport bounds must be positive."
  else .ok url

/-- The transport splits the URLs that the configuration accepts. -/
theorem parseBaseUrl_ok {url : ByteString} (h : isAdvertisedUrlValid url = .ok true) :
    ∃ parsed, parseBaseUrl url = .ok parsed := by
  obtain ⟨port, hvalid⟩ := isAdvertisedUrlValid_iff.mp h
  have hexcluded : (ascii "@?#").any url.contains = false := by
    have hstar : ascii "*@?#" = 42 :: ascii "@?#" := rfl
    have hall := hvalid.excluded
    rw [hstar, List.any_cons, Bool.or_eq_false_iff] at hall
    exact hall.2
  have hne : (portText (authority url)).isEmpty = false := by
    simpa using hvalid.nonempty
  have hhost : ((portText (authority url)).length + 1 == (authority url).length) = false := by
    simpa using hvalid.host
  have hrange : ¬ (port < 1 ∨ 65535 < port) := by
    have := hvalid.range
    omega
  use {
    host := (authority url).take ((authority url).length - (portText (authority url)).length - 1)
    port := portText (authority url)
    basePath := url.drop (httpPrefix.length + (authority url).length) }
  unfold parseBaseUrl
  rw [hvalid.scheme, hexcluded, Bool.not_true, Bool.or_self, if_neg Bool.false_ne_true]
  dsimp only
  rw [hvalid.separator, hhost, hne, hvalid.digits, Bool.not_true, Bool.or_self, Bool.or_self,
    if_neg Bool.false_ne_true, if_neg Bool.false_ne_true, hvalid.number]
  exact if_neg hrange

/-- The bounds of the transport that `startClient` constructs. -/
def Http.clientBounds (config : PilotConfig) : TransportBounds where
  connectTimeoutMs := config.connectTimeoutMs
  requestTimeoutMs := min config.requestTimeoutMs config.shutdownTimeoutMs
  maxResponseBytes := config.maxResponseBytes

theorem makePilotHttpTransport_ok {config : PilotConfig} (h : config.Accepted)
    (hrange : config.InRange) :
    ∃ url, makePilotHttpTransport config.baseUrl (Http.clientBounds config) = .ok url := by
  obtain ⟨url, hurl⟩ := parseBaseUrl_ok h.baseUrl
  have hconnect := h.connectTimeoutMs
  have hrequest := h.requestTimeoutMs
  have hshutdown := hrange.shutdownTimeoutMs
  have hmax := h.maxResponseBytes
  use url
  unfold makePilotHttpTransport
  rw [hurl]
  exact if_neg (by dsimp only [Http.clientBounds]; omega)

end NodusVision.Pilot
