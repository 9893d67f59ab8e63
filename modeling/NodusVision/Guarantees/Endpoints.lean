import NodusVision.Application.Routes
import NodusVision.Config.Accepted
import NodusVision.Guarantees.PilotContract

/-! Whether the endpoints in the catalog can be requested from the provider. -/
namespace NodusVision.Guarantees
open Text Config Pilot Provider Application

/-- Header limits from 1 on are accepted, and no request is read under one this small. -/
theorem not_fits_of_limit {setup : SessionSetup} {sent : SentRequest}
    (hlimit : setup.maxHeaderBytes < 14) : ¬ sent.Fits setup := by
  rintro ⟨hheader, -⟩
  have hversion : (ascii (if sent.version = 10 then " HTTP/1.0" else " HTTP/1.1")).length = 9 := by
    split <;> decide
  have hblank : (ascii " ").length = 1 := by decide
  have hcrlf : crlf.length = 2 := by decide
  have hlong : 14 ≤ sent.header.length := by
    simp only [SentRequest.header, SentRequest.requestLine, List.length_append, hversion, hblank,
      hcrlf]
    omega
  omega

end NodusVision.Guarantees
