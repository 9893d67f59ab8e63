import NodusVision.Provider.Session

/-! A request as its client writes it, and what the read of a session makes of it. -/
namespace NodusVision.Provider
open Text

structure SentRequest where
  method : ByteString
  target : ByteString
  version : ℕ := 11
  fields : HeaderList := []
  body : ByteString := []

/-- `http::string_to_verb`, as far as the methods are told apart. -/
def HttpMethod.ofName (name : ByteString) : HttpMethod :=
  if name = ascii "GET" then .get
  else if name = ascii "POST" then .post
  else if name = ascii "OPTIONS" then .options
  else .other

namespace SentRequest

def requestLine (sent : SentRequest) : ByteString :=
  sent.method ++ ascii " " ++ sent.target ++
    ascii (if sent.version = 10 then " HTTP/1.0" else " HTTP/1.1") ++ crlf

/-- The bytes up to the empty line that ends the header. -/
def header (sent : SentRequest) : ByteString :=
  sent.requestLine ++ sent.fields.flatMap (fun f => f.1 ++ ascii ": " ++ f.2 ++ crlf) ++ crlf

/-- The first field of the name, however it is capitalised. -/
def origin (sent : SentRequest) : Option ByteString :=
  (sent.fields.find? fun f => lowercase f.1 == ascii "origin").map Prod.snd

/-- What the parser holds once it has read everything. -/
def request (sent : SentRequest) : HttpRequest where
  method := .ofName sent.method
  target := sent.target
  version := sent.version
  origin := sent.origin
  body := sent.body

/-- The end of the header is found within `header_limit`, and the body within `body_limit`. -/
def Fits (setup : SessionSetup) (sent : SentRequest) : Prop :=
  sent.header.length ≤ setup.maxHeaderBytes ∧ sent.body.length ≤ setup.maxBodyBytes

instance (setup : SessionSetup) (sent : SentRequest) : Decidable (sent.Fits setup) :=
  inferInstanceAs (Decidable (_ ∧ _))

end SentRequest

end NodusVision.Provider
