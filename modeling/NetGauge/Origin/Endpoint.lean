import NetGauge.Origin.Basic

set_option autoImplicit false

/-! # Endpoints

The endpoint of a backend is the socket that its origin leads to: at the same authority, secure when
the origin is, and with a path of its own. -/

namespace NetGauge

/-- Why a text leads to no endpoint. -/
inductive EndpointError where
  | invalid (origin : String) (fault : Origin.Fault)
  | scheme (name : String)
  deriving DecidableEq

def EndpointError.message : EndpointError → String
  | .invalid origin fault => "invalid origin `" ++ origin ++ "`: " ++ fault.message
  | .scheme name => "unsupported scheme `" ++ name ++ "`, expected http(s) or ws(s)"

namespace Endpoint

/-- Where a backend listens for sockets. -/
def path : String := "/ws"

/-- The scheme of sockets that stands for a scheme of the web. -/
def socketScheme? (name : String) : Option Origin.WebScheme :=
  if name = "http" ∨ name = "ws" then some ⟨false, true⟩
  else if name = "https" ∨ name = "wss" then some ⟨true, true⟩
  else none

/-- The endpoint of a sound origin: the scheme and the path of sockets in the place of its own, without
    query and fragment. -/
def ofOrigin (o : Origin) : Except EndpointError Origin.Url :=
  match socketScheme? o.schemeName with
  | none => .error (.scheme o.schemeName)
  | some scheme =>
    match o.withScheme? scheme with
    | some url => .ok (((url.withPath path).withQuery none).withFragment none)
    | none => .error (.scheme scheme.name)

/-- The endpoint that a text leads to. Blanks around it do not count. -/
def ofText (text : String) : Except EndpointError Origin.Url :=
  let origin := Text.trim text
  match Origin.parse origin with
  | .ok o => ofOrigin o
  | .error fault => .error (.invalid origin fault)

end Endpoint

end NetGauge
