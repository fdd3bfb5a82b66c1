import ServiceHarness.Fault
import ServiceHarness.Http.Status
import ServiceHarness.Url.Basic

/-!
# Probes over HTTP

One probe is one request for a URL.  What comes of the request is an `Exchange`; a `Network`
gives each target its exchange.  `probe` refuses what is no URL with the scheme `http` or
`https` before any request is sent; after that only the server can fail it, and a later
probe may succeed.
-/

namespace ServiceHarness.Http

/-- What comes of a request, redirects included. -/
inductive Exchange where
  /-- The last response has a status and came from a URL. -/
  | answered (status : Nat) (url : String)
  /-- There was no such response. -/
  | failed (reason : String)
  deriving DecidableEq, Repr

/-- What comes of a request for a target. -/
abbrev Network := Url.Target → Exchange

/-- What a probe makes of an exchange: a status that blames someone is not ready. -/
def Exchange.outcome : Exchange → Except ProbeFault Unit
  | .failed reason => .error (.notReady reason)
  | .answered status url =>
    if isClientError status then
      .error (.notReady s!"HTTP status client error ({statusText status}) for url ({url})")
    else if isServerError status then
      .error (.notReady s!"HTTP status server error ({statusText status}) for url ({url})")
    else .ok ()

/-- The target of a probe, or why the text is none. -/
def target (url : String) : Except ProbeFault Url.Target :=
  match Url.parse url with
  | .error fault => .error (.malformed s!"{url}: {fault.message}")
  | .ok (.other scheme) => .error (.malformed s!"unsupported scheme '{scheme}' in {url}")
  | .ok (.target t) => .ok t.withoutCredentials

/-- Probes a URL once. -/
def probe (network : Network) (url : String) : Except ProbeFault Unit := do
  (network (← target url)).outcome

/-- Whether a request can name the host. -/
def isRequestable : Url.Host → Bool
  | .domain name => !name.toList.any fun c => "\"`\x7b\x7d".contains c
  | _ => true

/-- The network on which no server can be reached. -/
def unreachable : Network := fun t =>
  if isRequestable t.host then .failed s!"error sending request for url ({t.text})"
  else .failed s!"builder error for url ({t.text})"

end ServiceHarness.Http
