import ContainerRoster.Address

/-!
# Runtime endpoints

Where a runtime service listens: a socket in the file system, or an address on a network. The text
of an endpoint is the form in which messages show it, and it reads back as the same endpoint.
-/

namespace ContainerRoster

inductive Endpoint
  | unix (path : String)
  | tcp (address : String)
  deriving DecidableEq, Repr

namespace Endpoint

def text : Endpoint → String
  | unix path => "unix://" ++ path
  | tcp address => address

/-- The endpoint that a text names. A bare absolute path is a socket. -/
def parse (text : String) : Except Failure Endpoint :=
  match Address.after? "unix://" text with
  | some path =>
    if path.isEmpty then .error (.invalidEndpoint text .emptyPath) else .ok (unix path)
  | none =>
    if text.toList.head? == some '/' then .ok (unix text)
    else
      match Address.after? "tcp://" text with
      | some address =>
        if address.isEmpty then .error (.invalidEndpoint text .emptyAddress)
        else .ok (tcp ("http://" ++ address))
      | none =>
        if (Address.after? "http://" text).isSome || (Address.after? "https://" text).isSome then
          .ok (tcp text)
        else .error (.invalidEndpoint text .unknownProtocol)

/-- The sockets that runtimes usually listen on. -/
def usual : List Endpoint :=
  [unix "/run/containerd/containerd.sock", unix "/run/crio/crio.sock",
   unix "/var/run/cri-dockerd.sock"]

end Endpoint

/-- The services, by endpoint; where none answers, the causes of that, the nearest first. -/
abbrev Services := Endpoint → Except (List String) Runtime

namespace Services

/-- The runtime at an endpoint. -/
def connect (services : Services) (endpoint : Endpoint) : Except Failure Runtime :=
  match endpoint with
  | .tcp address =>
    match Address.problem? address with
    | some cause => .error (.invalidEndpoint address cause)
    | none => reach endpoint
  | .unix _ => reach endpoint
where
  reach (endpoint : Endpoint) : Except Failure Runtime :=
    match services endpoint with
    | .ok runtime => .ok runtime
    | .error causes => .error (.connection (.unreachable endpoint.text causes))

/-- The runtime at a configured endpoint, or else the first of the usual ones that answers. -/
def find (services : Services) : Option String → Except Failure Runtime
  | some text => do services.connect (← Endpoint.parse text)
  | none =>
    match Endpoint.usual.findSome? fun endpoint => (services endpoint).toOption with
    | some runtime => .ok runtime
    | none => .error (.connection (.noneAnswered (Endpoint.usual.map Endpoint.text)))

end Services

end ContainerRoster
