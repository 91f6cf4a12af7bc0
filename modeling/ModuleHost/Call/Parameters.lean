import ModuleHost.Json.Typed
import ModuleHost.Json.Printer

/-!
# Call parameters

Data that accompanies a service call. The host passes it on unread; guests ask for its text.

* `Particle`, `Tetraplet`, `CallParameters` — the parameters, each member with a neutral default;
* `CallParameters.text` — their JSON text, members in order of declaration;
* `CallParameters.parse` — the parameters of a text; absent members keep their defaults.
-/

namespace ModuleHost

open Json (Reader Member)

/-- The particle that caused a call. -/
structure Particle where
  /-- Id of the particle whose execution resulted in the call. -/
  id : String := ""
  /-- Peer id of the script initiator. -/
  initPeerId : String := ""
  /-- Unix time of the particle's start, in milliseconds. -/
  timestamp : UInt64 := 0
  /-- Time to live, in milliseconds. -/
  ttl : UInt32 := 0
  /-- Script carried by the particle. -/
  script : String := ""
  /-- Signature made by the initiator. -/
  signature : List UInt8 := []
  /-- Signature countersigned by the host. -/
  token : String := ""
  deriving DecidableEq

/-- Where an argument of a call comes from. -/
structure Tetraplet where
  /-- Peer on which the value was set. -/
  peerPk : String := ""
  /-- Service that produced the value. -/
  serviceId : String := ""
  /-- Function that produced the value. -/
  functionName : String := ""
  /-- Path applied to the output of the function. -/
  lens : String := ""
  deriving DecidableEq

/-- The parameters of a call. -/
structure CallParameters where
  particle : Particle := {}
  /-- Id of the service being called. -/
  serviceId : String := ""
  /-- Peer that created the service. -/
  serviceCreatorPeerId : String := ""
  /-- Peer hosting the service. -/
  hostId : String := ""
  /-- Worker hosting the service. -/
  workerId : String := ""
  /-- One list for each argument of the call. -/
  tetraplets : List (List Tetraplet) := []
  deriving DecidableEq

/-! ## Writing -/

/-- The object of a particle. -/
def Particle.toJson (p : Particle) : Json :=
  .fields [("id", .string p.id), ("init_peer_id", .string p.initPeerId),
    ("timestamp", .nat p.timestamp), ("ttl", .nat p.ttl.toUInt64), ("script", .string p.script),
    ("signature", .array (p.signature.map fun b => .nat b.toUInt64)), ("token", .string p.token)]

/-- The object of a tetraplet. -/
def Tetraplet.toJson (t : Tetraplet) : Json :=
  .fields [("peer_pk", .string t.peerPk), ("service_id", .string t.serviceId),
    ("function_name", .string t.functionName), ("lens", .string t.lens)]

namespace CallParameters

/-- The object of the parameters. -/
def toJson (p : CallParameters) : Json :=
  .fields [("particle", p.particle.toJson), ("service_id", .string p.serviceId),
    ("service_creator_peer_id", .string p.serviceCreatorPeerId), ("host_id", .string p.hostId),
    ("worker_id", .string p.workerId),
    ("tetraplets", .array (p.tetraplets.map fun ts => .array (ts.map Tetraplet.toJson)))]

/-- The JSON text of the parameters. -/
def text (p : CallParameters) : String := p.toJson.compact

end CallParameters

/-! ## Reading -/

/-- The members of a particle. -/
def Particle.members : List (Member Particle) :=
  [.ofOptional "id" Reader.text fun p s => { p with id := s },
   .ofOptional "init_peer_id" Reader.text fun p s => { p with initPeerId := s },
   .ofOptional "timestamp" (Reader.natural 0x10000000000000000) fun p n =>
     { p with timestamp := UInt64.ofNat n },
   .ofOptional "ttl" (Reader.natural 0x100000000) fun p n => { p with ttl := UInt32.ofNat n },
   .ofOptional "script" Reader.text fun p s => { p with script := s },
   .ofOptional "signature" (Reader.list (Reader.natural 0x100)) fun p ns =>
     { p with signature := ns.map UInt8.ofNat },
   .ofOptional "token" Reader.text fun p s => { p with token := s }]

/-- The members of a tetraplet. -/
def Tetraplet.members : List (Member Tetraplet) :=
  [.ofOptional "peer_pk" Reader.text fun t s => { t with peerPk := s },
   .ofOptional "service_id" Reader.text fun t s => { t with serviceId := s },
   .ofOptional "function_name" Reader.text fun t s => { t with functionName := s },
   .ofOptional "lens" Reader.text fun t s => { t with lens := s }]

namespace CallParameters

/-- The members of the parameters. -/
def members : List (Member CallParameters) :=
  [.ofOptional "particle" (Reader.record Particle.members {}) fun p x => { p with particle := x },
   .ofOptional "service_id" Reader.text fun p s => { p with serviceId := s },
   .ofOptional "service_creator_peer_id" Reader.text fun p s =>
     { p with serviceCreatorPeerId := s },
   .ofOptional "host_id" Reader.text fun p s => { p with hostId := s },
   .ofOptional "worker_id" Reader.text fun p s => { p with workerId := s },
   .ofOptional "tetraplets" (Reader.list (Reader.list (Reader.record Tetraplet.members {})))
     fun p ts => { p with tetraplets := ts }]

/-- The parameters of a text. -/
def parse (raw : Text) : Except Json.ReadError CallParameters :=
  (Reader.record members {}).whole raw

end CallParameters

end ModuleHost
