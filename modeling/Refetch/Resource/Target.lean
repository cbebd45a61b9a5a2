/-
# Targets, the machines to which applications are deployed
-/

import Refetch.Resource.Page

namespace Refetch

/-- How far the configuration of a target got. -/
inductive TargetStatus where
  | configuring
  | failed
  | ready
  deriving DecidableEq, Repr, Inhabited

namespace TargetStatus

def number : TargetStatus → UInt8
  | .configuring => 0
  | .failed => 1
  | .ready => 2

def ofNumber (n : UInt8) : Except DecodeError TargetStatus :=
  if n = 0 then .ok .configuring
  else if n = 1 then .ok .failed
  else if n = 2 then .ok .ready
  else .error (.unknownStatus "target" n.toNat)

def codec : Codec TargetStatus := Codec.u8.refine ofNumber number

end TargetStatus

structure TargetState where
  status : TargetStatus
  errorCode : Option String
  lastReadyVersion : Option String
  deriving DecidableEq, Repr, Inhabited

namespace TargetState

def fields : Fields TargetState :=
  TargetState.mk <$> .required "status" TargetStatus.codec <*> .optional "error_code" .text
    <*> .optional "last_ready_version" .text

def toJson (s : TargetState) : Json :=
  .obj [("error_code", Codec.text.option.encode s.errorCode),
    ("last_ready_version", Codec.text.option.encode s.lastReadyVersion),
    ("status", TargetStatus.codec.encode s.status)]

def codec : Codec TargetState := ⟨fields.record "TargetState", toJson⟩

end TargetState

/-- How to reach a container engine. -/
structure DockerConfig where
  host : Option String
  user : Option String
  port : Option UInt16
  privateKey : Option String
  deriving DecidableEq, Repr, Inhabited

namespace DockerConfig

/-- The members of an engine setting. -/
def fields : Fields DockerConfig :=
  DockerConfig.mk <$> .optional "host" .text <*> .optional "user" .text <*> .optional "port" .u16
    <*> .optional "private_key" .text

/-- The setting as an object; what is not set is left out. -/
def toJson (d : DockerConfig) : Json :=
  .obj (memberIf "host" .str d.host ++ memberIf "port" Codec.u16.encode d.port
    ++ memberIf "private_key" .str d.privateKey ++ memberIf "user" .str d.user)

/-- Engine settings. -/
def codec : Codec DockerConfig := ⟨fields.record "DockerConfig", toJson⟩

end DockerConfig

/-- What runs the containers of a target. -/
inductive ProviderConfig where
  | docker (config : DockerConfig)
  deriving DecidableEq, Repr, Inhabited

namespace ProviderConfig

/-- Kinds of providers: how each reads its settings. -/
def kinds : List (String × Decoder ProviderConfig) :=
  [("docker", fun t v => (DockerConfig.codec.decode t v).map .docker)]

/-- How messages call a provider. -/
def expected : String := "adjacently tagged enum ProviderConfig"

/-- Reads a provider: its kind beside its settings. In an object the settings come first, by the
order of the names, and are held back until the kind is known. In an array the kind comes first, and
it must be a bare name. -/
def decode : Decoder ProviderConfig
  | t, .obj members => match members.lookup "data", members.lookup "kind" with
    | some data, some kind => do (← Codec.decodeName kinds t kind) .heldBack data
    | none, some kind => do
      let _ ← Codec.decodeName kinds t kind
      throw (.missingField "data")
    | _, none => .error (.missingField "kind")
  | _, .arr [] => .error (.wrongLength 0 expected)
  | t, .arr [kind] => do
    let _ ← Codec.decodeBareName kinds t kind
    throw (.wrongLength 1 expected)
  | t, .arr (kind :: data :: more) => do
    let provider ← (← Codec.decodeBareName kinds t kind) t data
    if more.isEmpty then return provider
    else throw (.wrongLength (more.length + 2) "fewer elements in array")
  | _, v => .error (.wrongType v.found expected)

def toJson : ProviderConfig → Json
  | .docker config => .obj [("data", config.toJson), ("kind", .str "docker")]

def codec : Codec ProviderConfig := ⟨decode, toJson⟩

end ProviderConfig

structure Target where
  id : String
  name : String
  url : String
  provider : ProviderConfig
  state : TargetState
  cleanupRequestedAt : Option String
  createdAt : String
  createdBy : ByUser
  deriving DecidableEq, Repr, Inhabited

namespace Target

def fields : Fields Target :=
  Target.mk <$> .required "id" .text <*> .required "name" .text <*> .required "url" .text
    <*> .required "provider" ProviderConfig.codec <*> .required "state" TargetState.codec
    <*> .optional "cleanup_requested_at" .text <*> .required "created_at" .text
    <*> .required "created_by" ByUser.codec

def toJson (x : Target) : Json :=
  .obj [("cleanup_requested_at", Codec.text.option.encode x.cleanupRequestedAt),
    ("created_at", .str x.createdAt), ("created_by", x.createdBy.toJson), ("id", .str x.id),
    ("name", .str x.name), ("provider", x.provider.toJson), ("state", x.state.toJson),
    ("url", .str x.url)]

def codec : Codec Target := ⟨fields.record "Target", toJson⟩

end Target

/-- A request for a new target. -/
structure CreateTarget where
  name : String
  url : String
  docker : Option DockerConfig
  deriving DecidableEq, Repr, Inhabited

/-- The request as an object. -/
def CreateTarget.toJson (p : CreateTarget) : Json :=
  .obj (memberIf "docker" DockerConfig.toJson p.docker
    ++ [("name", .str p.name), ("url", .str p.url)])

/-- A change of an engine setting. -/
structure UpdateDocker where
  host : Option String
  user : Option String
  port : Option UInt16
  privateKey : Patch String
  deriving DecidableEq, Repr, Inhabited

/-- The change as an object. -/
def UpdateDocker.toJson (p : UpdateDocker) : Json :=
  .obj (memberIf "host" .str p.host ++ memberIf "port" Codec.u16.encode p.port
    ++ p.privateKey.members "private_key" .str ++ memberIf "user" .str p.user)

structure UpdateTarget where
  name : Option String
  url : Option String
  docker : Option UpdateDocker
  deriving DecidableEq, Repr, Inhabited

/-- The change as an object. -/
def UpdateTarget.toJson (p : UpdateTarget) : Json :=
  .obj (memberIf "docker" UpdateDocker.toJson p.docker ++ memberIf "name" .str p.name
    ++ memberIf "url" .str p.url)

end Refetch
