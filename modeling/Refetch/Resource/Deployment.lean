/-
# Deployments of an application
-/

import Refetch.Request
import Refetch.Resource.Page

namespace Refetch

/-- How far a deployment got. -/
inductive DeploymentStatus where
  | pending
  | running
  | failed
  | succeeded
  deriving DecidableEq, Repr, Inhabited

namespace DeploymentStatus

def number : DeploymentStatus → UInt8
  | .pending => 0
  | .running => 1
  | .failed => 2
  | .succeeded => 3

def ofNumber (n : UInt8) : Except DecodeError DeploymentStatus :=
  if n = 0 then .ok .pending
  else if n = 1 then .ok .running
  else if n = 2 then .ok .failed
  else if n = 3 then .ok .succeeded
  else .error (.unknownStatus "deployment" n.toNat)

def codec : Codec DeploymentStatus := Codec.u8.refine ofNumber number

end DeploymentStatus

/-- Where an application runs. -/
inductive Environment where
  | production
  | staging
  deriving DecidableEq, Repr, Inhabited

namespace Environment

def name : Environment → String
  | .production => "production"
  | .staging => "staging"

/-- Environments by their names. -/
def codec : Codec Environment :=
  .byName [("production", .production), ("staging", .staging)] name

end Environment

/-- What kind of source a deployment was made from. -/
inductive SourceKind where
  | archive
  | git
  | raw
  deriving DecidableEq, Repr, Inhabited

namespace SourceKind

def name : SourceKind → String
  | .archive => "archive"
  | .git => "git"
  | .raw => "raw"

/-- Kinds by their names. -/
def codec : Codec SourceKind :=
  .byName [("archive", .archive), ("git", .git), ("raw", .raw)] name

end SourceKind

structure SourceMeta where
  kind : SourceKind
  data : String
  deriving DecidableEq, Repr, Inhabited

namespace SourceMeta

def fields : Fields SourceMeta :=
  SourceMeta.mk <$> .required "kind" SourceKind.codec <*> .required "data" .text

def toJson (m : SourceMeta) : Json := .obj [("data", .str m.data), ("kind", .str m.kind.name)]

def codec : Codec SourceMeta := ⟨fields.record "SourceMeta", toJson⟩

end SourceMeta

/-- A running service of a deployment. -/
structure Service where
  name : String
  image : String
  url : Option String
  deriving DecidableEq, Repr, Inhabited

namespace Service

def fields : Fields Service :=
  Service.mk <$> .required "name" .text <*> .required "image" .text <*> .optional "url" .text

def toJson (s : Service) : Json :=
  .obj [("image", .str s.image), ("name", .str s.name), ("url", Codec.text.option.encode s.url)]

def codec : Codec Service := ⟨fields.record "Service", toJson⟩

end Service

/-- How a deployment went so far. -/
structure DeploymentState where
  status : DeploymentStatus
  errorCode : Option String
  startedAt : Option String
  finishedAt : Option String
  services : List Service
  deriving DecidableEq, Repr, Inhabited

namespace DeploymentState

def fields : Fields DeploymentState :=
  DeploymentState.mk <$> .required "status" DeploymentStatus.codec <*> .optional "error_code" .text
    <*> .optional "started_at" .text <*> .optional "finished_at" .text
    <*> .defaulted "services" [] Service.codec.list

def toJson (s : DeploymentState) : Json :=
  .obj [("error_code", Codec.text.option.encode s.errorCode),
    ("finished_at", Codec.text.option.encode s.finishedAt),
    ("services", Service.codec.list.encode s.services),
    ("started_at", Codec.text.option.encode s.startedAt),
    ("status", DeploymentStatus.codec.encode s.status)]

def codec : Codec DeploymentState := ⟨fields.record "DeploymentState", toJson⟩

end DeploymentState

structure Deployment where
  appId : String
  deploymentNumber : UInt32
  environment : Environment
  source : SourceMeta
  state : DeploymentState
  requestedAt : String
  requestedBy : ByUser
  deriving DecidableEq, Repr, Inhabited

namespace Deployment

def fields : Fields Deployment :=
  Deployment.mk <$> .required "app_id" .text <*> .required "deployment_number" .u32
    <*> .required "environment" Environment.codec <*> .required "meta" SourceMeta.codec
    <*> .required "state" DeploymentState.codec <*> .required "requested_at" .text
    <*> .required "requested_by" ByUser.codec

def toJson (d : Deployment) : Json :=
  .obj [("app_id", .str d.appId), ("deployment_number", .nat d.deploymentNumber.toNat),
    ("environment", .str d.environment.name), ("meta", d.source.toJson),
    ("requested_at", .str d.requestedAt), ("requested_by", d.requestedBy.toJson),
    ("state", d.state.toJson)]

def codec : Codec Deployment := ⟨fields.record "Deployment", toJson⟩

end Deployment

/-- A source kept in a repository. -/
structure GitSource where
  branch : String
  hash : Option String
  deriving DecidableEq, Repr, Inhabited

/-- The source as an object; without a hash the branch decides. -/
def GitSource.toJson (g : GitSource) : Json :=
  .obj (("branch", .str g.branch) :: memberIf "hash" .str g.hash)

inductive QueueDeployment where
  | raw (environment : Environment) (definition : String)
  | git (environment : Environment) (source : GitSource)
  | archive (environment : Environment) (fileName : String) (bytes : List UInt8)
  deriving DecidableEq, Repr, Inhabited

/-- The body that asks for a deployment: an archive goes as a form, the rest as JSON. -/
def QueueDeployment.body : QueueDeployment → Body
  | .raw environment definition =>
    .json (.obj [("environment", .str environment.name), ("raw", .str definition)])
  | .git environment source =>
    .json (.obj [("environment", .str environment.name), ("git", source.toJson)])
  | .archive environment fileName bytes =>
    .multipart [.text "environment" environment.name, .file "archive" fileName bytes]

end Refetch
