/-
# Applications
-/

import Refetch.Resource.Deployment

namespace Refetch

/-- Values of variables, by environment, service and name. -/
abbrev EnvironmentVariables := Dict (Dict (Dict String))

def EnvironmentVariables.codec : Codec EnvironmentVariables := Codec.text.dict.dict.dict

structure App where
  id : String
  name : String
  cleanupRequestedAt : Option String
  createdAt : String
  createdBy : ByUser
  /-- The latest deployment of each environment, if there is any. -/
  environments : Dict (Option Deployment)
  deriving DecidableEq, Repr, Inhabited

namespace App

def fields : Fields App :=
  App.mk <$> .required "id" .text <*> .required "name" .text
    <*> .optional "cleanup_requested_at" .text <*> .required "created_at" .text
    <*> .required "created_by" ByUser.codec
    <*> .defaulted "environments" .empty Deployment.codec.option.dict

def toJson (a : App) : Json :=
  .obj [("cleanup_requested_at", Codec.text.option.encode a.cleanupRequestedAt),
    ("created_at", .str a.createdAt), ("created_by", a.createdBy.toJson),
    ("environments", Deployment.codec.option.dict.encode a.environments), ("id", .str a.id),
    ("name", .str a.name)]

def codec : Codec App := ⟨fields.record "App", toJson⟩

end App

/-- Where the sources of an application are kept. -/
structure VcsConfig where
  url : String
  token : Option String
  deriving DecidableEq, Repr, Inhabited

namespace VcsConfig

/-- The members of a version control setting. -/
def fields : Fields VcsConfig := VcsConfig.mk <$> .required "url" .text <*> .optional "token" .text

/-- The setting as an object; a token that is not there is left out. -/
def toJson (v : VcsConfig) : Json :=
  .obj (memberIf "token" .str v.token ++ [("url", .str v.url)])

/-- Version control settings. -/
def codec : Codec VcsConfig := ⟨fields.record "VcsConfig", toJson⟩

end VcsConfig

structure AppDetail where
  app : App
  vcs : Option VcsConfig
  env : Option EnvironmentVariables
  deriving DecidableEq, Repr, Inhabited

namespace AppDetail

/-- The settings that are not part of the application proper, in the order of their names. -/
def settings : Fields (Option EnvironmentVariables × Option VcsConfig) :=
  Prod.mk <$> .optional "env" EnvironmentVariables.codec <*> .optional "vcs" VcsConfig.codec

/-- Reads an application with its settings. The members of the application stand beside the settings
and are held back until those are read. -/
def decode : Decoder AppDetail
  | t, .obj members => do
    let (env, vcs) ← settings.ofMembers t members
    let app ← App.fields.ofMembers .heldBack members
    return { app, vcs, env }
  | _, v => .error (.wrongType v.found "struct AppDetail")

/-- The application and its settings as one object. -/
def toJson (d : AppDetail) : Json :=
  .obj [("cleanup_requested_at", Codec.text.option.encode d.app.cleanupRequestedAt),
    ("created_at", .str d.app.createdAt), ("created_by", d.app.createdBy.toJson),
    ("env", EnvironmentVariables.codec.option.encode d.env),
    ("environments", Deployment.codec.option.dict.encode d.app.environments),
    ("id", .str d.app.id), ("name", .str d.app.name),
    ("vcs", VcsConfig.codec.option.encode d.vcs)]

/-- Applications with their settings. -/
def codec : Codec AppDetail := ⟨decode, toJson⟩

end AppDetail

/-- A request for a new application. -/
structure CreateApp where
  name : String
  env : Option EnvironmentVariables
  vcs : Option VcsConfig
  deriving DecidableEq, Repr, Inhabited

/-- The request as an object. -/
def CreateApp.toJson (p : CreateApp) : Json :=
  .obj (memberIf "env" EnvironmentVariables.codec.encode p.env ++ [("name", .str p.name)]
    ++ memberIf "vcs" VcsConfig.toJson p.vcs)

/-- A change of a version control setting. -/
structure UpdateVcs where
  url : Option String
  token : Patch String
  deriving DecidableEq, Repr, Inhabited

/-- The change as an object. -/
def UpdateVcs.toJson (p : UpdateVcs) : Json :=
  .obj (p.token.members "token" .str ++ memberIf "url" .str p.url)

structure UpdateApp where
  vcs : Patch UpdateVcs
  env : Patch EnvironmentVariables
  deriving DecidableEq, Repr, Inhabited

/-- The change as an object. -/
def UpdateApp.toJson (p : UpdateApp) : Json :=
  .obj (p.env.members "env" EnvironmentVariables.codec.encode
    ++ p.vcs.members "vcs" UpdateVcs.toJson)

end Refetch
