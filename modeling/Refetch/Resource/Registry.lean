/-
# Registries, from which images are pulled
-/

import Refetch.Resource.Page

namespace Refetch

/-- A user name and its password. -/
structure Credentials where
  username : String
  password : String
  deriving DecidableEq, Repr, Inhabited

namespace Credentials

def fields : Fields Credentials :=
  Credentials.mk <$> .required "username" .text <*> .required "password" .text

def toJson (c : Credentials) : Json :=
  .obj [("password", .str c.password), ("username", .str c.username)]

def codec : Codec Credentials := ⟨fields.record "Credentials", toJson⟩

end Credentials

structure Registry where
  id : String
  name : String
  url : String
  credentials : Option Credentials
  createdAt : String
  createdBy : ByUser
  deriving DecidableEq, Repr, Inhabited

namespace Registry

def fields : Fields Registry :=
  Registry.mk <$> .required "id" .text <*> .required "name" .text <*> .required "url" .text
    <*> .optional "credentials" Credentials.codec <*> .required "created_at" .text
    <*> .required "created_by" ByUser.codec

def toJson (r : Registry) : Json :=
  .obj [("created_at", .str r.createdAt), ("created_by", r.createdBy.toJson),
    ("credentials", Credentials.codec.option.encode r.credentials), ("id", .str r.id),
    ("name", .str r.name), ("url", .str r.url)]

def codec : Codec Registry := ⟨fields.record "Registry", toJson⟩

end Registry

/-- A request for a new registry. -/
structure CreateRegistry where
  name : String
  url : String
  credentials : Option Credentials
  deriving DecidableEq, Repr, Inhabited

/-- The request as an object. -/
def CreateRegistry.toJson (p : CreateRegistry) : Json :=
  .obj (memberIf "credentials" Credentials.toJson p.credentials
    ++ [("name", .str p.name), ("url", .str p.url)])

/-- A change of credentials; the password is kept if it is left out. -/
structure UpdateCredentials where
  username : String
  password : Option String
  deriving DecidableEq, Repr, Inhabited

/-- The change as an object. -/
def UpdateCredentials.toJson (p : UpdateCredentials) : Json :=
  .obj (memberIf "password" .str p.password ++ [("username", .str p.username)])

structure UpdateRegistry where
  name : Option String
  url : Option String
  credentials : Patch UpdateCredentials
  deriving DecidableEq, Repr, Inhabited

/-- The change as an object. -/
def UpdateRegistry.toJson (p : UpdateRegistry) : Json :=
  .obj (p.credentials.members "credentials" UpdateCredentials.toJson
    ++ memberIf "name" .str p.name ++ memberIf "url" .str p.url)

end Refetch
