/-
# The user of a session, and the health of the server
-/

import Refetch.Resource.Page

namespace Refetch

/-- The user of the current session. -/
structure Profile where
  id : String
  email : String
  apiKey : String
  registeredAt : String
  deriving DecidableEq, Repr, Inhabited

namespace Profile

def fields : Fields Profile :=
  Profile.mk <$> .required "id" .text <*> .required "email" .text <*> .required "api_key" .text
    <*> .required "registered_at" .text

def toJson (p : Profile) : Json :=
  .obj [("api_key", .str p.apiKey), ("email", .str p.email), ("id", .str p.id),
    ("registered_at", .str p.registeredAt)]

def codec : Codec Profile := ⟨fields.record "Profile", toJson⟩

end Profile

/-- A change of the current user's profile. -/
structure UpdateProfile where
  email : Option String
  password : Option String
  deriving DecidableEq, Repr, Inhabited

/-- The change as an object. -/
def UpdateProfile.toJson (p : UpdateProfile) : Json :=
  .obj (memberIf "email" .str p.email ++ memberIf "password" .str p.password)

/-- What the server says of itself. -/
structure HealthCheck where
  version : String
  domain : String
  deriving DecidableEq, Repr, Inhabited

namespace HealthCheck

/-- The members of a health report. -/
def fields : Fields HealthCheck :=
  HealthCheck.mk <$> .required "version" .text <*> .required "domain" .text

/-- The report as an object. -/
def toJson (h : HealthCheck) : Json :=
  .obj [("domain", .str h.domain), ("version", .str h.version)]

def codec : Codec HealthCheck := ⟨fields.record "HealthCheck", toJson⟩

end HealthCheck

end Refetch
