/-
# Sample answers of a server
-/

import Refetch.Json

namespace Refetch.Fixture

/-- An application with two environments. -/
def app (id : Nat) (slug : String) : Json :=
  .obj [("environments", .arr [
      .obj [("id", .nat 1), ("name", .str "production")],
      .obj [("id", .nat 2), ("name", .str "staging")]]),
    ("id", .nat id), ("slug", .str slug)]

/-- A deployment in good health. -/
def deployment (id appId : Nat) (environment : String) : Json :=
  .obj [("app_id", .nat appId), ("environment", .str environment), ("id", .nat id),
    ("is_current_production", .bool (environment = "production")), ("status", .str "HEALTHY")]

def page (results : List Json) (total page : Nat) : Json :=
  .obj [("count", .nat total), ("next", .null), ("page", .nat page), ("previous", .null),
    ("results", .arr results)]

/-- The payload of a failed validation, given the code of each field. -/
def validationFailure (fields : List (String × String)) : Json :=
  .obj [("code", .str "validation_failed"),
    ("detail", .object (fields.map fun (name, code) => (name, .obj [("code", .str code)])))]

end Refetch.Fixture
