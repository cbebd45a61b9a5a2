/-
# Background jobs queued on the server
-/

import Refetch.Resource.Page

namespace Refetch

structure Job where
  id : String
  resourceId : String
  group : String
  messageName : String
  messageData : String
  queuedAt : String
  notBefore : String
  errorCode : Option String
  /-- A set of policies, one bit for each. -/
  policy : UInt8
  retrieved : Bool
  deriving DecidableEq, Repr, Inhabited

/-- How a job may be run. -/
inductive JobPolicy where
  | preserveOrder
  | waitForOthers
  | cancellable
  deriving DecidableEq, Repr

def JobPolicy.bit : JobPolicy → UInt8
  | .preserveOrder => 1
  | .waitForOthers => 2
  | .cancellable => 4

namespace Job

def hasPolicy (j : Job) (p : JobPolicy) : Bool := j.policy &&& p.bit ≠ 0

def fields : Fields Job :=
  Job.mk <$> .required "id" .text <*> .required "resource_id" .text <*> .required "group" .text
    <*> .required "message_name" .text <*> .required "message_data" .text
    <*> .required "queued_at" .text <*> .required "not_before" .text
    <*> .optional "error_code" .text <*> .required "policy" .u8 <*> .required "retrieved" .bool

def toJson (j : Job) : Json :=
  .obj [("error_code", Codec.text.option.encode j.errorCode), ("group", .str j.group),
    ("id", .str j.id), ("message_data", .str j.messageData), ("message_name", .str j.messageName),
    ("not_before", .str j.notBefore), ("policy", .nat j.policy.toNat),
    ("queued_at", .str j.queuedAt), ("resource_id", .str j.resourceId),
    ("retrieved", .bool j.retrieved)]

def codec : Codec Job := ⟨fields.record "Job", toJson⟩

end Job

end Refetch
