/-
# What several resources share

Pages of a listing, the user behind an action, and changes that a partial update makes to a member.
-/

import Refetch.Codec.Record

namespace Refetch

structure Page (α : Type) where
  data : List α
  page : UInt32
  isFirstPage : Bool
  isLastPage : Bool
  perPage : UInt32
  total : UInt64
  deriving DecidableEq, Repr

namespace Page

variable {α : Type}

def fields (c : Codec α) : Fields (Page α) :=
  Page.mk <$> .required "data" c.list <*> .required "page" .u32 <*> .required "first_page" .bool
    <*> .required "last_page" .bool <*> .required "per_page" .u32 <*> .required "total" .u64

def toJson (c : Codec α) (p : Page α) : Json :=
  .obj [("data", c.list.encode p.data), ("first_page", .bool p.isFirstPage),
    ("last_page", .bool p.isLastPage), ("page", .nat p.page.toNat),
    ("per_page", .nat p.perPage.toNat), ("total", .nat p.total.toNat)]

def codec (c : Codec α) : Codec (Page α) := ⟨(fields c).record "Paginated", toJson c⟩

end Page

/-- The user who did something. -/
structure ByUser where
  id : String
  email : String
  deriving DecidableEq, Repr, Inhabited

namespace ByUser

def fields : Fields ByUser := ByUser.mk <$> .required "id" .text <*> .required "email" .text

def toJson (u : ByUser) : Json := .obj [("email", .str u.email), ("id", .str u.id)]

def codec : Codec ByUser := ⟨fields.record "ByUser", toJson⟩

end ByUser

/-- What a partial update does to a member. -/
inductive Patch (α : Type) where
  | keep
  | remove
  | set (value : α)
  deriving DecidableEq, Repr, Inhabited

/-- The members of an object that a change adds: none to keep, null to remove. -/
def Patch.members {α : Type} (name : String) (encode : α → Json) : Patch α → List (String × Json)
  | .keep => []
  | .remove => [(name, .null)]
  | .set x => [(name, encode x)]

/-- The member that a value which may be left out adds to an object. -/
def memberIf {α : Type} (name : String) (encode : α → Json) : Option α → List (String × Json)
  | none => []
  | some x => [(name, encode x)]

end Refetch
