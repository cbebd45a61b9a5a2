/-
# What a write sends tells what it was given

A payload leaves members out, sets them to null and gives them values, and some of the values are
payloads with such members themselves. A `Patch` is all that can be said of a member: it is kept and
then absent, removed and then null, or set and then present with something other than null, which
is what tells setting from removing. The members of every payload are listed with what they are in a
value, as `Member`s, and `Laid` says once what a list of members has to do with the encoder of a
record: each member is found under its name, and together they make up the value. From this follows
that the encoder tells all values apart, provided that those of its members do; so the records are
gone through from the inside to the outside. `Within` follows the members to any depth.

Deployments are the one kind of payload that need not be sent as JSON. An archive goes as a form, in
which there are no members, and no form is a document.
-/

import Refetch.Api.Apps
import Refetch.Api.Deployments
import Refetch.Api.Registries
import Refetch.Api.Sessions
import Refetch.Api.Targets
import Refetch.Proofs.Resource.RoundTrip

namespace Refetch

variable {α β γ : Type}

namespace Patch

/-- A value that may be left out is set or kept, and never removed. -/
def ofOption : Option α → Patch α
  | none => .keep
  | some x => .set x

/-- What is seen of a member in JSON. -/
def seen (encode : α → Json) : Patch α → Option Json
  | .keep => none
  | .remove => some .null
  | .set x => some (encode x)

/-- What a member of a member is: of one that is not set, nothing is. -/
def inside (inner : α → Patch β) : Patch α → Patch β
  | .set x => inner x
  | .keep | .remove => .keep

@[simp]
theorem seen_set (encode : α → Json) (x : α) : (set x).seen encode = some (encode x) := rfl

@[simp]
theorem ofOption_inj {x y : Option α} : ofOption x = ofOption y ↔ x = y := by
  cases x <;> cases y <;> simp [ofOption]

@[simp]
theorem seen_ofOption (encode : α → Json) (x : Option α) :
    (ofOption x).seen encode = x.map encode := by
  cases x <;> rfl

end Patch

@[simp]
theorem Patch.lookup_members (name other : String) (encode : α → Json) (p : Patch α) :
    (p.members name encode).lookup other = if other = name then p.seen encode else none := by
  cases p <;> simp [Patch.members, Patch.seen, Dict.lookup_cons]

/-- Values are told apart by what they are written as, which is never null. -/
structure Distinct (encode : α → Json) : Prop where
  injective : Function.Injective encode
  visible : ∀ x, encode x ≠ .null

/-- What can be read back can be told apart. -/
theorem Codec.Faithful.distinct {c : Codec α} (h : c.Faithful) : Distinct c.encode where
  injective x y same := by
    have back := h.back .inPlace x
    rw [same, h.back .inPlace y] at back
    exact (Except.ok.inj back).symm
  visible := h.visible

namespace Distinct

variable {encode : α → Json}

theorem seen_injective (h : Distinct encode) : Function.Injective (Patch.seen encode) := by
  intro p q same
  cases p with
  | keep => cases q <;> simp_all [Patch.seen]
  | remove =>
      cases q with
      | keep => simp [Patch.seen] at same
      | remove => rfl
      | set y => exact absurd (Option.some.inj same).symm (h.visible y)
  | set x =>
      cases q with
      | keep => simp [Patch.seen] at same
      | remove => exact absurd (Option.some.inj same) (h.visible x)
      | set y => rw [h.injective (Option.some.inj same)]

end Distinct

/-- A member of what a value is written as: where it is found, what it is in the value, and how that
is written. One name is enough to find a member of the value itself, and more lead to a member of a
member. -/
structure Member (α : Type) where
  {Inner : Type}
  name : String
  names : List String := []
  value : α → Patch Inner
  encode : Inner → Json

namespace Member

/-- A member that is always there. -/
@[simp]
def required (name : String) (value : α → β) (encode : β → Json) : Member α :=
  { name, value := fun x => .set (value x), encode }

/-- A member that is there if there is a value. -/
@[simp]
def optional (name : String) (value : α → Option β) (encode : β → Json) : Member α :=
  { name, value := fun x => .ofOption (value x), encode }

/-- A member that may be null as well. -/
@[simp]
def patched (name : String) (value : α → Patch β) (encode : β → Json) : Member α :=
  { name, value, encode }

def path (m : Member α) : List String := m.name :: m.names

/-- A member of what a member is written as. -/
def nested (outer : Member α) (inner : Member outer.Inner) : Member α where
  name := outer.name
  names := outer.names ++ inner.path
  value x := (outer.value x).inside inner.value
  encode := inner.encode

end Member

namespace Json

/-- What stands at a path of names in a value. -/
def at? : List String → Json → Option Json
  | [], v => some v
  | name :: path, v => (v.get? name).bind (at? path)

theorem at?_append (first rest : List String) :
    ∀ v : Json, v.at? (first ++ rest) = (v.at? first).bind (at? rest) := by
  induction first with
  | nil => exact fun _ => rfl
  | cons name first ih =>
      intro v
      simp only [List.cons_append, at?, Option.bind_assoc, funext ih]

/-- What is seen of a member of a record, which is found by its name alone. -/
@[simp]
theorem at?_obj (name : String) (members : List (String × Json)) :
    (obj members).at? [name] = members.lookup name := by
  simp [at?, get?]

end Json

/-- A record is written with members: what is seen of each stands in its place, and together they
are all of the record. -/
structure Laid (encode : α → Json) (members : List (Member α)) : Prop where
  visible : ∀ x, encode x ≠ .null
  seen : ∀ m ∈ members, ∀ x, (encode x).at? m.path = (m.value x).seen m.encode
  distinct : ∀ m ∈ members, Distinct m.encode
  whole : ∀ x y, (∀ m ∈ members, m.value x = m.value y) → x = y

/-- Records are told apart by their members. -/
theorem Laid.tells {encode : α → Json} {members : List (Member α)} (h : Laid encode members) :
    Distinct encode where
  injective x y same := by
    apply h.whole
    intro m member
    apply (h.distinct m member).seen_injective
    rw [← h.seen m member x, ← h.seen m member y, same]
  visible := h.visible

theorem distinct_text : Distinct Json.str := Codec.faithful_text.distinct

theorem distinct_port : Distinct Codec.u16.encode := Codec.faithful_u16.distinct

theorem distinct_variables : Distinct EnvironmentVariables.codec.encode :=
  EnvironmentVariables.faithful.distinct

/-! ## The payloads and what they are made of -/

def VcsConfig.members : List (Member VcsConfig) :=
  [.required "url" url .str, .optional "token" token .str]

theorem VcsConfig.laid : Laid VcsConfig.toJson members where
  visible _ := nofun
  seen := by simp [members, Member.path, toJson, Dict.lookup_append, Dict.lookup_cons]
  distinct := by simp [members, distinct_text]
  whole := by
    rintro ⟨url, token⟩ ⟨url', token'⟩ same
    simpa [members] using same

def CreateApp.members : List (Member CreateApp) :=
  [.required "name" name .str, .optional "env" env EnvironmentVariables.codec.encode,
    .optional "vcs" vcs VcsConfig.toJson]

theorem CreateApp.laid : Laid CreateApp.toJson members where
  visible _ := nofun
  seen := by simp [members, Member.path, toJson, Dict.lookup_append, Dict.lookup_cons]
  distinct := by simp [members, distinct_text, distinct_variables, VcsConfig.laid.tells]
  whole := by
    rintro ⟨name, env, vcs⟩ ⟨name', env', vcs'⟩ same
    simpa [members] using same

def UpdateVcs.members : List (Member UpdateVcs) :=
  [.optional "url" url .str, .patched "token" token .str]

theorem UpdateVcs.laid : Laid UpdateVcs.toJson members where
  visible _ := nofun
  seen := by simp [members, Member.path, toJson, Dict.lookup_append]
  distinct := by simp [members, distinct_text]
  whole := by
    rintro ⟨url, token⟩ ⟨url', token'⟩ same
    simpa [members] using same

def UpdateApp.members : List (Member UpdateApp) :=
  [.patched "vcs" vcs UpdateVcs.toJson, .patched "env" env EnvironmentVariables.codec.encode]

theorem UpdateApp.laid : Laid UpdateApp.toJson members where
  visible _ := nofun
  seen := by simp [members, Member.path, toJson, Dict.lookup_append]
  distinct := by simp [members, UpdateVcs.laid.tells, distinct_variables]
  whole := by
    rintro ⟨vcs, env⟩ ⟨vcs', env'⟩ same
    simpa [members] using same

def DockerConfig.members : List (Member DockerConfig) :=
  [.optional "host" host .str, .optional "user" user .str, .optional "port" port Codec.u16.encode,
    .optional "private_key" privateKey .str]

theorem DockerConfig.laid : Laid DockerConfig.toJson members where
  visible _ := nofun
  seen := by simp [members, Member.path, toJson, Dict.lookup_append]
  distinct := by simp [members, distinct_text, distinct_port]
  whole := by
    rintro ⟨host, user, port, privateKey⟩ ⟨host', user', port', privateKey'⟩ same
    simpa [members] using same

def CreateTarget.members : List (Member CreateTarget) :=
  [.required "name" name .str, .required "url" url .str,
    .optional "docker" docker DockerConfig.toJson]

theorem CreateTarget.laid : Laid CreateTarget.toJson members where
  visible _ := nofun
  seen := by simp [members, Member.path, toJson, Dict.lookup_append, Dict.lookup_cons]
  distinct := by simp [members, distinct_text, DockerConfig.laid.tells]
  whole := by
    rintro ⟨name, url, docker⟩ ⟨name', url', docker'⟩ same
    simpa [members] using same

def UpdateDocker.members : List (Member UpdateDocker) :=
  [.optional "host" host .str, .optional "user" user .str, .optional "port" port Codec.u16.encode,
    .patched "private_key" privateKey .str]

theorem UpdateDocker.laid : Laid UpdateDocker.toJson members where
  visible _ := nofun
  seen := by simp [members, Member.path, toJson, Dict.lookup_append]
  distinct := by simp [members, distinct_text, distinct_port]
  whole := by
    rintro ⟨host, user, port, privateKey⟩ ⟨host', user', port', privateKey'⟩ same
    simpa [members] using same

def UpdateTarget.members : List (Member UpdateTarget) :=
  [.optional "name" name .str, .optional "url" url .str,
    .optional "docker" docker UpdateDocker.toJson]

theorem UpdateTarget.laid : Laid UpdateTarget.toJson members where
  visible _ := nofun
  seen := by simp [members, Member.path, toJson, Dict.lookup_append]
  distinct := by simp [members, distinct_text, UpdateDocker.laid.tells]
  whole := by
    rintro ⟨name, url, docker⟩ ⟨name', url', docker'⟩ same
    simpa [members] using same

def Credentials.members : List (Member Credentials) :=
  [.required "username" username .str, .required "password" password .str]

theorem Credentials.laid : Laid Credentials.toJson members where
  visible _ := nofun
  seen := by simp [members, Member.path, toJson, Dict.lookup_cons]
  distinct := by simp [members, distinct_text]
  whole := by
    rintro ⟨username, password⟩ ⟨username', password'⟩ same
    simpa [members] using same

def CreateRegistry.members : List (Member CreateRegistry) :=
  [.required "name" name .str, .required "url" url .str,
    .optional "credentials" credentials Credentials.toJson]

theorem CreateRegistry.laid : Laid CreateRegistry.toJson members where
  visible _ := nofun
  seen := by simp [members, Member.path, toJson, Dict.lookup_append, Dict.lookup_cons]
  distinct := by simp [members, distinct_text, Credentials.laid.tells]
  whole := by
    rintro ⟨name, url, credentials⟩ ⟨name', url', credentials'⟩ same
    simpa [members] using same

def UpdateCredentials.members : List (Member UpdateCredentials) :=
  [.required "username" username .str, .optional "password" password .str]

theorem UpdateCredentials.laid : Laid UpdateCredentials.toJson members where
  visible _ := nofun
  seen := by simp [members, Member.path, toJson, Dict.lookup_append, Dict.lookup_cons]
  distinct := by simp [members, distinct_text]
  whole := by
    rintro ⟨username, password⟩ ⟨username', password'⟩ same
    simpa [members] using same

def UpdateRegistry.members : List (Member UpdateRegistry) :=
  [.optional "name" name .str, .optional "url" url .str,
    .patched "credentials" credentials UpdateCredentials.toJson]

theorem UpdateRegistry.laid : Laid UpdateRegistry.toJson members where
  visible _ := nofun
  seen := by simp [members, Member.path, toJson, Dict.lookup_append]
  distinct := by simp [members, distinct_text, UpdateCredentials.laid.tells]
  whole := by
    rintro ⟨name, url, credentials⟩ ⟨name', url', credentials'⟩ same
    simpa [members] using same

def UpdateProfile.members : List (Member UpdateProfile) :=
  [.optional "email" email .str, .optional "password" password .str]

theorem UpdateProfile.laid : Laid UpdateProfile.toJson members where
  visible _ := nofun
  seen := by simp [members, Member.path, toJson, Dict.lookup_append]
  distinct := by simp [members, distinct_text]
  whole := by
    rintro ⟨email, password⟩ ⟨email', password'⟩ same
    simpa [members] using same

def GitSource.members : List (Member GitSource) :=
  [.required "branch" branch .str, .optional "hash" hash .str]

theorem GitSource.laid : Laid GitSource.toJson members where
  visible _ := nofun
  seen := by simp [members, Member.path, toJson, Dict.lookup_cons]
  distinct := by simp [members, distinct_text]
  whole := by
    rintro ⟨branch, hash⟩ ⟨branch', hash'⟩ same
    simpa [members] using same

theorem distinct_environment : Distinct fun e : Environment => Json.str e.name :=
  Environment.faithful.distinct

@[simp]
theorem Environment.name_inj {a b : Environment} : a.name = b.name ↔ a = b :=
  ⟨fun same => distinct_environment.injective (congrArg Json.str same), congrArg name⟩

namespace QueueDeployment

/-- Where a deployment is to run, as far as a document says it. -/
def environment? : QueueDeployment → Option Environment
  | .raw environment _ | .git environment _ => some environment
  | .archive .. => none

/-- The definition that is to be deployed. -/
def definition? : QueueDeployment → Option String
  | .raw _ definition => some definition
  | .git .. | .archive .. => none

/-- The source in a repository that is to be deployed. -/
def source? : QueueDeployment → Option GitSource
  | .git _ source => some source
  | .raw .. | .archive .. => none

/-- The members of the document that asks for a deployment; an archive has none. -/
def members : List (Member QueueDeployment) :=
  [.optional "environment" environment? fun environment => .str environment.name,
    .optional "raw" definition? .str, .optional "git" source? GitSource.toJson]

end QueueDeployment

/-- The document that a body is; a form is none. -/
def Body.document? : Body → Option Json
  | .json v => some v
  | .multipart _ => none

theorem QueueDeployment.seen :
    ∀ m ∈ members, ∀ p, (body p).document?.bind (Json.at? m.path) = (m.value p).seen m.encode := by
  simp only [members, List.forall_mem_cons]
  refine ⟨?_, ?_, ?_, nofun⟩ <;> rintro (_ | _ | _) <;> rfl

theorem QueueDeployment.distinct : ∀ m ∈ members, Distinct m.encode := by
  simp [members, distinct_environment, distinct_text, GitSource.laid.tells]

/-- Deployments of one kind are told apart by what they say, and kinds by the names of the members,
or by there being none. -/
theorem QueueDeployment.body_injective : Function.Injective body := by
  intro p q same
  cases p with
  | raw environment definition =>
      cases q with
      | raw environment' definition' => simpa [body] using same
      | git => simp [body] at same
      | archive => simp [body] at same
  | git environment source =>
      cases q with
      | raw => simp [body] at same
      | git environment' source' =>
          have parts : environment = environment' ∧ source.toJson = source'.toJson := by
            simpa [body] using same
          rw [parts.1, GitSource.laid.tells.injective parts.2]
      | archive => simp [body] at same
  | archive environment fileName bytes =>
      cases q with
      | raw => simp [body] at same
      | git => simp [body] at same
      | archive environment' fileName' bytes' => simpa [body] using same

/-- The records that stand inside payloads, with their members. -/
inductive Record : {α : Type} → (α → Json) → List (Member α) → Prop
  | vcs : Record VcsConfig.toJson VcsConfig.members
  | updateVcs : Record UpdateVcs.toJson UpdateVcs.members
  | docker : Record DockerConfig.toJson DockerConfig.members
  | updateDocker : Record UpdateDocker.toJson UpdateDocker.members
  | credentials : Record Credentials.toJson Credentials.members
  | updateCredentials : Record UpdateCredentials.toJson UpdateCredentials.members
  | git : Record GitSource.toJson GitSource.members

theorem Record.laid {encode : α → Json} {members : List (Member α)}
    (record : Record encode members) : Laid encode members := by
  cases record with
  | vcs => exact VcsConfig.laid
  | updateVcs => exact UpdateVcs.laid
  | docker => exact DockerConfig.laid
  | updateDocker => exact UpdateDocker.laid
  | credentials => exact Credentials.laid
  | updateCredentials => exact UpdateCredentials.laid
  | git => exact GitSource.laid

/-- A member is one of those listed, or a member of one of those that are records. -/
inductive Within : {α : Type} → List (Member α) → Member α → Prop
  | here {α : Type} {members : List (Member α)} {m : Member α} (member : m ∈ members) :
      Within members m
  | inside {α : Type} {members : List (Member α)} {outer : Member α}
      {inners : List (Member outer.Inner)} {inner : Member outer.Inner} (member : outer ∈ members)
      (record : Record outer.encode inners) (within : Within inners inner) :
      Within members (outer.nested inner)

/-- What is seen of the listed members of a document in their places is seen of all members within
them: in null, and where nothing is, there are no members. -/
theorem Within.seen {members : List (Member α)} {m : Member α} (within : Within members m) :
    ∀ {document : α → Option Json},
      (∀ m ∈ members, ∀ x, (document x).bind (Json.at? m.path) = (m.value x).seen m.encode) →
        ∀ x, (document x).bind (Json.at? m.path) = (m.value x).seen m.encode := by
  induction within with
  | here member => exact fun listed => listed _ member
  | @inside _ members outer inners inner member record _ ih =>
      intro document listed x
      have nested (y : outer.Inner) :
          (some (outer.encode y)).bind (Json.at? inner.path) = (inner.value y).seen inner.encode :=
        @ih (some ∘ outer.encode) (fun m member y => record.laid.seen m member y) y
      have path : Json.at? (outer.nested inner).path =
          fun v => (v.at? outer.path).bind (Json.at? inner.path) :=
        funext (Json.at?_append outer.path inner.path)
      rw [path, ← Option.bind_assoc, listed outer member]
      cases stated : outer.value x with
      | keep => simp [Member.nested, stated, Patch.seen, Patch.inside]
      | remove =>
          simp [Member.nested, stated, Patch.seen, Patch.inside, Member.path, Json.at?, Json.get?]
      | set y => simpa [Member.nested, stated, Patch.seen, Patch.inside] using nested y

theorem Within.distinct {members : List (Member α)} {m : Member α} (within : Within members m) :
    (∀ m ∈ members, Distinct m.encode) → Distinct m.encode := by
  induction within with
  | here member => exact fun listed => listed _ member
  | inside _ record _ ih => exact fun _ => ih record.laid.distinct

/-- The document that a write sends, if it sends one. -/
def Write.document? (w : Write α) : Option Json :=
  match w.body with
  | .ok (some body) => body.document?
  | _ => none

/-- What stands at a path of names in the document that a write sends. -/
def Write.member? (w : Write α) (path : List String) : Option Json :=
  w.document?.bind (Json.at? path)

/-- Payloads of a write are told apart by the bodies that are sent, and what is seen of the listed
members stands in its place. -/
structure Told (write : α → Write β) (members : List (Member α)) : Prop where
  injective : Function.Injective fun x => (write x).body
  seen : ∀ m ∈ members, ∀ x, (write x).member? m.path = (m.value x).seen m.encode
  distinct : ∀ m ∈ members, Distinct m.encode

theorem Laid.told {write : α → Write β} {encode : α → Json} {members : List (Member α)}
    (laid : Laid encode members) (sent : ∀ x, (write x).body = .ok (some (.json (encode x)))) :
    Told write members where
  injective x y same := by
    apply laid.tells.injective
    simpa [sent] using same
  seen m member x := by
    simpa [Write.member?, Write.document?, sent, Body.document?] using laid.seen m member x
  distinct := laid.distinct

/-- The writes that carry a payload, with the members of the payload. -/
inductive Sends : {α β : Type} → (α → Write β) → List (Member α) → Prop
  | createApp : Sends Apps.create CreateApp.members
  | updateApp (id : String) : Sends (Apps.update id) UpdateApp.members
  | createTarget : Sends Targets.create CreateTarget.members
  | updateTarget (id : String) : Sends (Targets.update id) UpdateTarget.members
  | createRegistry : Sends Registries.create CreateRegistry.members
  | updateRegistry (id : String) : Sends (Registries.update id) UpdateRegistry.members
  | updateProfile : Sends Sessions.updateProfile UpdateProfile.members
  | queue (app : String) : Sends (Deployments.queue app) QueueDeployment.members

theorem Sends.told {write : α → Write β} {members : List (Member α)} (sends : Sends write members) :
    Told write members := by
  cases sends with
  | createApp => exact CreateApp.laid.told fun _ => rfl
  | updateApp => exact UpdateApp.laid.told fun _ => rfl
  | createTarget => exact CreateTarget.laid.told fun _ => rfl
  | updateTarget => exact UpdateTarget.laid.told fun _ => rfl
  | createRegistry => exact CreateRegistry.laid.told fun _ => rfl
  | updateRegistry => exact UpdateRegistry.laid.told fun _ => rfl
  | updateProfile => exact UpdateProfile.laid.told fun _ => rfl
  | queue app =>
      exact {
        injective := fun p q same => QueueDeployment.body_injective (by
          simpa [Deployments.queue] using same)
        seen := QueueDeployment.seen
        distinct := QueueDeployment.distinct }

/-- No two payloads are sent as the same body. At every depth a member that is kept or not set is
absent, one that is removed is null, and one that is set is what its value is written as, which is
not null and not what any other value is written as; and from what is found it follows which of
these it was. -/
theorem payload_told_from_body {write : α → Write β} {members : List (Member α)}
    (sends : Sends write members) :
    (Function.Injective fun p => (write p).body) ∧
      ∀ m, Within members m → ∀ p,
        ((write p).member? m.path = none ↔ m.value p = .keep) ∧
          ((write p).member? m.path = some .null ↔ m.value p = .remove) ∧
          ∀ x, ((write p).member? m.path = some (m.encode x) ↔ m.value p = .set x) ∧
            m.encode x ≠ .null := by
  refine ⟨sends.told.injective, ?_⟩
  intro m within p
  have distinct := within.distinct sends.told.distinct
  have same (q : Patch m.Inner) :
      (write p).member? m.path = q.seen m.encode ↔ m.value p = q := by
    rw [Write.member?, within.seen sends.told.seen p]
    exact distinct.seen_injective.eq_iff
  exact ⟨same .keep, same .remove, fun x => ⟨same (.set x), distinct.visible x⟩⟩

/-- A change of an application that removes the token of its settings and keeps their URL: inside
the settings the token is null and the URL is absent. To set the token to nothing is to send another
body. -/
theorem removed_token_is_null_inside_settings :
    let removed : UpdateApp := { vcs := .set { url := none, token := .remove }, env := .keep }
    let emptied : UpdateApp := { vcs := .set { url := none, token := .set "" }, env := .keep }
    (Apps.update "a1" removed).member? ["vcs", "token"] = some .null ∧
      (Apps.update "a1" removed).member? ["vcs", "url"] = none ∧
      (Apps.update "a1" emptied).member? ["vcs", "token"] = some (.str "") ∧
      (Apps.update "a1" removed).body ≠ (Apps.update "a1" emptied).body := by
  intro removed emptied
  let vcs : Member UpdateApp := .patched "vcs" UpdateApp.vcs UpdateVcs.toJson
  let token : Member UpdateVcs := .patched "token" UpdateVcs.token .str
  let url : Member UpdateVcs := .optional "url" UpdateVcs.url .str
  have inside (m : Member UpdateVcs) (member : m ∈ UpdateVcs.members) :
      Within UpdateApp.members (vcs.nested m) :=
    have listed : vcs ∈ UpdateApp.members := .head _
    .inside listed .updateVcs (.here member)
  have law := payload_told_from_body (.updateApp "a1")
  have differ : removed ≠ emptied := by simp [removed, emptied]
  exact ⟨(law.2 _ (inside token (.tail _ (.head _))) removed).2.1.mpr rfl,
    (law.2 _ (inside url (.head _)) removed).1.mpr rfl,
    ((law.2 _ (inside token (.tail _ (.head _))) emptied).2.2 "").1.mpr rfl, law.1.ne differ⟩

end Refetch
