/-
# What the server answers survives a round trip

Every type of answer is read back from what it is written as, and so is everything that it is made
of: the members of a record give its fields back although they are written in the order of their
names, and null and a lack of the member where either may stand. An application with its settings is
written as one object, from which the application is read held back; its members are the same there.
A provider holds its settings back until its kind is known.
-/

import Refetch.Proofs.Codec.RoundTrip
import Refetch.Resource.App
import Refetch.Resource.Job
import Refetch.Resource.Profile
import Refetch.Resource.Registry
import Refetch.Resource.Target

namespace Refetch

open Codec Fields

theorem ByUser.faithful : ByUser.codec.Faithful := by
  apply faithful_record (fun _ => rfl)
  rintro t ⟨id, email⟩
  exact (gives_required faithful_text.back rfl).map ByUser.mk
    |>.seq (gives_required faithful_text.back rfl)

theorem DeploymentStatus.faithful : DeploymentStatus.codec.Faithful :=
  faithful_u8.refine fun status => by cases status <;> rfl

theorem Environment.faithful : Environment.codec.Faithful :=
  faithful_byName fun environment => by cases environment <;> rfl

theorem SourceKind.faithful : SourceKind.codec.Faithful :=
  faithful_byName fun kind => by cases kind <;> rfl

theorem SourceMeta.faithful : SourceMeta.codec.Faithful := by
  apply faithful_record (fun _ => rfl)
  rintro t ⟨kind, data⟩
  exact (gives_required SourceKind.faithful.back rfl).map SourceMeta.mk
    |>.seq (gives_required faithful_text.back rfl)

theorem Service.faithful : Service.codec.Faithful := by
  apply faithful_record (fun _ => rfl)
  rintro t ⟨name, image, url⟩
  exact (gives_required faithful_text.back rfl).map Service.mk
    |>.seq (gives_required faithful_text.back rfl)
    |>.seq (gives_optional faithful_text rfl)

theorem DeploymentState.faithful : DeploymentState.codec.Faithful := by
  apply faithful_record (fun _ => rfl)
  rintro t ⟨status, errorCode, startedAt, finishedAt, services⟩
  exact (gives_required DeploymentStatus.faithful.back rfl).map DeploymentState.mk
    |>.seq (gives_optional faithful_text rfl)
    |>.seq (gives_optional faithful_text rfl)
    |>.seq (gives_optional faithful_text rfl)
    |>.seq (gives_defaulted Service.faithful.back.list.back rfl)

theorem Deployment.faithful : Deployment.codec.Faithful := by
  apply faithful_record (fun _ => rfl)
  rintro t ⟨appId, deploymentNumber, environment, source, state, requestedAt, requestedBy⟩
  exact (gives_required faithful_text.back rfl).map Deployment.mk
    |>.seq (gives_required faithful_u32.back rfl)
    |>.seq (gives_required Environment.faithful.back rfl)
    |>.seq (gives_required SourceMeta.faithful.back rfl)
    |>.seq (gives_required DeploymentState.faithful.back rfl)
    |>.seq (gives_required faithful_text.back rfl)
    |>.seq (gives_required ByUser.faithful.back rfl)

theorem EnvironmentVariables.faithful : EnvironmentVariables.codec.Faithful :=
  faithful_text.back.dict.back.dict.back.dict

/-- Whatever gives the fields of an application among its own members does so among others. -/
theorem App.gives_fields (t : Timing) (a : App) {members : List (String × Json)}
    (found : ∀ name ∈ App.fields.names, members.lookup name = a.toJson.get? name) :
    App.fields.Gives t members a := by
  obtain ⟨id, name, cleanupRequestedAt, createdAt, createdBy, environments⟩ := a
  apply Gives.congr _ found
  exact (gives_required faithful_text.back rfl).map App.mk
    |>.seq (gives_required faithful_text.back rfl)
    |>.seq (gives_optional faithful_text rfl)
    |>.seq (gives_required faithful_text.back rfl)
    |>.seq (gives_required ByUser.faithful.back rfl)
    |>.seq (gives_defaulted Deployment.faithful.option.dict.back rfl)

theorem App.faithful : App.codec.Faithful := by
  apply faithful_record (fun _ => rfl)
  intro t a
  exact App.gives_fields t a fun _ _ => rfl

/-- A token that is not there is left out, and found to be missing. -/
theorem VcsConfig.get?_toJson (v : VcsConfig) :
    v.toJson.get? "url" = some (.str v.url) ∧ v.toJson.get? "token" = v.token.map .str := by
  simp [VcsConfig.toJson, Json.get?, Dict.lookup_append, Dict.lookup_cons]

theorem VcsConfig.faithful : VcsConfig.codec.Faithful := by
  apply faithful_record (fun _ => rfl)
  intro t v
  obtain ⟨url, token⟩ := v.get?_toJson
  exact (gives_required faithful_text.back url).map VcsConfig.mk
    |>.seq (gives_optional_of_left_out faithful_text token)

/-- The members of the application stand among those of its settings. -/
theorem AppDetail.get?_toJson (d : AppDetail) :
    ∀ name ∈ App.fields.names, d.toJson.get? name = d.app.toJson.get? name := by
  change ∀ name ∈ ["id", "name", "cleanup_requested_at", "created_at", "created_by",
    "environments"], _
  simp only [List.forall_mem_cons]
  exact ⟨rfl, rfl, rfl, rfl, rfl, rfl, nofun⟩

theorem AppDetail.faithful : AppDetail.codec.Faithful where
  back t d := by
    obtain ⟨members, written⟩ : ∃ members, d.toJson = .obj members := ⟨_, rfl⟩
    have found (name : String) : members.lookup name = d.toJson.get? name := by rw [written]; rfl
    have settings : AppDetail.settings.ofMembers t members = .ok (d.env, d.vcs) :=
      ((gives_optional EnvironmentVariables.faithful (found "env")).map Prod.mk
        |>.seq (gives_optional VcsConfig.faithful (found "vcs"))).ofMembers
    have application : App.fields.ofMembers .heldBack members = .ok d.app :=
      (App.gives_fields .heldBack d.app fun name field =>
        (found name).trans (d.get?_toJson name field)).ofMembers
    simp only [AppDetail.codec, AppDetail.decode, written]
    rw [settings, application]
    rfl
  visible _ := nofun

theorem TargetStatus.faithful : TargetStatus.codec.Faithful :=
  faithful_u8.refine fun status => by cases status <;> rfl

theorem TargetState.faithful : TargetState.codec.Faithful := by
  apply faithful_record (fun _ => rfl)
  rintro t ⟨status, errorCode, lastReadyVersion⟩
  exact (gives_required TargetStatus.faithful.back rfl).map TargetState.mk
    |>.seq (gives_optional faithful_text rfl)
    |>.seq (gives_optional faithful_text rfl)

/-- What is not set is left out, and found to be missing. -/
theorem DockerConfig.get?_toJson (d : DockerConfig) :
    d.toJson.get? "host" = d.host.map .str ∧ d.toJson.get? "user" = d.user.map .str ∧
      d.toJson.get? "port" = d.port.map u16.encode ∧
      d.toJson.get? "private_key" = d.privateKey.map .str := by
  simp [DockerConfig.toJson, Json.get?, Dict.lookup_append]

theorem DockerConfig.faithful : DockerConfig.codec.Faithful := by
  apply faithful_record (fun _ => rfl)
  intro t d
  obtain ⟨host, user, port, privateKey⟩ := d.get?_toJson
  exact (gives_optional_of_left_out faithful_text host).map DockerConfig.mk
    |>.seq (gives_optional_of_left_out faithful_text user)
    |>.seq (gives_optional_of_left_out faithful_u16 port)
    |>.seq (gives_optional_of_left_out faithful_text privateKey)

/-- The settings of a provider are read held back, with the reader that its kind names. -/
theorem ProviderConfig.faithful : ProviderConfig.codec.Faithful where
  back t provider := by
    cases provider with
    | docker config =>
        have settings := DockerConfig.faithful.back .heldBack config
        change (DockerConfig.codec.decode .heldBack (DockerConfig.codec.encode config)).map
          ProviderConfig.docker = _
        rw [settings]
        rfl
  visible provider := by cases provider; nofun

theorem Target.faithful : Target.codec.Faithful := by
  apply faithful_record (fun _ => rfl)
  rintro t ⟨id, name, url, provider, state, cleanupRequestedAt, createdAt, createdBy⟩
  exact (gives_required faithful_text.back rfl).map Target.mk
    |>.seq (gives_required faithful_text.back rfl)
    |>.seq (gives_required faithful_text.back rfl)
    |>.seq (gives_required ProviderConfig.faithful.back rfl)
    |>.seq (gives_required TargetState.faithful.back rfl)
    |>.seq (gives_optional faithful_text rfl)
    |>.seq (gives_required faithful_text.back rfl)
    |>.seq (gives_required ByUser.faithful.back rfl)

theorem Credentials.faithful : Credentials.codec.Faithful := by
  apply faithful_record (fun _ => rfl)
  rintro t ⟨username, password⟩
  exact (gives_required faithful_text.back rfl).map Credentials.mk
    |>.seq (gives_required faithful_text.back rfl)

theorem Registry.faithful : Registry.codec.Faithful := by
  apply faithful_record (fun _ => rfl)
  rintro t ⟨id, name, url, credentials, createdAt, createdBy⟩
  exact (gives_required faithful_text.back rfl).map Registry.mk
    |>.seq (gives_required faithful_text.back rfl)
    |>.seq (gives_required faithful_text.back rfl)
    |>.seq (gives_optional Credentials.faithful rfl)
    |>.seq (gives_required faithful_text.back rfl)
    |>.seq (gives_required ByUser.faithful.back rfl)

theorem Job.faithful : Job.codec.Faithful := by
  apply faithful_record (fun _ => rfl)
  rintro t ⟨id, resourceId, group, messageName, messageData, queuedAt, notBefore, errorCode, policy,
    retrieved⟩
  exact (gives_required faithful_text.back rfl).map Job.mk
    |>.seq (gives_required faithful_text.back rfl)
    |>.seq (gives_required faithful_text.back rfl)
    |>.seq (gives_required faithful_text.back rfl)
    |>.seq (gives_required faithful_text.back rfl)
    |>.seq (gives_required faithful_text.back rfl)
    |>.seq (gives_required faithful_text.back rfl)
    |>.seq (gives_optional faithful_text rfl)
    |>.seq (gives_required faithful_u8.back rfl)
    |>.seq (gives_required faithful_bool.back rfl)

theorem Profile.faithful : Profile.codec.Faithful := by
  apply faithful_record (fun _ => rfl)
  rintro t ⟨id, email, apiKey, registeredAt⟩
  exact (gives_required faithful_text.back rfl).map Profile.mk
    |>.seq (gives_required faithful_text.back rfl)
    |>.seq (gives_required faithful_text.back rfl)
    |>.seq (gives_required faithful_text.back rfl)

theorem HealthCheck.faithful : HealthCheck.codec.Faithful := by
  apply faithful_record (fun _ => rfl)
  rintro t ⟨version, domain⟩
  exact (gives_required faithful_text.back rfl).map HealthCheck.mk
    |>.seq (gives_required faithful_text.back rfl)

/-- A page of items is faithful if the items are read back. -/
theorem Page.faithful {α : Type} {c : Codec α} (h : c.RoundTrips) : (Page.codec c).Faithful := by
  apply faithful_record (fun _ => rfl)
  rintro t ⟨data, page, isFirstPage, isLastPage, perPage, total⟩
  exact (gives_required h.list.back rfl).map Page.mk
    |>.seq (gives_required faithful_u32.back rfl)
    |>.seq (gives_required faithful_bool.back rfl)
    |>.seq (gives_required faithful_bool.back rfl)
    |>.seq (gives_required faithful_u32.back rfl)
    |>.seq (gives_required faithful_u64.back rfl)

/-- The codecs of what the server answers. -/
inductive Codec.OfAnswer : {α : Type} → Codec α → Prop
  | deployment : OfAnswer Deployment.codec
  | app : OfAnswer App.codec
  | appDetail : OfAnswer AppDetail.codec
  | target : OfAnswer Target.codec
  | registry : OfAnswer Registry.codec
  | job : OfAnswer Job.codec
  | profile : OfAnswer Profile.codec
  | health : OfAnswer HealthCheck.codec
  | list {α : Type} {c : Codec α} (items : OfAnswer c) : OfAnswer c.list
  | page {α : Type} {c : Codec α} (items : OfAnswer c) : OfAnswer (Page.codec c)

theorem Codec.OfAnswer.faithful {α : Type} {c : Codec α} (answer : OfAnswer c) : c.Faithful := by
  induction answer with
  | deployment => exact Deployment.faithful
  | app => exact App.faithful
  | appDetail => exact AppDetail.faithful
  | target => exact Target.faithful
  | registry => exact Registry.faithful
  | job => exact Job.faithful
  | profile => exact Profile.faithful
  | health => exact HealthCheck.faithful
  | list _ items => exact items.back.list
  | page _ items => exact Page.faithful items.back

/-- Every value that the server may answer is read back from what it is written as, in place or held
back. So what any document is read as is what it is written as and read again, although the document
itself may have been another one. -/
theorem answer_survives_round_trip {α : Type} {c : Codec α} (answer : OfAnswer c) :
    (∀ t x, c.decode t (c.encode x) = .ok x) ∧
      ∀ t document x, c.decode t document = .ok x → ∀ t', c.decode t' (c.encode x) = .ok x :=
  ⟨answer.faithful.back, fun _ _ x _ t' => answer.faithful.back t' x⟩

/-- A page of one application, in which members are missing and one is superfluous, is written in
another way, and read as the same page again. -/
theorem page_read_again_from_other_document :
    let codec := Page.codec AppDetail.codec
    let app : Json := .obj
      [("created_at", .str "t"), ("created_by", .obj [("email", .str "a@b.c"), ("id", .str "u1")]),
        ("id", .str "a1"), ("kind", .nat 7), ("name", .str "n"), ("vcs", .obj [("url", .str "u")])]
    let document : Json := .obj
      [("data", .arr [app]), ("first_page", .bool true), ("last_page", .bool true),
        ("page", .nat 1), ("per_page", .nat 20), ("total", .nat 1)]
    ∃ page, codec.decode .inPlace document = .ok page ∧ codec.encode page ≠ document ∧
      codec.decode .inPlace (codec.encode page) = .ok page := by
  intro codec app document
  let detail : AppDetail :=
    { app :=
        { id := "a1", name := "n", cleanupRequestedAt := none, createdAt := "t",
          createdBy := { id := "u1", email := "a@b.c" }, environments := .empty },
      vcs := some { url := "u", token := none }, env := none }
  let page : Page AppDetail :=
    { data := [detail], page := 1, isFirstPage := true, isLastPage := true, perPage := 20,
      total := 1 }
  have decoded : codec.decode .inPlace document = .ok page := rfl
  exact ⟨page, decoded, by decide +kernel,
    (answer_survives_round_trip (.page .appDetail)).2 .inPlace document page decoded .inPlace⟩

end Refetch
