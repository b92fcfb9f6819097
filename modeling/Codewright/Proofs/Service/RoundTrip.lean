import Codewright.Http.Message
import Codewright.Service.Message
import Codewright.Proofs.Json.Reading
import Codewright.Proofs.Text.Utf8

/-!
# Messages read again

Whoever writes a message in any order of its members, and leaves out members without a value or
writes null for them, is understood. What this project writes itself is one such spelling.
-/

namespace Codewright.Message

open Json (Member Reader Reads Spells readRecord)

variable {α : Type} [Message α] {j : Json} {m : α}

/-- The reader of the messages finds `m` where `j` stands. -/
def Conveys (j : Json) (m : α) : Prop :=
  ∃ value, Reads (reader α) j value ∧ ofJson? value = some m

theorem decodeSymbols_of_conveys (h : Conveys j m) : decodeSymbols (j.chars.map some) = .ok m := by
  obtain ⟨value, hreads, hvalue⟩ := h
  have hread := hreads []
  rw [List.append_nil] at hread
  have hwhole : Json.readWhole (reader α) (j.chars.map some) = .ok value := by
    unfold Json.readWhole
    rw [hread]
    rfl
  unfold decodeSymbols
  rw [hwhole]
  dsimp only
  rw [hvalue]

theorem decode_of_conveys (h : Conveys j m) : decode j.render = .ok m := by
  rw [decode, Json.render, String.toList_ofList]
  exact decodeSymbols_of_conveys h

theorem message_of_conveys {response : Http.Response} (h : Conveys j m)
    (hsuccess : response.isSuccess = true)
    (hcontent : response.content? = some (Text.bytes j.render)) : response.message = .ok m := by
  unfold Http.Response.message
  rw [if_neg (not_not_intro hsuccess), hcontent]
  dsimp only
  rw [Text.symbols_bytes, Json.render, String.toList_ofList, decodeSymbols_of_conveys h]

/-! ## Records of texts -/

/-- The value of the member with a name. -/
def valueIn (fields : List (String × Json)) (name : String) : Json :=
  (fields.lookup name).getD .null

theorem conveys_record {members : List Member} {fields : List (String × Json)}
    (hreader : reader α = readRecord members) (hnames : (members.map (·.name)).Nodup)
    (hfields : List.Forall₂ (Member.Finds · (valueIn fields) ·) members fields)
    (hm : ofJson? (.record (members.map fun m => (m.name, valueIn fields m.name))) = some m)
    (hj : Spells fields j) : Conveys j m :=
  ⟨_, hreader ▸ Json.reads_record hnames hfields hj, hm⟩

theorem finds_text {fields : List (String × Json)} {name s : String}
    (h : valueIn fields name = .text s) :
    (Service.required name Json.readText).Finds (valueIn fields) (name, .text s) where
  name := rfl
  reads := by
    dsimp only [Service.required]
    rw [h]
    exact Json.reads_text s
  absent h := by cases h

theorem finds_nullableText {fields : List (String × Json)} {name : String} {s? : Option String}
    (h : valueIn fields name = .ofText? s?) :
    (⟨name, Json.readNullableText, some .null⟩ : Member).Finds (valueIn fields)
      (name, .ofText? s?) where
  name := rfl
  reads := by
    rw [h]
    exact Json.reads_nullableText s?
  absent hnull := by
    dsimp only at hnull
    rw [h, hnull]

/-! ## Spellings -/

/-- The ways in which a message may be written. -/
class Spelled (α : Type) where
  spelled : α → Json → Prop

export Spelled (spelled)

/-- What is written is understood, however it is spelled, by itself and in a response. -/
structure RoundTrips (α : Type) [Message α] [Spelled α] : Prop where
  decode_encode (m : α) : decode (encode m) = .ok m
  spelled_toJson (m : α) : spelled m (toJson m)
  decode_spelled (m : α) (j : Json) : spelled m j → decode j.render = .ok m
  received (m : α) (j : Json) (response : Http.Response) : spelled m j →
    response.isSuccess = true → response.content? = some (Text.bytes j.render) →
      response.message = .ok m

theorem roundTrips_of_conveys [Spelled α] (htoJson : ∀ m : α, spelled m (toJson m))
    (h : ∀ (m : α) (j : Json), spelled m j → Conveys j m) : RoundTrips α where
  decode_encode m := decode_of_conveys (h m _ (htoJson m))
  spelled_toJson := htoJson
  decode_spelled m j hj := decode_of_conveys (h m j hj)
  received m j _ hj hsuccess hcontent := message_of_conveys (h m j hj) hsuccess hcontent

theorem spells_record (fields : List (String × Json)) : Spells fields (.record fields) :=
  ⟨fields, [], rfl, by rw [List.append_nil], fun _ h => by cases h⟩

end Codewright.Message

namespace Codewright.Service

open Json (Member Spells)
open Message (Conveys Spelled spelled RoundTrips conveys_record finds_text finds_nullableText
  roundTrips_of_conveys spells_record)

variable {j : Json}

instance : Spelled GeneratedFile where
  spelled f := Spells [("filePath", .text f.path), ("fileContent", .text f.content)]

instance : Spelled Conversation where
  spelled c := Spells [("conversationId", .text c.id)]

instance : Spelled UploadRequest where
  spelled r := Spells [("contentChecksumSha256", .text r.checksum)]

instance : Spelled UploadSlot where
  spelled s := Spells [("uploadUrl", .text s.url), ("uploadId", .text s.id),
    ("kmsKeyArn", .ofText? s.kmsKeyArn)]

instance : Spelled PlanRequest where
  spelled r := Spells [("uploadId", .text r.uploadId), ("message", .text r.message)]

instance : Spelled Plan where
  spelled p := Spells [("plan", .ofText? p.text)]

instance : Spelled GenerationRequest where
  spelled r := Spells [("uploadId", .text r.uploadId), ("message", .ofText? r.message)]

instance : Spelled Generation where
  spelled g := Spells [("codeGenerationId", .text g.id)]

instance : Spelled GenerationStatus where
  spelled s := Spells [("status", .text s.status)]

instance : Spelled Export where
  spelled e j := ∃ files, List.Forall₂ spelled e.files files ∧
    Spells [("newFileContents", .list files), ("deletedFiles", .list (e.deleted.map .text))] j

theorem conveys_generatedFile (f : GeneratedFile) (j : Json) (h : spelled f j) : Conveys j f :=
  conveys_record rfl (by decide) (.cons (finds_text rfl) (.cons (finds_text rfl) .nil)) rfl h

theorem roundTrips_generatedFile : RoundTrips GeneratedFile :=
  roundTrips_of_conveys (fun _ => spells_record _) conveys_generatedFile

theorem roundTrips_conversation : RoundTrips Conversation :=
  roundTrips_of_conveys (fun _ => spells_record _) fun _ _ =>
    conveys_record rfl (by decide) (.cons (finds_text rfl) .nil) rfl

theorem roundTrips_uploadRequest : RoundTrips UploadRequest :=
  roundTrips_of_conveys (fun _ => spells_record _) fun _ _ =>
    conveys_record rfl (by decide) (.cons (finds_text rfl) .nil) rfl

theorem nullableTextOf?_ofText? (s? : Option String) :
    nullableTextOf? (.ofText? s?) = some s? := by
  cases s? with
  | none | some => rfl

theorem roundTrips_uploadSlot : RoundTrips UploadSlot :=
  roundTrips_of_conveys (fun _ => spells_record _) fun s _ =>
    conveys_record rfl (by decide)
      (.cons (finds_text rfl) (.cons (finds_text rfl) (.cons (finds_nullableText rfl) .nil)))
      (congrArg (Option.map _) (nullableTextOf?_ofText? s.kmsKeyArn))

theorem roundTrips_planRequest : RoundTrips PlanRequest :=
  roundTrips_of_conveys (fun _ => spells_record _) fun _ _ =>
    conveys_record rfl (by decide) (.cons (finds_text rfl) (.cons (finds_text rfl) .nil)) rfl

theorem roundTrips_plan : RoundTrips Plan :=
  roundTrips_of_conveys (fun _ => spells_record _) fun p _ =>
    conveys_record rfl (by decide) (.cons (finds_nullableText rfl) .nil)
      (congrArg (Option.map _) (nullableTextOf?_ofText? p.text))

theorem spelled_generationRequest (r : GenerationRequest) : spelled r (Message.toJson r) := by
  obtain ⟨uploadId, message⟩ := r
  cases message with
  | none => exact ⟨[("uploadId", .text uploadId)], [("message", .null)], rfl, .rfl, by simp⟩
  | some message => exact spells_record _

theorem roundTrips_generationRequest : RoundTrips GenerationRequest :=
  roundTrips_of_conveys spelled_generationRequest fun r _ =>
    conveys_record rfl (by decide) (.cons (finds_text rfl) (.cons (finds_nullableText rfl) .nil))
      (congrArg (Option.map _) (nullableTextOf?_ofText? r.message))

theorem roundTrips_generation : RoundTrips Generation :=
  roundTrips_of_conveys (fun _ => spells_record _) fun _ _ =>
    conveys_record rfl (by decide) (.cons (finds_text rfl) .nil) rfl

theorem roundTrips_generationStatus : RoundTrips GenerationStatus :=
  roundTrips_of_conveys (fun _ => spells_record _) fun _ _ =>
    conveys_record rfl (by decide) (.cons (finds_text rfl) .nil) rfl

/-! ## Exports -/

theorem exists_values_of_spelled {files : List GeneratedFile} {js : List Json}
    (h : List.Forall₂ spelled files js) :
    ∃ values, List.Forall₂ (Json.Reads (Message.reader GeneratedFile)) js values ∧
      values.mapM Message.ofJson? = some files := by
  induction h with
  | nil => exact ⟨[], .nil, rfl⟩
  | @cons file j files js hj _ ih =>
      obtain ⟨value, hreads, hvalue⟩ := conveys_generatedFile file j hj
      obtain ⟨values, hreadsAll, hvalues⟩ := ih
      exact ⟨value :: values, .cons hreads hreadsAll, by simp [hvalue, hvalues]⟩

theorem reads_texts (texts : List String) :
    List.Forall₂ (Json.Reads Json.readText) (texts.map .text) (texts.map .text) := by
  induction texts with
  | nil => exact .nil
  | cons s texts ih => exact .cons (Json.reads_text s) ih

theorem mapM_textOf? (texts : List String) : (texts.map .text).mapM textOf? = some texts := by
  induction texts with
  | nil => rfl
  | cons s texts ih => simp [textOf?, ih]

theorem ofJson?_export {e : Export} {values : List Json}
    (h : values.mapM Message.ofJson? = some e.files) :
    Message.ofJson? (.record [("newFileContents", .list values),
      ("deletedFiles", .list (e.deleted.map .text))]) = some e := by
  dsimp only [Message.ofJson?] at h ⊢
  rw [h, mapM_textOf?]

theorem conveys_export (e : Export) (j : Json) (h : spelled e j) : Conveys j e := by
  obtain ⟨files, hfiles, hspells⟩ := h
  obtain ⟨values, hvalues, hmapM⟩ := exists_values_of_spelled hfiles
  -- The members are looked up among the values that are read, which the files only spell.
  let read : List (String × Json) :=
    [("newFileContents", .list values), ("deletedFiles", .list (e.deleted.map .text))]
  have hnew : (required "newFileContents" (Json.readList (Message.reader GeneratedFile))).Finds
      (Message.valueIn read) ("newFileContents", .list files) :=
    ⟨rfl, Json.reads_list hvalues, fun h => by cases h⟩
  have hdeleted : (⟨"deletedFiles", Json.readList Json.readText, some (.list [])⟩ : Member).Finds
      (Message.valueIn read) ("deletedFiles", .list (e.deleted.map .text)) :=
    ⟨rfl, Json.reads_list (reads_texts e.deleted), fun h => by cases h⟩
  exact ⟨_, Json.reads_record (by decide) (.cons hnew (.cons hdeleted .nil)) hspells,
    ofJson?_export hmapM⟩

theorem spelled_export (e : Export) : spelled e (Message.toJson e) := by
  refine ⟨e.files.map Message.toJson, ?_, spells_record _⟩
  rw [List.forall₂_map_right_iff]
  exact List.forall₂_same.mpr fun f _ => roundTrips_generatedFile.spelled_toJson f

theorem roundTrips_export : RoundTrips Export :=
  roundTrips_of_conveys spelled_export conveys_export

/-- No message is changed by its way to or from the service, whatever texts it carries. -/
theorem roundTrips_messages :
    RoundTrips GeneratedFile ∧ RoundTrips Conversation ∧ RoundTrips UploadRequest ∧
      RoundTrips UploadSlot ∧ RoundTrips PlanRequest ∧ RoundTrips Plan ∧
      RoundTrips GenerationRequest ∧ RoundTrips Generation ∧ RoundTrips GenerationStatus ∧
      RoundTrips Export :=
  ⟨roundTrips_generatedFile, roundTrips_conversation, roundTrips_uploadRequest,
    roundTrips_uploadSlot, roundTrips_planRequest, roundTrips_plan, roundTrips_generationRequest,
    roundTrips_generation, roundTrips_generationStatus, roundTrips_export⟩

end Codewright.Service
