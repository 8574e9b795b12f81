import Mathlib.Data.List.Forall2
import VoiceHub.Grammar
import VoiceHub.Http
import VoiceHub.Payload
import VoiceHub.Proofs.Dict
import VoiceHub.Proofs.Grammar.Walk
import VoiceHub.Proofs.Json.Acceptance
import VoiceHub.Proofs.Json.Writing
import VoiceHub.Proofs.Slots.Assignment

/-!
# Nothing is lost in writing

The text of a slot dictionary is read as the slots with their values, in the order in which
they were given, and the text of an intent as the intent.  What is written says a document,
and that document is taken as what it was made of.  The body of an answer says what the hub
has to tell.
-/

namespace VoiceHub

open Json

/-! ## Slots -/

namespace SlotDictionary

def document (slots : SlotDictionary) : Document :=
  .object (slots.entries.map fun (name, values) =>
    (Text.units name.toList, .array (values.map Document.ofText)))

theorem document_toJson (slots : SlotDictionary) : slots.toJson.document = slots.document := by
  have hvalues (values : List String) :
      (Json.texts values).document = .array (values.map Document.ofText) := by
    rw [Json.texts, Json.document, documents_map]
    rfl
  simp only [toJson, Json.document, entryDocuments_map, hvalues]
  rfl

theorem says_upload (slots : SlotDictionary) : Says slots.upload slots.document :=
  slots.document_toJson ▸ says_compact slots.toJson

theorem takes_document (slots : SlotDictionary) :
    Takes (Shape.entries Shape.value) 2 slots.document
      (slots.entries.map fun (name, values) => (name, .texts values)) := by
  apply takes_entries
  rw [List.forall₂_map_left_iff, List.forall₂_map_right_iff, List.forall₂_same]
  rintro ⟨name, values⟩ -
  refine ⟨rfl, takes_array ?_⟩
  rw [List.forall₂_map_left_iff, List.forall₂_map_right_iff, List.forall₂_same]
  exact fun value _ => takes_value_text value

theorem read_upload (slots : SlotDictionary) :
    Json.read (Shape.entries Shape.value) slots.upload =
      .ok (slots.entries.map fun (name, values) => (name, .texts values)) :=
  read_of_says slots.takes_document (by decide) slots.says_upload

end SlotDictionary

/-! ## Intents -/

namespace Intent

def parametersDocument (i : Intent) : Document :=
  .object (i.parameters.entries.map fun (name, value) =>
    (Text.units name.toList, .ofText value))

def document (i : Intent) : Document :=
  .object [(Text.units "name".toList, .ofText i.name), (Text.units "text".toList, .ofText i.text),
    (Text.units "parameters".toList, i.parametersDocument)]

theorem document_toJson (i : Intent) : i.toJson.document = i.document := by
  simp only [toJson, Json.document, entryDocuments, entryDocuments_map]
  rfl

theorem says_compact_toJson (i : Intent) : Says i.toJson.compact i.document :=
  i.document_toJson ▸ says_compact i.toJson

theorem takes_parametersDocument (i : Intent) :
    Takes (Shape.entries Shape.text) 1 i.parametersDocument i.parameters.entries := by
  apply takes_entries
  rw [List.forall₂_map_left_iff, List.forall₂_same]
  exact fun entry _ => ⟨rfl, takes_text entry.2⟩

def given (i : Intent) : List (Shape.Given Intent) :=
  [{ field := fields.get ⟨0, by decide⟩
     value := .ofText i.name
     change := fun j => { j with name := i.name } },
   { field := fields.get ⟨1, by decide⟩
     value := .ofText i.text
     change := fun j => { j with text := i.text } },
   { field := fields.get ⟨2, by decide⟩
     value := i.parametersDocument
     change := fun j => { j with parameters := Dict.ofList i.parameters.entries } }]

theorem document_eq (i : Intent) : i.document = .object (i.given.map Shape.Given.entry) := rfl

theorem keys_given (i : Intent) : i.given.map Shape.Given.key = fields.map Shape.Field.key := rfl

theorem fits_given (i : Intent) : Shape.Fits fields 1 [] i.given where
  known := by simp [given]
  taken := by
    simp only [given, List.forall_mem_cons]
    exact ⟨(Shape.takes_of (takes_text i.name)).mono (Nat.zero_le 1),
      (Shape.takes_of (takes_text i.text)).mono (Nat.zero_le 1),
      Shape.takes_of i.takes_parametersDocument, by simp⟩
  once := by
    rw [keys_given]
    decide
  unseen := fun _ _ => List.not_mem_nil
  complete field hfield _ := by
    rw [keys_given]
    exact .inr (List.mem_map_of_mem hfield)

theorem ofText_compact (i : Intent) : ofText i.toJson.compact = .ok i := by
  have htakes := Shape.takes_record (by decide) i.fits_given { name := "", text := "" }
  have hchanged : i.given.foldl (fun j x => x.change j) { name := "", text := "" } =
      { i with parameters := Dict.ofList i.parameters.entries } := rfl
  rw [← document_eq, hchanged, Dict.ofList_entries] at htakes
  exact read_of_says htakes (by decide) i.says_compact_toJson

end Intent

/-! ## Answers -/

namespace Http.Answer

/-- The status, and a JSON body that says the document. -/
structure Tells (a : Answer) (status : Nat) (d : Document) : Prop where
  status_eq : a.status = status
  contentType_eq : a.contentType = some "application/json"
  said : Says a.body d

/-- What an intent is answered with, the time it took apart. -/
def Replies (a : Answer) (intentName response : String) : Prop :=
  ∃ time, a.Tells 200 (.ofFields
    [("intent", .ofText intentName), ("time_sec", time), ("response", .ofText response)])

def Refuses (a : Answer) (status : Nat) (message : String) : Prop :=
  a.Tells status (.ofFields [("success", .bool false), ("message", .ofText message)])

def ShowsGrammar (a : Answer) (g : Grammar) : Prop :=
  a.Tells 200 (.ofFields
    [("success", .bool true),
      ("data", .ofFields [("slots", g.slots.document), ("sentences", .ofText g.sentences)])])

theorem tells_json (status : Nat) (v : Json) : (json status v).Tells status v.document :=
  ⟨rfl, rfl, says_compact v⟩

theorem replies_json (r : Reply) : (json 200 r.toJson).Replies r.intent r.response :=
  ⟨(Json.float r.seconds).document, tells_json 200 r.toJson⟩

theorem refuses_json (status : Nat) (message : String) :
    (json status (failure message)).Refuses status message :=
  tells_json status (failure message)

theorem showsGrammar_json (g : Grammar) : (json 200 (success g.toJson)).ShowsGrammar g := by
  have htells := tells_json 200 (success g.toJson)
  simp only [success, Grammar.toJson, Json.document, entryDocuments,
    SlotDictionary.document_toJson] at htells
  exact htells

end Http.Answer

/-- What is uploaded says the slots, and is read as they were given, each once and in the order
of their first use.  An intent is read as it was, in whatever order its parameters are written. -/
theorem artifacts_read_back :
    (∀ {definitions : List Definition} {g : Grammar}, Grammar.compile definitions = .ok g →
      Says g.slots.upload g.slots.document ∧
        ∃ entries : List (String × Json),
          Json.read (Shape.entries Shape.value) g.slots.upload = .ok entries ∧
            entries = g.slots.entries.map (fun (name, values) => (name, .texts values)) ∧
            (entries.map Prod.fst).Nodup ∧
            (entries.map Prod.fst).map some =
              ((namedWalk definitions).map g.slots.resolve).eraseDups) ∧
      ∀ (i : Intent) (parameters : Dict String),
        parameters.entries.Perm i.parameters.entries →
          Says { i with parameters }.toJson.compact { i with parameters }.document ∧
            ∃ j, Intent.ofText { i with parameters }.toJson.compact = .ok j ∧
              j.name = i.name ∧ j.text = i.text ∧ j.parameters = parameters ∧
              ∀ name, j.parameter? name = i.parameter? name := by
  constructor
  · intro definitions g h
    have hnames : (g.slots.entries.map fun (name, values) => (name, Json.texts values)).map
        Prod.fst = g.slots.keys := by
      rw [List.map_map]
      rfl
    refine ⟨g.slots.says_upload, _, g.slots.read_upload, rfl, ?_, ?_⟩
    · rw [hnames]
      exact g.slots.nodup
    · rw [hnames]
      exact SlotDictionary.keys_enterAll (Grammar.compile_eq_ok_iff.mp h).1
  · intro i parameters hparameters
    exact ⟨Intent.says_compact_toJson _, _, Intent.ofText_compact _, rfl, rfl, rfl,
      Dict.find?_eq_of_perm hparameters⟩

def quotedName : String := "Say \"\\\"\n\x01😀"

def greetings : List String := ["\"hi\"", "back\\slash", "tab\tstop", "\x00", "\x7f", "😀"]

def farewells : List String := ["bye", "\\\"", "\r\n", "\x1f", "/", "𝄞"]

def quotedDefinitions : List Definition :=
  [{ name := "Greet"
     sentences := [[.choice { name := quotedName, returned := false, values := greetings }]] },
   { name := "Leave"
     sentences := [[.choice { name := quotedName, returned := false, values := farewells }]] }]

def quotedGrammar : Grammar where
  slots := Dict.ofList [(quotedName, greetings), ("Leave_" ++ quotedName, farewells)]
  sentences := "[Greet]\n$" ++ quotedName ++ "\n\n[Leave]\n$Leave_" ++ quotedName

def quotedIntent : Intent where
  name := "Greet"
  text := "say \"hi\""
  parameters := Dict.ofList [("\\", "\x02"), (quotedName, "\"hi\"")]

def turnedParameters : Dict String := Dict.ofList [(quotedName, "\"hi\""), ("\\", "\x02")]

theorem artifacts_read_back_quoted :
    Grammar.compile quotedDefinitions = .ok quotedGrammar ∧
      Json.read (Shape.entries Shape.value) quotedGrammar.slots.upload =
        .ok [(quotedName, .texts greetings), ("Leave_" ++ quotedName, .texts farewells)] ∧
      turnedParameters.entries.Perm quotedIntent.parameters.entries ∧
      ∃ j, Intent.ofText { quotedIntent with parameters := turnedParameters }.toJson.compact =
          .ok j ∧
        j.name = "Greet" ∧ j.text = "say \"hi\"" ∧ j.parameter? "\\" = some "\x02" ∧
          j.parameter? quotedName = some "\"hi\"" := by
  have hcompile : Grammar.compile quotedDefinitions = .ok quotedGrammar := rfl
  have hturned : turnedParameters.entries.Perm quotedIntent.parameters.entries := by decide
  obtain ⟨hslots, hintents⟩ := artifacts_read_back
  obtain ⟨-, entries, hread, rfl, -, -⟩ := hslots hcompile
  obtain ⟨-, j, hj, hname, htext, -, hparameters⟩ := hintents quotedIntent _ hturned
  exact ⟨hcompile, hread, hturned, j, hj, hname, htext, hparameters _, hparameters _⟩

end VoiceHub
