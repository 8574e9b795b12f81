import VoiceHub.Proofs.Hub.Handling
import VoiceHub.Routes

/-!
# What a request leaves to do

Only a recognized intent that is posted makes the hub do something later: the
timer that its dispatch starts, and a follow-up if the answer asks for one.
Registering and publishing add nothing.
-/

namespace VoiceHub

def Payload.asked? (p : Payload) : Option Intent :=
  if p.isRecognized then some p.toIntent else none

def Payload.askedIn? (body : String) : Option Intent :=
  match Payload.ofText body with
  | .ok p => p.asked?
  | .error _ => none

def Payload.askedInBytes? (body : List UInt8) : Option Intent :=
  if body.length ≤ Hub.bodyLimit then
    match Utf8.decode body with
    | .ok text => askedIn? text
    | .error _ => none
  else none

def Http.Request.asked? (request : Http.Request) : Option Intent :=
  if Route.ofPath? request.path = some .intent ∧ request.method = "POST" then
    Payload.askedInBytes? request.body
  else none

namespace Hub

/-! ## Registering and publishing -/

theorem origin_of_mem_registerRecords {h : Handler} {r : Registry}
    {definitions : List Definition} {record : Record}
    (hmem : record ∈ Registry.registerRecords h r definitions) :
    record.origin = .registry := by
  induction definitions generalizing r with
  | nil => cases hmem
  | cons d definitions ih =>
      rcases List.mem_append.mp hmem with hfirst | hrest
      · rw [Option.mem_toList, Registry.addRecord?] at hfirst
        split at hfirst
        · split at hfirst <;> cases hfirst <;> rfl
        · cases hfirst
      · exact ih hrest

theorem quiet_note_records {records : List Record}
    (h : ∀ record ∈ records, record.origin = .registry) (hub : Hub) :
    hub.Quiet
      (records.forM (fun record => outside (World.note (.log record))) hub).2 := by
  induction records generalizing hub with
  | nil => exact .refl hub
  | cons record records ih =>
      have hfirst : record.origin.canMark = false := by
        rw [h record List.mem_cons_self]
        rfl
      have hrest := ih (fun r hmem => h r (List.mem_cons_of_mem _ hmem)) (hub.logged record)
      exact (quiet_logged hub record hfirst).trans hrest

theorem quiet_register (h : Handler) (hub : Hub) :
    { hub with registry := hub.registry.register h }.Quiet (register h hub).2 := by
  have horigin : ∀ record ∈ Registry.registerRecords h hub.registry h.definitions,
      record.origin = .registry := fun _ => origin_of_mem_registerRecords
  have hrecords := quiet_note_records horigin hub
  simp only [register, bind_apply, get_apply]
  obtain ⟨c, s, w, hmarks, hafter⟩ := hrecords
  rw [hafter]
  exact ⟨c, s, w, hmarks, rfl⟩

theorem quiet_update (hub : Hub) : hub.Quiet (update hub).2 :=
  quiet_of_world (Grammar.isQuiet_update _ _ hub.world)

/-! ## Requests -/

def followUpTask (hub : Hub) : Task :=
  { due := Deadline.after hub.now hub.followUpDelay, job := .followUp }

/-- What an intent that is posted leaves to do. -/
def askedTasks (hub : Hub) : Option Intent → List Task
  | none => []
  | some i =>
      hub.dispatchTasks i ++
        if (dispatch i hub).1.continues then [hub.followUpTask] else []

theorem askedTasks_logged (hub : Hub) (r : Record) (asked : Option Intent) :
    (hub.logged r).askedTasks asked = hub.askedTasks asked := by
  cases asked with
  | none => rfl
  | some i =>
      have hreply : (dispatch i (hub.logged r)).1 = (dispatch i hub).1 := by
        apply dispatch_fst_congr <;> rfl
      dsimp only [askedTasks]
      rw [hreply]
      rfl

theorem quiet_respond (p : Payload) (hub : Hub) :
    (hub.planned (hub.askedTasks p.asked?)).Quiet (respond p hub).2 := by
  unfold respond Payload.asked?
  split
  · have hdispatch := quiet_dispatch p.toIntent hub
    unfold askedTasks
    rw [bind_apply, planned_append]
    split
    · obtain ⟨c, s, w, hmarks, hafter⟩ := hdispatch
      rw [hafter]
      exact ⟨c, s, w, hmarks, rfl⟩
    · rw [planned_nil]
      exact hdispatch
  · exact (Quiet.refl hub).of_planned_nil

theorem quiet_receive (body : String) (hub : Hub) :
    (hub.planned (hub.askedTasks (Payload.askedIn? body))).Quiet
      (receive body hub).2 := by
  unfold receive Payload.askedIn?
  rw [bind_apply, log_apply]
  generalize htold : hub.logged _ = told
  have hquiet : hub.Quiet told := by
    rw [← htold]
    exact quiet_logged hub _ rfl
  cases Payload.ofText body with
  | error e => exact hquiet.of_planned_nil
  | ok p =>
      dsimp only
      rw [bind_apply, bind_apply, log_apply]
      have hrespond := quiet_respond p told
      rw [← htold, askedTasks_logged, htold] at hrespond
      exact ((hquiet.planned _).trans hrespond).trans (quiet_logged _ _ rfl)

theorem quiet_receiveBytes (body : List UInt8) (hub : Hub) :
    (hub.planned (hub.askedTasks (Payload.askedInBytes? body))).Quiet
      (receiveBytes body hub).2 := by
  unfold receiveBytes Payload.askedInBytes?
  by_cases hlength : bodyLimit < body.length
  · rw [if_pos hlength, if_neg (Nat.not_le.mpr hlength)]
    exact (Quiet.refl hub).of_planned_nil
  · rw [if_neg hlength, if_pos (Nat.not_lt.mp hlength)]
    cases Utf8.decode body with
    | error e => exact (Quiet.refl hub).of_planned_nil
    | ok text => exact quiet_receive text hub

/-- Without an intent, a route reads the hub or updates the grammar. -/
theorem snd_answer {route : Route} (h : route ≠ .intent) (body : List UInt8) (hub : Hub) :
    (answer body route hub).2 = hub ∨ (answer body route hub).2 = (update hub).2 := by
  cases route with
  | health | intents => exact .inl rfl
  | intent => exact absurd rfl h
  | grammar =>
      left
      cases hgrammar : hub.grammar <;> simp [answer, hgrammar]
  | publish =>
      right
      cases hreport : (update hub).1 <;> simp [answer, hreport]

theorem quiet_answer {route : Route} (h : route ≠ .intent) (body : List UInt8)
    (hub : Hub) : hub.Quiet (answer body route hub).2 := by
  rcases snd_answer h body hub with hread | hupdated
  · rw [hread]
    exact .refl hub
  · rw [hupdated]
    exact quiet_update hub

theorem serve_of_posts {request : Http.Request}
    (hroute : Route.ofPath? request.path = some .intent) (hpost : request.method = "POST")
    (hub : Hub) : serve request hub = receiveBytes request.body hub := by
  have hallowed : Route.allows .intent "POST" = true := by decide
  unfold serve
  rw [hroute, hpost]
  dsimp only
  rw [hallowed, if_neg (by decide)]
  rfl

theorem serve_of_not_posts {request : Http.Request}
    (h : ¬(Route.ofPath? request.path = some .intent ∧ request.method = "POST"))
    (hub : Hub) :
    (serve request hub).2 = hub ∨
      ∃ route, route ≠ .intent ∧ (serve request hub).2 = (answer request.body route hub).2 := by
  unfold serve
  cases hroute : Route.ofPath? request.path with
  | none => exact .inl rfl
  | some route =>
      dsimp only
      cases hallowed : route.allows request.method with
      | false => exact .inl rfl
      | true =>
          refine .inr ⟨route, ?_, rfl⟩
          rintro rfl
          exact h ⟨hroute, by simpa [Route.allows, Route.isRead] using hallowed⟩

theorem quiet_serve (request : Http.Request) (hub : Hub) :
    (hub.planned (hub.askedTasks request.asked?)).Quiet (serve request hub).2 := by
  unfold Http.Request.asked?
  by_cases hposts : Route.ofPath? request.path = some .intent ∧ request.method = "POST"
  · rw [serve_of_posts hposts.1 hposts.2, if_pos hposts]
    exact quiet_receiveBytes request.body hub
  · rw [if_neg hposts]
    refine Quiet.of_planned_nil ?_
    rcases serve_of_not_posts hposts hub with hsame | ⟨route, hroute, hanswer⟩
    · rw [hsame]
      exact .refl hub
    · rw [hanswer]
      exact quiet_answer hroute request.body hub

end Hub

end VoiceHub
