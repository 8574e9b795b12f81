import Mathlib.Data.List.Nodup
import VoiceHub.Proofs.Publishing.Sequence
import VoiceHub.Proofs.Setup.Directions

/-!
# The requests of a publication

A publisher at a backend makes a request of each call, or none if its URL cannot be asked
or the network cannot be reached.  What the network does with the requests is taken in
turn, and what it does with one of them is all that decides the outcome of its step.
-/

namespace VoiceHub

/-! ## What the network does next -/

def Event.request? : Event → Option OutRequest
  | .request sent => some sent
  | _ => none

namespace World

def requests (w : World) : List OutRequest := w.journal.filterMap Event.request?

def isServing (w : World) : Bool := w.network ≠ .unreachable

/-- What the network does with a request after so many others, if it can be reached. -/
def behaviour (w : World) (place : Nat) (request : OutRequest) : Option Exchange :=
  match w.network with
  | .unreachable => none
  | .serving replies =>
      some ((w.exchangeMishap (w.callCount + 1 + place) request).getD
        (replies[place]?.getD (.reply 200 [])))

/-- These requests and no other calls came between the one world and the other, and the
network goes on from there. -/
structure Asked (sent : List OutRequest) (w w' : World) : Prop where
  calls_eq : w'.calls = w.calls ++ sent.map .request
  isServing_eq : w'.isServing = w.isServing
  behaviour_eq : ∀ place request,
    w'.behaviour place request = w.behaviour (sent.length + place) request

namespace Asked

variable {w w' w'' : World} {sent later : List OutRequest}

theorem requests_eq (h : Asked sent w w') : w'.requests = w.requests ++ sent := by
  have hrequests (w : World) : w.requests = w.calls.filterMap Event.request? := by
    rw [requests, calls, List.filterMap_filter]
    refine List.filterMap_congr fun event _ => ?_
    cases event <;> rfl
  have hsent : (sent.map Event.request).filterMap Event.request? = sent := by
    rw [List.filterMap_map]
    exact List.filterMap_some
  rw [hrequests, hrequests, h.calls_eq, List.filterMap_append, hsent]

theorem refl (w : World) : Asked [] w w := by
  constructor <;> simp

theorem trans (h : Asked sent w w') (h' : Asked later w' w'') :
    Asked (sent ++ later) w w'' := by
  constructor
  · rw [h'.calls_eq, h.calls_eq, List.map_append, List.append_assoc]
  · rw [h'.isServing_eq, h.isServing_eq]
  · intro place request
    rw [h'.behaviour_eq, h.behaviour_eq, List.length_append, Nat.add_assoc]

theorem logged (w : World) (r : Record) : Asked [] w (w.logged r) := by
  constructor
  · simp
  · rfl
  · intro place request
    unfold behaviour
    rw [callCount_logged]
    simp [World.logged]

end Asked

theorem send_asked (request : OutRequest) (w : World) :
    (send request w).1 = w.behaviour 0 request ∧
      Asked (if w.isServing then [request] else []) w (send request w).2 := by
  rw [send_apply]
  unfold behaviour isServing
  cases hnetwork : w.network with
  | unreachable => exact ⟨rfl, by simpa using Asked.refl w⟩
  | serving replies =>
      constructor
      · simp [exchange, callCount, Event.isCall, List.head?_eq_getElem?, List.headD_eq_head?_getD]
      · constructor
        · simp [calls, Event.isCall]
        · simp [isServing, hnetwork]
        · intro place other
          simp [behaviour, hnetwork, callCount, Event.isCall, Nat.add_comm, Nat.add_left_comm]

end World

/-! ## One call -/

def PublishCall.complaint : PublishCall → String
  | .slots _ => "Failed to upload slots: "
  | .sentences _ => "Failed to upload sentences: "
  | .train => "Training failed: "

namespace Backend

def request (b : Backend) (call : PublishCall) : OutRequest :=
  let bare : OutRequest := { method := "POST", url := b.root ++ "/" ++ call.path }
  match call with
  | .slots slots => { bare with contentType := some "application/json", body := slots.upload }
  | .sentences text => { bare with body := text }
  | .train => bare

def isAskable (url : String) : Bool :=
  ((Url.parse? url).map Url.withoutCredentials).any Url.canBeAsked

def transportReason (url : String) : String :=
  match (Url.parse? url).map Url.withoutCredentials with
  | none => "builder error"
  | some target =>
      if target.canBeAsked then "error sending request for url (" ++ target.text ++ ")"
      else "builder error for url (" ++ target.text ++ ")"

def sends (b : Backend) (w : World) (call : PublishCall) : Bool :=
  isAskable (b.request call).url && w.isServing

def fate (b : Backend) (w : World) (before : List PublishCall) (call : PublishCall) :
    Option Exchange :=
  if isAskable (b.request call).url then w.behaviour (before.countP (b.sends w)) (b.request call)
  else none

def Arrives : Option Exchange → Prop
  | some (.reply status _) => 200 ≤ status ∧ status < 300
  | _ => False

def reason (url : String) : Option Exchange → String
  | some (.reply status body) =>
      "Rhasspy returned " ++ Decimal.text status ++ " for " ++ url ++ ": " ++
        Utf8.decodeLossy body
  | _ => "Rhasspy not reachable at " ++ url ++ ": " ++ transportReason url

/-- The call returns what its request has met with, whatever the body of a success. -/
structure Judges (b : Backend) (a : Attempt) (fate : Option Exchange) : Prop where
  succeeded : a.result = .ok () ↔ Arrives fate
  failed : ∀ e, a.result = .error e →
    e.message = a.call.complaint ++ reason (b.request a.call).url fate

def heard (url : String) : Option Exchange → Except BackendError String
  | some (.reply status body) =>
      if isSuccess status then .ok (Utf8.decodeLossy body)
      else .error (.status url status (Utf8.decodeLossy body))
  | _ => .error (.notReachable url (transportReason url))

theorem isSuccess_iff (status : Nat) : isSuccess status = true ↔ 200 ≤ status ∧ status < 300 := by
  simp [isSuccess]

theorem exists_heard_ok_iff (url : String) {fate : Option Exchange} :
    (∃ body, heard url fate = .ok body) ↔ Arrives fate := by
  unfold heard
  split
  · next status body =>
      change _ ↔ 200 ≤ status ∧ status < 300
      rw [← isSuccess_iff]
      split <;> simp_all
  · next hnone =>
      constructor
      · rintro ⟨body, hbody⟩
        cases hbody
      · intro harrives
        unfold Arrives at harrives
        split at harrives
        · exact absurd rfl (hnone _ _)
        · exact harrives.elim

theorem message_of_heard_error {url : String} {fate : Option Exchange} {e : BackendError}
    (h : heard url fate = .error e) : e.message = reason url fate := by
  unfold heard at h
  unfold reason
  split at h
  · split at h
    · cases h
    · cases h
      rfl
  · cases h
    rfl

section Send

variable {request : OutRequest} {target : Url}

theorem send_of_not_askable (h : isAskable request.url = false) (w : World) :
    send request w = (heard request.url none, w.logged (requestRecord request.url)) := by
  unfold isAskable at h
  unfold send heard transportReason
  cases htarget : (Url.parse? request.url).map Url.withoutCredentials with
  | none => rfl
  | some target =>
      have hasked : target.canBeAsked = false := by simpa [htarget] using h
      simp only [hasked]
      rfl

theorem send_of_askable (h : isAskable request.url = true) (w : World) :
    ∃ told : Record,
      let sent := World.send request ((w.logged (requestRecord request.url)).logged told)
      send request w = (heard request.url sent.1, sent.2) := by
  unfold isAskable at h
  unfold send heard transportReason
  cases htarget : (Url.parse? request.url).map Url.withoutCredentials with
  | none => simp [htarget] at h
  | some target =>
      have hasked : target.canBeAsked = true := by simpa [htarget] using h
      refine ⟨{ level := .debug, origin := .connection,
                message := "starting new connection: " ++ target.server.text }, ?_⟩
      simp only [hasked, if_true, Bool.not_true, Bool.false_eq_true, if_false, Act.bind_apply,
        World.log_apply, requestRecord]
      generalize World.send request _ = sent
      obtain ⟨fate, w'⟩ := sent
      rcases fate with _ | ⟨status, body⟩ | _
      · rfl
      · dsimp only
        split <;> rfl
      · rfl

end Send

/-- A request is announced, and goes out if its URL can be asked. -/
theorem send_spec (request : OutRequest) (w : World) :
    (send request w).1 =
        heard request.url (if isAskable request.url then w.behaviour 0 request else none) ∧
      World.Asked (if isAskable request.url && w.isServing then [request] else []) w
        (send request w).2 := by
  have hannounced := World.Asked.logged w (requestRecord request.url)
  cases h : isAskable request.url with
  | false =>
      rw [send_of_not_askable h]
      exact ⟨rfl, hannounced⟩
  | true =>
      obtain ⟨told, hsend⟩ := send_of_askable h w
      have hbefore := hannounced.trans (.logged _ told)
      obtain ⟨hanswer, hafter⟩ := World.send_asked request
        ((w.logged (requestRecord request.url)).logged told)
      rw [hsend]
      constructor
      · dsimp only
        rw [hanswer, hbefore.behaviour_eq]
        rfl
      · rw [hbefore.isServing_eq] at hafter
        exact hbefore.trans hafter

def failure : PublishCall → String → PublishError
  | .slots _, reason => .upload .slots reason
  | .sentences _, reason => .upload .sentences reason
  | .train, reason => .train reason

theorem message_failure (call : PublishCall) (reason : String) :
    (failure call reason).message = call.complaint ++ reason := by
  cases call <;> rfl

theorem publish_eq (b : Backend) (call : PublishCall) (w : World) :
    (b.publish call w).1 =
        (match (send (b.request call) w).1 with
        | .ok _ => .ok ()
        | .error e => .error (failure call e.message)) ∧
      World.Asked [] (send (b.request call) w).2 (b.publish call w).2 := by
  cases call with
  | slots slots =>
      have hpost : b.post "slots?overwrite_all=true" slots.upload (some "application/json") =
          send (b.request (.slots slots)) := rfl
      simp only [publish, postSlots, hpost, Act.bind_apply]
      generalize send (b.request (.slots slots)) w = sent
      obtain ⟨result, w'⟩ := sent
      cases result <;> exact ⟨rfl, .refl w'⟩
  | sentences text =>
      have hpost : b.post "sentences" text = send (b.request (.sentences text)) := rfl
      simp only [publish, postSentences, hpost, Act.bind_apply]
      generalize send (b.request (.sentences text)) w = sent
      obtain ⟨result, w'⟩ := sent
      cases result <;> exact ⟨rfl, .refl w'⟩
  | train =>
      have hpost : b.train = send (b.request .train) := rfl
      simp only [publish, hpost, Act.bind_apply]
      generalize send (b.request .train) w = sent
      obtain ⟨result, w'⟩ := sent
      cases result with
      | error e => exact ⟨rfl, .refl w'⟩
      | ok message => exact ⟨rfl, .logged w' _⟩

theorem publish_spec (b : Backend) (call : PublishCall) (w : World) :
    b.Judges ⟨call, (b.publish call w).1⟩ (b.fate w [] call) ∧
      World.Asked (if b.sends w call then [b.request call] else []) w (b.publish call w).2 := by
  obtain ⟨hresult, hafter⟩ := b.publish_eq call w
  obtain ⟨hheard, hsent⟩ := send_spec (b.request call) w
  change _ = heard _ (b.fate w [] call) at hheard
  rw [hheard] at hresult
  constructor
  · constructor
    · rw [hresult, ← exists_heard_ok_iff (b.request call).url]
      cases heard (b.request call).url (b.fate w [] call) <;> simp
    · intro e he
      rw [hresult] at he
      cases hcome : heard (b.request call).url (b.fate w [] call) with
      | ok body => simp [hcome] at he
      | error e' =>
          rw [hcome] at he
          cases he
          rw [message_failure, message_of_heard_error hcome]
  · have hboth := hsent.trans hafter
    rwa [List.append_nil] at hboth

end Backend

/-! ## All calls -/

theorem Backend.sends_eq {b : Backend} {w w' : World} {sent : List OutRequest}
    (h : World.Asked sent w w') : b.sends w' = b.sends w := by
  funext call
  simp [sends, h.isServing_eq]

theorem Backend.fate_of_asked {b : Backend} {w w' : World} (before : List PublishCall)
    (h : World.Asked ((before.filter (b.sends w)).map b.request) w w')
    (later : List PublishCall) (call : PublishCall) :
    b.fate w' later call = b.fate w (before ++ later) call := by
  unfold fate
  rw [sends_eq h, h.behaviour_eq, List.length_map, ← List.countP_eq_length_filter,
    List.countP_append]

/-- Every call is judged by what became of its own request. -/
theorem Leads.asked {b : Backend} {w w' : World} {attempts : List Attempt}
    (h : Leads (.backend b) w attempts w') :
    World.Asked (((attempts.map Attempt.call).filter (b.sends w)).map b.request) w w' ∧
      ∀ before a after, attempts = before ++ a :: after →
        b.Judges a (b.fate w (before.map Attempt.call) a.call) := by
  induction h with
  | done => exact ⟨.refl _, by simp⟩
  | @told w w' attempts r _ _ ih =>
      obtain ⟨hasked, hjudged⟩ := ih
      have htold := World.Asked.logged w r
      rw [Backend.sends_eq htold] at hasked
      refine ⟨htold.trans hasked, ?_⟩
      intro before a after hsplit
      have hfate := Backend.fate_of_asked (b := b) [] htold (before.map Attempt.call) a.call
      rw [← List.nil_append (before.map Attempt.call), ← hfate]
      exact hjudged before a after hsplit
  | @called w w' attempts call _ ih =>
      obtain ⟨hasked, hjudged⟩ := ih
      obtain ⟨hjudges, hsent⟩ := b.publish_spec call w
      have hcalled : World.Asked (([call].filter (b.sends w)).map b.request) w
          (b.publish call w).2 := by
        cases hsends : b.sends w call <;> simpa [hsends] using hsent
      constructor
      · have hsends : b.sends (Service.publish call (.backend b) w).2 = b.sends w :=
          Backend.sends_eq hsent
        rw [hsends] at hasked
        have hboth := hcalled.trans hasked
        rwa [← List.map_append, ← List.filter_append] at hboth
      · -- a call that is sent uses up one behaviour, so it counts before the later ones
        intro before a after hsplit
        cases before with
        | nil =>
            obtain ⟨rfl, -⟩ := List.cons.inj hsplit
            exact hjudges
        | cons first before =>
            obtain ⟨rfl, hrest⟩ := List.cons.inj hsplit
            have hfate := Backend.fate_of_asked [call] hcalled (before.map Attempt.call) a.call
            rw [List.map_cons, ← List.singleton_append, ← hfate]
            exact hjudged before a after hrest

/-! ## Publications -/

/-- The dictionary is sent as JSON, the text as it is, and nothing with the training. -/
def PublishCall.IsSentAs : PublishCall → String → Prop
  | .slots dictionary, body => Json.Says body dictionary.document
  | .sentences text, body => body = text
  | .train, body => body = ""

/-- The calls went out as requests, each at most once and in order, and every step has the
outcome that its own request met with. -/
structure Requested (b : Backend) (calls : List PublishCall) (w : World)
    (attempts : List Attempt) (r : PublishReport) (w' : World) : Prop where
  calls_eq : attempts.map Attempt.call = calls
  requests_eq : w'.requests = w.requests ++ (calls.filter (b.sends w)).map b.request
  bodies : ∀ call ∈ calls, call.IsSentAs (b.request call).body
  distinct : (calls.map b.request).Nodup
  mirrors : r.Mirrors attempts
  judged : ∀ before a after, attempts = before ++ a :: after →
    b.Judges a (b.fate w (before.map Attempt.call) a.call)
  decided : ∀ before call after, calls = before ++ call :: after →
    (r.outcome call.step = .succeeded ↔ Backend.Arrives (b.fate w before call)) ∧
      (r.outcome call.step = .failed ↔ ¬ Backend.Arrives (b.fate w before call))

theorem PublishReport.Mirrors.outcome_iff {r : PublishReport} {attempts : List Attempt}
    {a : Attempt} (h : r.Mirrors attempts)
    (hsteps : (attempts.map fun a => a.call.step).Nodup) (ha : a ∈ attempts) :
    (r.outcome a.call.step = .succeeded ↔ a.result = .ok ()) ∧
      (r.outcome a.call.step = .failed ↔ ¬ a.result = .ok ()) := by
  have honly : ∀ b ∈ attempts, b.call.step = a.call.step → b = a := by
    intro b hb hsame
    exact List.inj_on_of_nodup_map hsteps hb ha hsame
  constructor
  · rw [h.succeeded]
    constructor
    · rintro ⟨b, hb, hsame, hok⟩
      rwa [honly b hb hsame] at hok
    · intro hok
      exact ⟨a, ha, rfl, hok⟩
  · rw [h.failed]
    constructor
    · rintro ⟨b, hb, hsame, e, he⟩ hok
      rw [honly b hb hsame, hok] at he
      cases he
    · intro hnot
      cases hresult : a.result with
      | ok _ => exact absurd hresult hnot
      | error e => exact ⟨a, ha, rfl, e, hresult⟩

theorem Backend.nodup_requests (b : Backend) {calls : List PublishCall}
    (h : (calls.map PublishCall.step).Nodup) : (calls.map b.request).Nodup := by
  have hurl (call : PublishCall) : (b.request call).url = b.endpoint call.path := by
    cases call <;> rfl
  have hslash (call : PublishCall) : '/' ∉ call.path.toList := by
    cases call <;> simp [PublishCall.path]
  have hstep {call other : PublishCall} (hsame : b.request call = b.request other) :
      call.step = other.step := by
    have hpath := congrArg OutRequest.url hsame
    rw [hurl, hurl] at hpath
    have hpaths := (endpoint_inj (hslash call) (hslash other) hpath).2
    cases call <;> cases other <;> first | rfl | exact absurd hpaths (by simp [PublishCall.path])
  rw [List.nodup_iff_pairwise_ne, List.pairwise_map] at h ⊢
  exact h.imp fun hne hsame => hne (hstep hsame)

theorem Sequenced.requested {b : Backend} {calls : List PublishCall} {w w' : World}
    {attempts : List Attempt} {r : PublishReport}
    (h : Sequenced (.backend b) calls w attempts r w')
    (hsteps : (calls.map PublishCall.step).Nodup) : Requested b calls w attempts r w' := by
  obtain ⟨hasked, hjudged⟩ := h.leads.asked
  refine ⟨h.calls_eq, ?_, ?_, b.nodup_requests hsteps, h.mirrors, hjudged, ?_⟩
  · rw [← h.calls_eq]
    exact hasked.requests_eq
  · intro call _
    cases call with
    | slots slots => exact slots.says_upload
    | sentences text | train => rfl
  · intro before call after hsplit
    rw [← h.calls_eq] at hsplit hsteps
    obtain ⟨made, rest, rfl, rfl, hrest⟩ := List.map_eq_append_iff.mp hsplit
    obtain ⟨a, later, rfl, rfl, -⟩ := List.map_eq_cons_iff.mp hrest
    rw [List.map_map] at hsteps
    rw [← (hjudged made a later rfl).succeeded]
    exact h.mirrors.outcome_iff hsteps (by simp)

theorem Backend.ofUrl_eq_of_slashes {url other : String} {root : List Char} {m n : Nat}
    (h : url.toList = root ++ List.replicate m '/')
    (h' : other.toList = root ++ List.replicate n '/') : ofUrl url = ofUrl other := by
  have hdrop (count : Nat) : (List.replicate count '/' ++ root.reverse).dropWhile (· = '/') =
      root.reverse.dropWhile (· = '/') := by
    induction count with
    | zero => rfl
    | succ count ih => simp [List.replicate_succ]
  simp only [ofUrl, h, h', List.reverse_append, List.reverse_replicate, hdrop]

/-- Publishing a grammar makes at most one request for each of its calls, and the next
behaviour of the network decides what comes of it.  The slashes at the end of the URL
do not count. -/
theorem Grammar.publish_requested {g : Grammar}
    (h : g.slots.entries ≠ [] ∨ g.sentences ≠ "") (url : String) (w : World) :
    (Backend.ofUrl url).IsAt url ∧
      (∃ attempts, Requested (.ofUrl url)
        ((if g.slots.entries = [] then [] else [.slots g.slots]) ++
          (if g.sentences = "" then [] else [.sentences g.sentences]) ++ [.train])
        w attempts (g.publish (.backend (.ofUrl url)) w).1
        (g.publish (.backend (.ofUrl url)) w).2) ∧
      ∀ (other : String) (root : List Char) (m n : Nat),
        url.toList = root ++ List.replicate m '/' →
          other.toList = root ++ List.replicate n '/' →
            g.publish (.backend (.ofUrl other)) w = g.publish (.backend (.ofUrl url)) w := by
  refine ⟨Backend.isAt_ofUrl url, ?_, ?_⟩
  · have hcalls : g.calls = (if g.slots.entries = [] then [] else [.slots g.slots]) ++
        (if g.sentences = "" then [] else [.sentences g.sentences]) ++ [.train] := by
      have hsome : ¬(g.slots.entries = [] ∧ g.sentences = "") := not_and_or.mpr h
      rw [calls, if_neg hsome]
    obtain ⟨attempts, hsequenced⟩ := g.sequenced_publish (.backend (.ofUrl url)) w
    rw [← hcalls]
    exact ⟨attempts, hsequenced.requested g.nodup_steps_calls⟩
  · intro other root m n hurl hother
    rw [Backend.ofUrl_eq_of_slashes hurl hother]

def wearyWorld : World :=
  { network := .serving
      [.reply 500 "full".toUTF8.toList, .lost, .reply 204 [], .reply 404 []] }

theorem Grammar.publish_requested_weary :
    let ran := Grammar.crossedGrammar.publish (.backend (.ofUrl "http://[::1]/api//")) wearyWorld
    Grammar.crossedGrammar.sentences ≠ "" ∧
      (∃ attempts, Requested ⟨"http://[::1]/api"⟩
        [.slots Grammar.crossedGrammar.slots,
          .sentences Grammar.crossedGrammar.sentences, .train]
        wearyWorld attempts ran.1 ran.2) ∧
      ran.1 =
        { slots := .failed, sentences := .failed, training := .succeeded
          errors :=
            ["Failed to upload slots: Rhasspy returned 500 for " ++
                "http://[::1]/api/slots?overwrite_all=true: full",
              "Failed to upload sentences: Rhasspy not reachable at " ++
                "http://[::1]/api/sentences: error sending request for url " ++
                "(http://[::1]/api/sentences)"] } ∧
      ran.2.requests =
        [{ method := "POST", url := "http://[::1]/api/slots?overwrite_all=true"
           contentType := some "application/json", body := Hub.crossedSlotsText },
          { method := "POST", url := "http://[::1]/api/sentences"
            body := Grammar.crossedGrammar.sentences },
          { method := "POST", url := "http://[::1]/api/train?nocache=true" }] := by
  have hsome : Grammar.crossedGrammar.sentences ≠ "" := by decide
  have hrequested := (Grammar.publish_requested (.inr hsome) "http://[::1]/api//" wearyWorld).2.1
  refine ⟨hsome, hrequested, ?_, ?_⟩
  · decide +kernel
  · decide +kernel

end VoiceHub
