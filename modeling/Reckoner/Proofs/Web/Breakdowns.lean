import Reckoner.Proofs.Chat.FailedTurns
import Reckoner.Proofs.Chat.Replies
import Reckoner.Proofs.Chat.Requests
import Reckoner.Proofs.Outcomes
import Reckoner.Proofs.Web.Frameworks
import Reckoner.Web.Service.Handling

namespace Reckoner

namespace Chat

namespace Assistant

end Assistant

end Chat

namespace Web

theorem Content.spoken {c : Content} {said : Chat.Request} (h : c.check = .ok said) :
    Text.blank said.message = false := by
  unfold check at h
  rw [Schema.under_eq_ok] at h
  split at h
  · simp [Schema.refuse] at h
  · exact Chat.Request.spoken h
  · simp [Schema.refuse] at h
  · simp [Schema.refuse] at h

namespace Service

variable {w : Framework} {s : Service} {time : String} {context : Context} {r : Request}

/-- Runs are to be traced, and there is a gateway for them, but the client is not there or fails. -/
structure Untraceable (s : Service) : Prop where
  gateway : ∃ g, s.gateway = .ok g
  traced : s.settings.tracing.isEnabled = true
  failing : ∀ trace, s.client = some trace → (trace s.settings.tracing).isSome = true

/-- The message in a body is accepted, and a call of the model in its turn fails in a way that is told to
nobody. -/
def TurnBreaks (s : Service) (context : Context) (content : Content) : Prop :=
  ∃ said g message, content.check = .ok said ∧ s.gateway = .ok g ∧ ¬ s.Untraceable ∧
    (s.assistant.respond g context said.sessionId said.message said.verbose).2.2.2 =
      .error (.defect (.value message))

/-- When serving a request at an endpoint breaks down. -/
def Breaks (w : Framework) (s : Service) (context : Context) (r : Request) : Endpoint → Prop
  | .say => ∃ content, w.content r = .ok content ∧ (s.Untraceable ∨ s.TurnBreaks context content)
  | .openSession _ | .showSession _ | .dropSession _ => s.Untraceable
  | .listen => (∃ stream, askedStream r.query = .ok stream) ∧ s.assistant.feed = none
  | .evaluate | .modelStatus | .health => False

/-- A page of another origin asks beforehand whether it may call, and is answered. -/
def IsPreflight (w : Framework) (s : Service) (r : Request) : Prop :=
  s.settings.origins ≠ [] ∧ (w.preflight ⟨s.settings.origins⟩ r).isSome = true

/-- The address of a request cannot be taken apart, or the request is led to an endpoint and breaks down there. -/
inductive BreaksDown (w : Framework) (s : Service) (fresh : String) (r : Request) : Prop where
  | unaddressed (nowhere : w.addressPath r = none)
  | served {context : Context} {e : Endpoint} (bound : contextOf w fresh r = some context)
    (reached : ¬ s.IsPreflight w r) (place : w.place (routes s.settings.enableEvents) r = .endpoint e)
    (breaks : s.Breaks w context r e)

/-- A request is served at an endpoint, or is answered by the framework without a change. -/
theorem route_cases (w : Framework) (s : Service) (time : String) (context : Context) (r : Request) :
    (∃ e, w.place (routes s.settings.enableEvents) r = .endpoint e ∧
      s.route w time context r = ((s.serve w time context r e).1,
        match (s.serve w time context r e).2 with
        | .ok response => some response
        | .error t => t.response? context.requestId)) ∨
    ∃ response, w.place (routes s.settings.enableEvents) r = .own response ∧
      s.route w time context r = (s, some response) := by
  unfold route
  cases hp : w.place (routes s.settings.enableEvents) r with
  | endpoint e =>
    refine Or.inl ⟨e, rfl, ?_⟩
    dsimp only
    rcases hs : s.serve w time context r e with ⟨after, t | response⟩ <;> rfl
  | own response => exact Or.inr ⟨response, rfl, rfl⟩

/-- A page that asks beforehand is answered at once; to other pages something may be told in addition. -/
theorem answer_cases (w : Framework) (s : Service) (time : String) (context : Context) (r : Request) :
    (s.IsPreflight w r ∧ ∃ c response, w.preflight c r = some response ∧
      s.answer w time context r = (s, some response)) ∨
    ¬ s.IsPreflight w r ∧ ∃ expose : Response → Response, (expose = id ∨ ∃ c, expose = w.expose c r) ∧
      s.answer w time context r =
        ((s.route w time context r).1, (s.route w time context r).2.map expose) := by
  unfold answer IsPreflight
  cases ho : s.settings.origins with
  | nil =>
    refine Or.inr ⟨fun h => h.1 rfl, id, Or.inl rfl, ?_⟩
    rw [Option.map_id]
    rfl
  | cons first others =>
    cases hp : w.preflight ⟨first :: others⟩ r with
    | some response =>
      exact Or.inl ⟨⟨by simp, by simp⟩, ⟨first :: others⟩, response, hp, by simp [hp]⟩
    | none =>
      exact Or.inr ⟨fun h => by simp at h, w.expose ⟨first :: others⟩ r, Or.inr ⟨_, rfl⟩, by simp [hp]⟩

/-- Events can be told wherever they can be listened to. -/
def Wired (s : Service) : Prop :=
  s.settings.enableEvents = true → s.assistant.feed.isSome = true

theorem wired_ofSettings (client : Option Config.Client) (settings : Config.Settings) :
    (ofSettings client settings).Wired := by
  intro enabled
  have enabled' : settings.enableEvents = true := enabled
  simp [ofSettings, assistantOf, enabled']

/-- Whoever tells one session only keeps what tells the others. -/
theorem isSome_of_toldOnly {sessionId : String} {before after : Option Feed}
    (h : Chat.ToldOnly sessionId before after) : after.isSome = before.isSome := by
  have other : sessionId ++ "x" ≠ sessionId := by
    intro same
    have lengths := congrArg String.length same
    simp at lengths
  have told := congrArg Option.isSome (h (sessionId ++ "x") other)
  rwa [Option.isSome_map, Option.isSome_map] at told

/-- The settings, and whether events can be told, are as before. -/
structure Keeps (s after : Service) : Prop where
  settings : after.settings = s.settings
  feed : after.assistant.feed.isSome = s.assistant.feed.isSome

theorem Keeps.refl (s : Service) : s.Keeps s := ⟨rfl, rfl⟩

theorem keeps_say (w : Framework) (s : Service) (context : Context) (r : Request) :
    s.Keeps (s.say w context r).1 := by
  unfold say
  split
  · exact .refl s
  split
  · exact .refl s
  · exact .refl s
  · rename_i g said _ _
    have told := Chat.Assistant.toldOnly_respondWith Gateway.Canned.generate g s.assistant context
      said.sessionId said.message said.verbose
    rw [Chat.Assistant.respondWith_canned] at told
    exact ⟨rfl, isSome_of_toldOnly told⟩

theorem keeps_openSession (s : Service) (id : String) : s.Keeps (s.openSession id).1 := by
  unfold openSession
  split
  · exact .refl s
  · rename_i g _
    refine ⟨rfl, ?_⟩
    show (s.assistant.start g id).1.feed.isSome = s.assistant.feed.isSome
    unfold Chat.Assistant.start
    split <;> rfl

theorem keeps_dropSession (s : Service) (id : String) : s.Keeps (s.dropSession id).1 := by
  unfold dropSession
  split
  · exact .refl s
  split
  · exact .refl s
  · rename_i assistant reset
    obtain ⟨store, -, forgotten⟩ := bind_eq_ok.mp reset
    obtain rfl := Except.ok.inj forgotten
    exact ⟨rfl, Option.isSome_map⟩

theorem keeps_listen (s : Service) (time : String) (q : Query) : s.Keeps (s.listen time q).1 := by
  unfold listen
  split
  · exact .refl s
  · exact .refl s
  · rename_i stream feed _ told
    refine ⟨rfl, ?_⟩
    rw [told]
    rfl

/-- Serving a request changes neither the settings nor whether events can be told. -/
theorem keeps_serve (w : Framework) (s : Service) (time : String) (context : Context) (r : Request) (e : Endpoint) :
    s.Keeps (s.serve w time context r e).1 := by
  cases e with
  | evaluate | modelStatus | showSession | health => exact .refl s
  | say => exact keeps_say w s context r
  | openSession id => exact keeps_openSession s id
  | dropSession id => exact keeps_dropSession s id
  | listen => exact keeps_listen s time r.query

/-- Routing a request to its place keeps what serving it keeps. -/
theorem Wired.route (h : s.Wired) (w : Framework) (time : String) (context : Context) (r : Request) :
    (s.route w time context r).1.Wired := by
  rcases route_cases w s time context r with ⟨e, -, same⟩ | ⟨response, -, same⟩
  · obtain ⟨settings, feed⟩ := keeps_serve w s time context r e
    rw [same]
    intro enabled
    rw [feed]
    exact h (settings ▸ enabled)
  · rw [same]
    exact h

theorem Wired.handle (h : s.Wired) (w : Framework) (time fresh : String) (r : Request) :
    (s.handle w time fresh r).1.Wired := by
  unfold Service.handle
  split
  · exact h
  · rename_i context _
    have answered : (s.answer w time context r).1.Wired := by
      rcases answer_cases w s time context r with ⟨-, c, response, -, same⟩ | ⟨-, f, -, same⟩
      · rw [same]
        exact h
      · rw [same]
        exact h.route w time context r
    rcases ha : s.answer w time context r with ⟨after, none | response⟩ <;> rw [ha] at answered <;> exact answered

/-- A service as it runs: it was started, has handled requests, and its gateway may be in any state. -/
inductive Running (w : Framework) : Service → Prop where
  | started (client : Option Config.Client) (settings : Config.Settings) : Running w (ofSettings client settings)
  | handled {s : Service} (time fresh : String) (r : Request) :
    Running w s → Running w (s.handle w time fresh r).1
  | moved {s : Service} (gateway : Except GatewayFailure Gateway.Canned) :
    Running w s → Running w { s with gateway }

theorem Running.wired (h : s.Running w) : s.Wired := by
  induction h with
  | started client settings => exact wired_ofSettings client settings
  | handled time fresh r _ ih => exact ih.handle w time fresh r
  | moved gateway _ ih => exact ih

theorem endpoint_fixed {method path : String} {e e' : Endpoint} {p : List Char}
    (h : (Route.fixed method path e).accepts p = some e') : e' = e := by
  unfold Route.fixed at h
  dsimp only at h
  split at h
  · exact (Option.some.inj h).symm
  · cases h

theorem endpoint_session {method : String} {make : String → Endpoint} {p : List Char} {e : Endpoint}
    (h : (Route.session method make).accepts p = some e) : ∃ id, e = make id := by
  unfold Route.session at h
  dsimp only at h
  split at h
  · split at h
    · cases h
    · exact ⟨_, (Option.some.inj h).symm⟩
  · cases h

/-- A path leads to the endpoint of listeners only where events are enabled. -/
theorem enabled_of_listen (lawful : w.Lawful) {hasEvents : Bool}
    (h : w.place (routes hasEvents) r = .endpoint .listen) : hasEvents = true := by
  cases hasEvents with
  | true => rfl
  | false =>
    obtain ⟨route, among, -, accepted⟩ := lawful.endpoint h
    simp only [routes, Bool.false_eq_true, if_false, List.append_nil, List.cons_append,
      List.nil_append, List.mem_cons, List.not_mem_nil, or_false] at among
    rcases among with rfl | rfl | rfl | rfl | rfl | rfl | rfl
    · cases endpoint_fixed accepted
    · cases endpoint_fixed accepted
    · cases endpoint_fixed accepted
    · cases (endpoint_session accepted).choose_spec
    · cases (endpoint_session accepted).choose_spec
    · cases (endpoint_session accepted).choose_spec
    · cases endpoint_fixed accepted

/-- In a service that runs, a request breaks down only as its address cannot be taken apart, as its conversation
cannot be traced, or as the model fails in its turn. -/
theorem Running.cause (lawful : w.Lawful) (h : s.Running w) {fresh : String} (broken : s.BreaksDown w fresh r) :
    w.addressPath r = none ∨ s.Untraceable ∨ ∃ context content, contextOf w fresh r = some context ∧
      w.content r = .ok content ∧ s.TurnBreaks context content := by
  cases broken with
  | unaddressed nowhere => exact Or.inl nowhere
  | @served context e bound reached place breaks =>
    refine Or.inr ?_
    cases e with
    | say =>
      obtain ⟨content, hc, untraceable | turn⟩ := breaks
      · exact Or.inl untraceable
      · exact Or.inr ⟨context, content, bound, hc, turn⟩
    | openSession id | showSession id | dropSession id => exact Or.inl breaks
    | listen =>
      have feed := h.wired (enabled_of_listen lawful place)
      simp [breaks.2] at feed
    | evaluate | modelStatus | health => exact breaks.elim

end Service

end Web

end Reckoner
