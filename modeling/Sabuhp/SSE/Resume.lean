import Sabuhp.SSE.Lifecycle

/-!
# Resuming a stream

What the client sends under `LastEventIdListHeader`. `SSEHub.For` sends the ids it is given,
joined by `;`, on its one request, and only there: it passes `NewSSEClient` neither the ids nor
the header. `reconnect` sends `sc.lastId` when it is set, but nothing in `seeclient.go` assigns
`sc.lastId`, so it stays nil in every state the client reaches (`exec_lastId`), and no request
`reconnect` issues carries the header, whatever ids `For` was given
(`reconnect_requests_omit_last_event_ids`).
-/

namespace Sabuhp.SSE

/-- `reconnect` sends `sc.lastId` when it is set. -/
@[simp] lemma reconnectHeader_lastEventIds (lastId : Option String) :
    (reconnectHeader lastId).get? lastEventIdListHeader = lastId := by
  cases lastId with
  | none => rfl
  | some id => simp [reconnectHeader]

variable {Msg : Type} {cfg : Config Msg}

/-- No step assigns `lastId`. -/
lemma step_lastId {s s' : SSEClient} {i : Input} {es : List (Effect Msg)}
    (h : step cfg s i = some (s', es)) : s'.lastId = s.lastId := by
  cases i with
  | cancel => obtain ⟨rfl, -⟩ := step_cancel_inv h; rfl
  | select => obtain ⟨_, -, ⟨-, -, rfl⟩ | ⟨-, -, rfl⟩⟩ := step_select_inv h <;> rfl
  | line l => obtain ⟨_, -, ⟨_, -, rfl⟩ | ⟨_, -, rfl⟩⟩ := step_line_inv h <;> rfl
  | readError => obtain ⟨-, -, rfl⟩ := step_readError_inv h; rfl
  | reply ok =>
    obtain ⟨_, _, _, -, ⟨-, -, -, rfl⟩ | ⟨-, -, -, rfl⟩ | ⟨-, -, rfl⟩⟩ := step_reply_inv h <;> rfl

/-- Every request a step issues is `reconnect`'s, with the header it built from `lastId`. -/
lemma step_request_header {s s' : SSEClient} {i : Input} {es : List (Effect Msg)} (hi : Inv s)
    (h : step cfg s i = some (s', es)) {m u : String} {b : Option Bytes} {hd : Header}
    (he : .request m u b hd ∈ es) : hd = reconnectHeader s.lastId := by
  cases i with
  | cancel => obtain ⟨-, rfl⟩ := step_cancel_inv h; simp at he
  | select => obtain ⟨_, -, ⟨-, rfl, -⟩ | ⟨-, rfl, -⟩⟩ := step_select_inv h <;> simp at he
  | line l =>
    obtain ⟨fr, -, hr⟩ := step_line_inv h
    have hq := @runLine_effects _ cfg fr l
    rcases hr with ⟨_, hr, -⟩ | ⟨_, hr, -⟩ <;> rw [hr] at hq <;>
      simpa [Effect.isRequest] using (hq _ he).2.2
  | readError => obtain ⟨-, rfl, -⟩ := step_readError_inv h; simp at he
  | reply ok =>
    obtain ⟨hd', _, _, hp, ⟨-, -, rfl, -⟩ | ⟨-, -, rfl, -⟩ | ⟨-, rfl, -⟩⟩ := step_reply_inv h <;>
      simp at he <;> rw [he.2.2.2, hi.header_eq _ _ _ hp]

/-- In every run, `lastId` keeps its value and every request carries the header `reconnect`
builds from it. -/
lemma exec_lastId {s s' : SSEClient} {es : List (Effect Msg)} (hs : Reachable cfg s) :
    ∀ {is : List Input}, exec cfg s is = some (s', es) →
      s'.lastId = s.lastId ∧
        ∀ m u b hd, .request m u b hd ∈ es → hd = reconnectHeader s.lastId
  | [], h => by simp [exec] at h; obtain ⟨rfl, rfl⟩ := h; simp
  | _ :: _, h => by
    obtain ⟨s₁, es₁, es₂, hst, he, rfl⟩ := exec_cons_inv h
    have ih := exec_lastId (hs.step hst) he
    rw [step_lastId hst] at ih
    refine ⟨ih.1, fun m u b hd hm => ?_⟩
    rcases List.mem_append.1 hm with hm | hm
    · exact step_request_header hs.inv hst hm
    · exact ih.2 m u b hd hm

/-- A client returned by `SSEHub.For` never sends `Last-Event-Id-List` again: in every run, no
request `reconnect` issues carries it, whatever ids `For` was given and whatever the client has
delivered. -/
theorem reconnect_requests_omit_last_event_ids (method route : String) (body : Option Bytes)
    (lastEventIds : List String) {c : SSEClient}
    (hc : (SSEHub.For method route body lastEventIds true : List (Effect Msg) × _).2 = some c)
    {is : List Input} {s : SSEClient} {es : List (Effect Msg)} (h : exec cfg c is = some (s, es))
    (m u : String) (b : Option Bytes) (hd : Header) (he : .request m u b hd ∈ es) :
    hd.get? lastEventIdListHeader = none := by
  simp only [SSEHub.For, ite_true, Option.some.injEq] at hc
  subst hc
  rw [(exec_lastId (Reachable.init _) h).2 m u b hd he, reconnectHeader_lastEventIds]
  rfl

/-- A client `For` was given the id `a`, whose first body ends at once and whose reconnection
request fails. -/
theorem reconnect_omits_ids_given_to_For :
    (@SSEHub.For Bytes "GET" "/events" none ["a"] true).2 =
        some (newSSEClient ⟨"GET", "/events"⟩) ∧
      exec (echoConfig [101]) (newSSEClient ⟨"GET", "/events"⟩) [.select, .readError, .reply false] =
        some ({ newSSEClient ⟨"GET", "/events"⟩ with phase := .stopped },
          [.log .error "failed to read more data", .sleep 0,
            .request "GET" "/events" none (reconnectHeader none),
            .log .error "failed to create request"]) ∧
      (reconnectHeader none).get? lastEventIdListHeader = none :=
  ⟨rfl, rfl, @reconnect_requests_omit_last_event_ids _ (echoConfig [101]) "GET" "/events" none ["a"] _
    rfl [.select, .readError, .reply false] _ _ rfl "GET" "/events" none _
    (by simp [newSSEClient, SSEClient.enterReconnect])⟩

end Sabuhp.SSE
