import Sabuhp.SSE.Client
import Sabuhp.SSE.Frames

/-!
# One call of `reconnect`

The loop of `SSEClient.reconnect` (`seeclient.go`, lines 276 to 306) as the steps of the client on
the replies to its requests. Each iteration computes the next back-off with `retryFunc` from the
previous one, sleeps, and calls `utils.DoRequest` with the header `reconnect` built once at its
start; `attempts` lists what `k` iterations do. A failed request is retried while `retryCount`
is below `maxRetries`, and the loop gives up on the failure that finds `retryCount` at
`maxRetries`. Both tests read `retryCount` before the increment, so with `maxRetries` at `m ≥ 0`
the loop gives up on the `m + 1`-th consecutive failure, after `m + 1` requests, and with `m`
negative on the first.

`exec_failed_replies` runs the retries by induction on their number; `reconnect_attempts` puts
together the two ways a call ends: the first successful request, which starts one `run`, or the
last failure, which logs and returns.

Then the client is followed over several connections. Each `run` starts with fresh loop
variables, so a client served one stream per connection decodes each stream as `Frames.lean`
says, in turn (`connections_decode_each_stream`).
-/

namespace Sabuhp.SSE

variable {Msg : Type} (cfg : Config Msg)

/-- The effects of `k` iterations of `reconnect`'s loop from back-off `d`: each sleeps for the
next back-off and requests `req`'s method and URL with `header`. -/
def attempts (req : Request) (header : Header) : Int → Nat → List (Effect Msg)
  | _, 0 => []
  | d, k + 1 => .sleep (cfg.retryFunc d) :: .request req.method req.url none header ::
      attempts req header (cfg.retryFunc d) k

section Attempts

variable {cfg} (req : Request) (header : Header)

/-- `k` iterations issue `k` requests. -/
@[simp] lemma attempts_countP_isRequest : ∀ (d : Int) (k : Nat),
    (attempts cfg req header d k).countP Effect.isRequest = k
  | _, 0 => rfl
  | d, k + 1 => by
    simp [attempts, Effect.isRequest, attempts_countP_isRequest (cfg.retryFunc d) k]

/-- The iterations before the last start no goroutine. -/
@[simp] lemma attempts_countP_isSpawn : ∀ (d : Int) (k : Nat),
    (attempts cfg req header d k).countP Effect.isSpawn = 0
  | _, 0 => rfl
  | d, k + 1 => by
    simp [attempts, Effect.isSpawn, attempts_countP_isSpawn (cfg.retryFunc d) k]

/-- The `k + 1`-th iteration sleeps for the `k + 1`-th back-off. -/
lemma attempts_succ (d : Int) (k : Nat) :
    attempts cfg req header d (k + 1) =
      attempts cfg req header d k ++
        [.sleep (cfg.retryFunc^[k + 1] d), .request req.method req.url none header] := by
  induction k generalizing d with
  | zero => rfl
  | succ k ih =>
    rw [attempts, ih (cfg.retryFunc d), attempts, Function.iterate_succ_apply]
    rfl

end Attempts

variable {cfg}

section Replies

variable {s : SSEClient} {header : Header} {d : Int} {n : Nat}

/-- A failed request with `retryCount` below `maxRetries` is retried. -/
lemma step_reply_retry (h : (n : Int) < cfg.maxRetries) :
    step cfg { s with phase := .reconnecting header d n } (.reply false) =
      some ({ s with phase := .reconnecting header (cfg.retryFunc d) (n + 1) },
        [.sleep (cfg.retryFunc d), .request s.request.method s.request.url none header]) := by
  simp [step, h]

/-- A failed request with `retryCount` at `maxRetries` or above makes `reconnect` log and return. -/
lemma step_reply_give_up (h : cfg.maxRetries ≤ n) :
    step cfg { s with phase := .reconnecting header d n } (.reply false) =
      some ({ s with phase := .stopped },
        [.sleep (cfg.retryFunc d), .request s.request.method s.request.url none header,
          .log .error "failed to create request"]) := by
  simp [step, h, Int.not_lt.2 h]

/-- A successful request makes `reconnect` store the response and start `run`. -/
lemma step_reply_connect :
    step cfg { s with phase := .reconnecting header d n } (.reply true) =
      some ({ s with phase := .loopTop .init, bodies := false :: s.bodies },
        [.sleep (cfg.retryFunc d), .request s.request.method s.request.url none header,
          .spawn]) := by
  simp [step]

end Replies

/-- The failed requests `reconnect` retries: while `retryCount` stays within `maxRetries`, each
sleeps, requests and counts one more retry. -/
lemma exec_failed_replies (s : SSEClient) (header : Header) :
    ∀ (k : Nat) (d : Int) (n : Nat), n + k ≤ cfg.maxRetries.toNat →
      exec cfg { s with phase := .reconnecting header d n } (.replicate k (.reply false)) =
        some ({ s with phase := .reconnecting header (cfg.retryFunc^[k] d) (n + k) },
          attempts cfg s.request header d k)
  | 0, d, n, _ => by simp [exec, attempts]
  | k + 1, d, n, hk => by
    rw [List.replicate_succ, exec_cons_of_step _ (step_reply_retry (by omega)),
      exec_failed_replies s header k (cfg.retryFunc d) (n + 1) (by omega),
      show n + 1 + k = n + (k + 1) by omega]
    simp [attempts, Function.iterate_succ_apply]

/-- One call of `reconnect` issues at most `maxRetries + 1` requests (one when `maxRetries` is
negative): after `k ≤ maxRetries` failures a successful request makes it store the response and
start exactly one `run`, and the `maxRetries + 1`-th consecutive failure makes it log and return
without starting one. -/
theorem reconnect_attempts (s : SSEClient) :
    (∀ k ≤ cfg.maxRetries.toNat, ∃ es,
        exec cfg s.enterReconnect (.replicate k (.reply false) ++ [.reply true]) =
          some ({ s with phase := .loopTop .init, bodies := false :: s.bodies }, es ++ [.spawn]) ∧
        es.countP Effect.isRequest = k + 1 ∧ es.countP Effect.isSpawn = 0) ∧
      ∃ es, exec cfg s.enterReconnect (.replicate (cfg.maxRetries.toNat + 1) (.reply false)) =
          some ({ s with phase := .stopped }, es ++ [.log .error "failed to create request"]) ∧
        es.countP Effect.isRequest = cfg.maxRetries.toNat + 1 ∧ es.countP Effect.isSpawn = 0 := by
  have hr (k : Nat) (hk : k ≤ cfg.maxRetries.toNat) :=
    @exec_failed_replies _ cfg s (reconnectHeader s.lastId) k 0 0 (by omega)
  refine ⟨fun k hk => ⟨attempts cfg s.request (reconnectHeader s.lastId) 0 (k + 1), ?_, by simp,
    by simp⟩, ⟨attempts cfg s.request (reconnectHeader s.lastId) 0 (cfg.maxRetries.toNat + 1), ?_,
    by simp, by simp⟩⟩
  · rw [exec_append, SSEClient.enterReconnect, hr k hk, Option.some_bind,
      exec_cons_of_step _ step_reply_connect]
    simp [exec, attempts_succ, Function.iterate_succ_apply']
  · rw [List.replicate_succ', exec_append, SSEClient.enterReconnect, hr _ le_rfl, Option.some_bind,
      exec_cons_of_step _ (step_reply_give_up (by omega))]
    simp [exec, attempts_succ, Function.iterate_succ_apply']

/-- With `maxRetries` one, `reconnect` issues two requests on two failures before it gives up. -/
theorem reconnect_requests_twice_with_maxRetries_one :
    (exec { echoConfig [101] with maxRetries := 1 } (newSSEClient ⟨"GET", "/events"⟩).enterReconnect
        [.reply false, .reply false]).map (fun r => (r.2.countP Effect.isRequest, r.1.phase)) =
      some (2, .stopped) := by
  decide

/-- From the top of `run`'s loop with fresh variables and the context never cancelled, the client
reads each stream in turn and reconnects after each at its first attempt; every `run` starts over
with fresh loop variables. -/
lemma exec_streams (s : SSEClient) (hc : s.cancelled = false) (hp : s.phase = .loopTop .init) :
    ∀ streams : List Bytes, ∃ iss,
      List.Forall₂ (fun is st => is <+: readInputs (readLines st)) iss streams ∧
      ∃ s' es, exec cfg s (iss.flatMap (· ++ [.reply true])) = some (s', es) ∧
        s'.phase = .loopTop .init ∧ decoded es = (streams.map (decodeInputs cfg)).flatten ∧
        handled es = (streams.map (deliveredMessages cfg)).flatten
  | [] => ⟨[], .nil, s, [], rfl, hp, rfl, rfl⟩
  | st :: sts => by
    obtain ⟨is, his, he⟩ := exec_readInputs cfg hc (readLines st) .init hp
    obtain ⟨iss, hiss, s', es, he', hp', hd, hh⟩ :=
      exec_streams { s with phase := .loopTop .init, bodies := false :: s.bodies } hc rfl sts
    refine ⟨is :: iss, .cons his hiss, s', (readLoop cfg .init (readLines st)).1 ++
      ([.sleep (cfg.retryFunc 0), .request s.request.method s.request.url none
        (reconnectHeader s.lastId), .spawn] ++ es), ?_, hp', ?_, ?_⟩
    · rw [List.flatMap_cons, exec_append, exec_append, he, Option.some_bind, SSEClient.enterReconnect,
        exec_cons_of_step _ step_reply_connect]
      simp only [exec, Option.map_some', Option.some_bind, he', List.append_nil, List.append_assoc]
    · rw [decoded_append, decoded_append, hd]
      rfl
    · rw [handled_append, handled_append, hh]
      rfl

/-- A client created by `NewSSEClient` whose context is never cancelled and whose reconnections
succeed at once decodes, for each stream it is served in turn, exactly that stream's event
payloads up to the first one `Decode` rejects, and hands the handler what one `run` over that
stream hands it: nothing of one connection's framing carries over to the next. -/
theorem connections_decode_each_stream (hdr_ne : cfg.sseStreamHeader ≠ []) (req : Request)
    (streams : List Bytes) :
    ∃ iss, List.Forall₂ (fun is st => is <+: readInputs (readLines st)) iss streams ∧
      ∃ s es, exec cfg (newSSEClient req) (iss.flatMap (· ++ [.reply true])) = some (s, es) ∧
        s.phase = .loopTop .init ∧
        decoded es = (streams.map fun st =>
          upToFirstRejected cfg.codec (eventPayloads cfg.sseStreamHeader (readLines st))).flatten ∧
        handled es = (streams.map (deliveredMessages cfg)).flatten := by
  rw [← funext (decodeInputs_eq cfg hdr_ne)]
  exact exec_streams (newSSEClient req) rfl rfl streams

/-- Two streams, the second starting with a blank line. -/
theorem connections_decode_each_stream_two_streams :
    [101, 120] ≠ [] ∧
      ∃ iss, List.Forall₂ (fun is st => is <+: readInputs (readLines st)) iss
          [[101, 120, 10, 100, 10, 10], [10, 101, 120, 10, 121, 10, 10]] ∧
        ∃ s es, exec (echoConfig [101, 120]) (newSSEClient ⟨"GET", "/events"⟩)
            (iss.flatMap (· ++ [.reply true])) = some (s, es) ∧
          s.phase = .loopTop .init ∧
          decoded es = ([[101, 120, 10, 100, 10, 10], [10, 101, 120, 10, 121, 10, 10]].map fun st =>
            upToFirstRejected (echoConfig [101, 120]).codec
              (eventPayloads (echoConfig [101, 120]).sseStreamHeader (readLines st))).flatten ∧
          handled es = ([[101, 120, 10, 100, 10, 10], [10, 101, 120, 10, 121, 10, 10]].map
            (deliveredMessages (echoConfig [101, 120]))).flatten :=
  ⟨by decide, connections_decode_each_stream (by decide) _ _⟩

variable (cfg) in
/-- What holds of `reconnect`'s loop variables in every state a client reaches: `lastDuration`
is the `retryCount`-th back-off from zero, and `retryCount` stays within `maxRetries`. -/
def BackoffInv (s : SSEClient) : Prop :=
  ∀ hd d n, s.phase = .reconnecting hd d n → d = cfg.retryFunc^[n] 0 ∧ n ≤ cfg.maxRetries.toNat

/-- The invariant depends only on the phase. -/
lemma BackoffInv.of_phase {s s' : SSEClient} (hi : BackoffInv cfg s) (hp : s'.phase = s.phase) :
    BackoffInv cfg s' := fun hd d n h => hi hd d n (hp ▸ h)

/-- `reconnect` starts its loop with no back-off and no retry. -/
lemma BackoffInv.enterReconnect (s : SSEClient) : BackoffInv cfg s.enterReconnect := by
  rintro hd d n ⟨-, rfl, rfl⟩
  exact ⟨rfl, Nat.zero_le _⟩

/-- Every step keeps the invariant, and every sleep it makes is one of the first
`maxRetries + 1` back-offs from zero. -/
lemma step_backoff {s s' : SSEClient} {i : Input} {es : List (Effect Msg)} (hi : BackoffInv cfg s)
    (h : step cfg s i = some (s', es)) :
    BackoffInv cfg s' ∧
      ∀ d, .sleep d ∈ es → ∃ k ≤ cfg.maxRetries.toNat, d = cfg.retryFunc^[k + 1] 0 := by
  cases i with
  | cancel =>
    obtain ⟨rfl, rfl⟩ := step_cancel_inv h
    exact ⟨hi.of_phase rfl, by simp⟩
  | select =>
    obtain ⟨_, -, ⟨-, rfl, rfl⟩ | ⟨-, rfl, rfl⟩⟩ := step_select_inv h <;>
      exact ⟨(fun _ _ _ h => by cases h), by simp⟩
  | line l =>
    obtain ⟨fr, -, ⟨_, hr, rfl⟩ | ⟨_, hr, rfl⟩⟩ := step_line_inv h <;>
      refine ⟨?_, fun d hd => runLine_no_sleep cfg fr l d (by rw [hr]; exact hd) |>.elim⟩
    · exact fun _ _ _ h => by cases h
    · exact BackoffInv.enterReconnect s
  | readError =>
    obtain ⟨-, rfl, rfl⟩ := step_readError_inv h
    exact ⟨BackoffInv.enterReconnect s, by simp⟩
  | reply ok =>
    obtain ⟨hd, d, n, hp, hcases⟩ := step_reply_inv h
    obtain ⟨rfl, hn⟩ := hi hd d n hp
    have hsleep : ∀ d', .sleep d' ∈ es → d' = cfg.retryFunc (cfg.retryFunc^[n] 0) := by
      rcases hcases with ⟨-, -, rfl, -⟩ | ⟨-, -, rfl, -⟩ | ⟨-, rfl, -⟩ <;> simp
    refine ⟨?_, fun d' hd' => ⟨n, hn, by rw [hsleep d' hd', Function.iterate_succ_apply']⟩⟩
    rcases hcases with ⟨-, hlt, -, rfl⟩ | ⟨-, -, -, rfl⟩ | ⟨-, -, rfl⟩
    · rintro _ _ _ ⟨-, rfl, rfl⟩
      exact ⟨(Function.iterate_succ_apply' _ _ _).symm, by omega⟩
    · exact fun _ _ _ h => by cases h
    · exact fun _ _ _ h => by cases h

/-- From a state with the invariant, every sleep of a run is one of the first `maxRetries + 1`
back-offs from zero. -/
lemma exec_backoff {s s' : SSEClient} {es : List (Effect Msg)} (hi : BackoffInv cfg s) :
    ∀ {is : List Input}, exec cfg s is = some (s', es) →
      ∀ d, .sleep d ∈ es → ∃ k ≤ cfg.maxRetries.toNat, d = cfg.retryFunc^[k + 1] 0
  | [], h => by simp [exec] at h; obtain ⟨rfl, rfl⟩ := h; simp
  | _ :: _, h => by
    obtain ⟨s₁, es₁, es₂, hst, he, rfl⟩ := exec_cons_inv h
    have h₁ := step_backoff hi hst
    intro d hd
    rcases List.mem_append.1 hd with hd | hd
    · exact h₁.2 d hd
    · exact exec_backoff h₁.1 he d hd

/-- In every run of a client created by `NewSSEClient`, every sleep is one of the first
`maxRetries + 1` back-offs from zero, `retryFunc^[k + 1] 0` with `k ≤ maxRetries`: each call of
`reconnect` starts its back-off over from zero, so the back-off never grows across
reconnections. -/
theorem sleeps_are_backoffs (req : Request) {is : List Input} {s : SSEClient}
    {es : List (Effect Msg)} (h : exec cfg (newSSEClient req) is = some (s, es)) :
    ∀ d, .sleep d ∈ es → ∃ k ≤ cfg.maxRetries.toNat, d = cfg.retryFunc^[k + 1] 0 :=
  exec_backoff (fun _ _ _ h => by cases h) h

/-- Two reconnections, the first after one failed request. -/
theorem sleeps_are_backoffs_after_two_reconnects :
    ∃ s es, exec { echoConfig [101] with maxRetries := 1, retryFunc := (· + 5) }
        (newSSEClient ⟨"GET", "/events"⟩)
        [.select, .readError, .reply false, .reply true, .select, .readError, .reply true] =
        some (s, es) ∧
      ∀ d, .sleep d ∈ es → ∃ k ≤ (1 : Int).toNat, d = (· + 5)^[k + 1] 0 :=
  ⟨_, _, rfl, @sleeps_are_backoffs _
    { echoConfig [101] with maxRetries := 1, retryFunc := (· + 5) } _
    [.select, .readError, .reply false, .reply true, .select, .readError, .reply true] _ _ rfl⟩

end Sabuhp.SSE
