import Sabuhp.SSE.Client
import Sabuhp.SSE.Frames

/-!
# Lifecycle of the SSE client

What holds in every state a client created by `NewSSEClient` reaches, for every run, and the runs
on which the source misses what its own comments and its cancellation branch promise.

`Inv` is the invariant, over the states between two steps, where the goroutine blocks or has
returned. There `sc.waiter` is zero exactly when the newest response body has been closed, which
happens only on the `closedOps` branch of `run`, and the goroutine has then returned; inside that
branch the source calls `waiter.Done()` before `Body.Close()`, a moment `step` does not stop at.
Every body the client replaced is still open. The header of a running `reconnect` is the one it
built from `lastId`. `Inv.step` proves it from the inversion lemmas of `step`, one case per input,
and `Reachable.inv` carries it along every run. From it: across all the `run` goroutines of a run
`waiter.Done()` is called at most once, so the counter never goes below zero
(`exec_done_le_one`); a cancellation seen at the `select` stops the client cleanly and no request
follows (`cancel_at_select_stops`); and, with the context never cancelled, the client's first
connection decodes what `Frames.lean` says (`first_connection_decodes`).

The open response bodies are counted the same way: one for the first response and one for each
`run` that `reconnect` starts, less the one closed with `waiter.Done()` (`open_bodies_count`).
Once the context is cancelled, two budgets that every step spends bound what the client can still
do, from any state and for any inputs: at most `maxRetries + 1` requests and one `run`
(`requests_after_cancel_le`).

The closing theorems are where the source goes wrong, each with a run that reaches it.
`reconnect` gives up without `waiter.Done()`, so `Wait` and `Close` block forever. A cancellation
that makes the blocked read fail sends `run` into `reconnect`, which goes on issuing requests.
`reconnect` never closes the body it replaces, nor the one it leaves when it gives up.
-/

namespace Sabuhp.SSE

variable {Msg : Type} {cfg : Config Msg}

/-- What holds in every state a client reaches, between two of its steps. -/
structure Inv (s : SSEClient) : Prop where
  bodies_ne : s.bodies ≠ []
  waiter_eq : s.waiter = if s.bodies.head? = some true then 0 else 1
  closed_stopped : s.bodies.head? = some true → s.phase = .stopped
  replaced_open : ∀ b ∈ s.bodies.tail, b = false
  header_eq : ∀ hd d n, s.phase = .reconnecting hd d n → hd = reconnectHeader s.lastId

/-- The client `newSSEClient` returns satisfies the invariant. -/
lemma Inv.init (req : Request) : Inv (newSSEClient req) where
  bodies_ne := by simp [newSSEClient]
  waiter_eq := by simp [newSSEClient]
  closed_stopped := by simp [newSSEClient]
  replaced_open := by simp [newSSEClient]
  header_eq := by simp [newSSEClient]

/-- While the goroutine runs, the newest body is open and the counter is one. -/
lemma Inv.running {s : SSEClient} (hi : Inv s) (hp : s.phase ≠ .stopped) :
    s.bodies.head? = some false ∧ s.waiter = 1 := by
  have hc : s.bodies.head? ≠ some true := fun h => hp (hi.closed_stopped h)
  obtain ⟨b, bs, hb⟩ := List.exists_cons_of_ne_nil hi.bodies_ne
  cases b <;> simp_all [hi.waiter_eq]

/-- While the goroutine runs, every body the client has held is open. -/
lemma Inv.all_open {s : SSEClient} (hi : Inv s) (hp : s.phase ≠ .stopped) :
    ∀ b ∈ s.bodies, b = false := by
  obtain ⟨b, bs, hb⟩ := List.exists_cons_of_ne_nil hi.bodies_ne
  have hhead := (hi.running hp).1
  have htail := hi.replaced_open
  rw [hb] at hhead htail ⊢
  simp only [List.head?_cons, Option.some.injEq, List.tail_cons] at hhead htail
  simpa [hhead] using htail

/-- Moving the running goroutine keeps the invariant, when a `reconnect` it enters has the header
built from `lastId`. -/
lemma Inv.setPhase {s : SSEClient} {p : Phase} (hi : Inv s) (hp : s.phase ≠ .stopped)
    (hhd : ∀ hd d n, p = .reconnecting hd d n → hd = reconnectHeader s.lastId) :
    Inv { s with phase := p } where
  bodies_ne := hi.bodies_ne
  waiter_eq := hi.waiter_eq
  closed_stopped h := absurd h (by simp [(hi.running hp).1])
  replaced_open := hi.replaced_open
  header_eq := hhd

/-- Every step keeps the invariant. -/
lemma Inv.step {s s' : SSEClient} {i : Input} {es : List (Effect Msg)} (hi : Inv s)
    (h : step cfg s i = some (s', es)) : Inv s' := by
  have hreconnect (hp : s.phase ≠ .stopped) : Inv s.enterReconnect :=
    hi.setPhase hp fun _ _ _ h => by cases h; rfl
  cases i with
  | cancel =>
    obtain ⟨rfl, -⟩ := step_cancel_inv h
    exact ⟨hi.bodies_ne, hi.waiter_eq, hi.closed_stopped, hi.replaced_open, hi.header_eq⟩
  | select =>
    obtain ⟨fr, hp, ⟨-, -, rfl⟩ | ⟨-, -, rfl⟩⟩ := step_select_inv h
    · exact ⟨by simp, by simp [(hi.running (by simp [hp])).2], fun _ => rfl,
        by simpa using hi.replaced_open, by simp⟩
    · exact hi.setPhase (by simp [hp]) (by simp)
  | line l =>
    obtain ⟨fr, hp, ⟨fr', -, rfl⟩ | ⟨fr', -, rfl⟩⟩ := step_line_inv h
    · exact hi.setPhase (by simp [hp]) (by simp)
    · exact hreconnect (by simp [hp])
  | readError =>
    obtain ⟨⟨fr, hp⟩, -, rfl⟩ := step_readError_inv h
    exact hreconnect (by simp [hp])
  | reply ok =>
    obtain ⟨hd, d, n, hp, ⟨-, -, -, rfl⟩ | ⟨-, -, -, rfl⟩ | ⟨-, -, rfl⟩⟩ := step_reply_inv h
    · exact hi.setPhase (by simp [hp]) fun _ _ _ h => by cases h; exact hi.header_eq _ _ _ hp
    · exact ⟨hi.bodies_ne, hi.waiter_eq, fun _ => rfl, hi.replaced_open, by simp⟩
    · exact ⟨by simp, by simp [(hi.running (by simp [hp])).2], by simp,
        hi.all_open (by simp [hp]), by simp⟩

/-- Every reachable state satisfies the invariant. -/
lemma Reachable.inv {s : SSEClient} (h : Reachable cfg s) : Inv s := by
  induction h with
  | init req => exact Inv.init req
  | step _ hst ih => exact ih.step hst

/-- `run`'s loop body only logs and calls the codec and the handler. -/
lemma runLine_effects (fr : Framing) (l : Line) :
    ∀ e ∈ (runLine cfg fr l).1, e.isDone = false ∧ e.isSpawn = false ∧ e.isRequest = false :=
  fun e he => by
    rcases runLine_effects_kind cfg fr l e he with ⟨_, rfl⟩ | ⟨_, rfl⟩ | ⟨_, _, rfl⟩ <;>
      exact ⟨rfl, rfl, rfl⟩

/-- `run`'s loop body never calls `waiter.Done()`. -/
lemma runLine_no_done (fr : Framing) (l : Line) : (runLine cfg fr l).1.countP Effect.isDone = 0 :=
  List.countP_eq_zero.2 fun e he => by simp [(runLine_effects fr l e he).1]

/-- `run`'s loop body never starts a goroutine. -/
lemma runLine_no_spawn (fr : Framing) (l : Line) :
    (runLine cfg fr l).1.countP Effect.isSpawn = 0 :=
  List.countP_eq_zero.2 fun e he => by simp [(runLine_effects fr l e he).2.1]

/-- A step lowers the counter by the `waiter.Done()` calls it makes. -/
lemma step_waiter {s s' : SSEClient} {i : Input} {es : List (Effect Msg)}
    (h : step cfg s i = some (s', es)) : s'.waiter = s.waiter - es.countP Effect.isDone := by
  cases i with
  | cancel =>
    obtain ⟨rfl, rfl⟩ := step_cancel_inv h
    simp [Effect.isDone]
  | select =>
    obtain ⟨fr, -, ⟨-, rfl, rfl⟩ | ⟨-, rfl, rfl⟩⟩ := step_select_inv h <;> simp [Effect.isDone]
  | line l =>
    obtain ⟨fr, -, hr⟩ := step_line_inv h
    have hz := @runLine_no_done _ cfg fr l
    rcases hr with ⟨fr', hr, rfl⟩ | ⟨fr', hr, rfl⟩ <;> rw [hr] at hz <;>
      simp [SSEClient.enterReconnect, hz]
  | readError =>
    obtain ⟨-, rfl, rfl⟩ := step_readError_inv h
    simp [SSEClient.enterReconnect, Effect.isDone]
  | reply ok =>
    obtain ⟨hd, d, n, -, ⟨-, -, rfl, rfl⟩ | ⟨-, -, rfl, rfl⟩ | ⟨-, rfl, rfl⟩⟩ := step_reply_inv h <;>
      simp [Effect.isDone]

/-- A run lowers the counter by the `waiter.Done()` calls it makes. -/
lemma exec_waiter {s s' : SSEClient} {es : List (Effect Msg)} :
    ∀ {is : List Input}, exec cfg s is = some (s', es) →
      s'.waiter = s.waiter - es.countP Effect.isDone
  | [], h => by simp [exec] at h; obtain ⟨rfl, rfl⟩ := h; simp
  | _ :: _, h => by
    obtain ⟨s₁, es₁, es₂, hst, he, rfl⟩ := exec_cons_inv h
    rw [exec_waiter he, step_waiter hst, List.countP_append]
    omega

/-- In every run of a client created by `NewSSEClient`, whatever the inputs and however many `run`
goroutines `reconnect` starts, `waiter.Done()` is called at most once, and the counter is one
less the calls: it never goes below zero, where `sync.WaitGroup` would panic. -/
theorem exec_done_le_one (req : Request) {is : List Input} {s : SSEClient} {es : List (Effect Msg)}
    (h : exec cfg (newSSEClient req) is = some (s, es)) :
    es.countP Effect.isDone ≤ 1 ∧ s.waiter = 1 - es.countP Effect.isDone := by
  have hw : s.waiter = 1 - es.countP Effect.isDone := by simpa [newSSEClient] using exec_waiter h
  have hpos : 0 ≤ s.waiter := by
    rw [((Reachable.init req).exec h).inv.waiter_eq]; split_ifs <;> decide
  exact ⟨by omega, hw⟩

/-- A run through a reconnection and a cancellation, which calls `waiter.Done()` once. -/
theorem exec_done_le_one_after_cancel :
    ∃ s es, exec (echoConfig [101]) (newSSEClient ⟨"GET", "/events"⟩)
        [.select, .readError, .reply true, .cancel, .select] = some (s, es) ∧
      es.countP Effect.isDone ≤ 1 ∧ s.waiter = 1 - es.countP Effect.isDone :=
  ⟨_, _, rfl, @exec_done_le_one _ (echoConfig [101]) _
    [.select, .readError, .reply true, .cancel, .select] _ _ rfl⟩

/-- A step opens a body for each `run` it starts and closes one for each `waiter.Done()`. -/
lemma step_open_bodies {s s' : SSEClient} {i : Input} {es : List (Effect Msg)} (hi : Inv s)
    (h : step cfg s i = some (s', es)) :
    (s'.bodies.count false : Int) =
      s.bodies.count false + es.countP Effect.isSpawn - es.countP Effect.isDone := by
  cases i with
  | cancel =>
    obtain ⟨rfl, rfl⟩ := step_cancel_inv h
    simp [Effect.isDone, Effect.isSpawn]
  | select =>
    obtain ⟨fr, hp, ⟨-, rfl, rfl⟩ | ⟨-, rfl, rfl⟩⟩ := step_select_inv h
    · obtain ⟨b, bs, hb⟩ := List.exists_cons_of_ne_nil hi.bodies_ne
      have hf := (hi.running (by simp [hp])).1
      simp only [hb, List.head?_cons, Option.some.injEq] at hf
      simp [hb, hf, Effect.isDone, Effect.isSpawn]
    · simp
  | line l =>
    obtain ⟨fr, -, hr⟩ := step_line_inv h
    have hd := @runLine_no_done _ cfg fr l
    have hs := @runLine_no_spawn _ cfg fr l
    rcases hr with ⟨fr', hr, rfl⟩ | ⟨fr', hr, rfl⟩ <;> rw [hr] at hd hs <;>
      simp [SSEClient.enterReconnect, hd, hs]
  | readError =>
    obtain ⟨-, rfl, rfl⟩ := step_readError_inv h
    simp [SSEClient.enterReconnect, Effect.isDone, Effect.isSpawn]
  | reply ok =>
    obtain ⟨hd, d, n, -, ⟨-, -, rfl, rfl⟩ | ⟨-, -, rfl, rfl⟩ | ⟨-, rfl, rfl⟩⟩ := step_reply_inv h <;>
      simp [Effect.isDone, Effect.isSpawn]

/-- A run opens a body for each `run` it starts and closes one for each `waiter.Done()`. -/
lemma exec_open_bodies {s s' : SSEClient} {es : List (Effect Msg)} (hs : Reachable cfg s) :
    ∀ {is : List Input}, exec cfg s is = some (s', es) →
      (s'.bodies.count false : Int) =
        s.bodies.count false + es.countP Effect.isSpawn - es.countP Effect.isDone
  | [], h => by simp [exec] at h; obtain ⟨rfl, rfl⟩ := h; simp
  | _ :: _, h => by
    obtain ⟨s₁, es₁, es₂, hst, he, rfl⟩ := exec_cons_inv h
    rw [exec_open_bodies (hs.step hst) he, step_open_bodies hs.inv hst, List.countP_append,
      List.countP_append]
    omega

/-- In every run of a client created by `NewSSEClient`, the open response bodies are the first
one and one per `run` that `reconnect` started, less the one closed at a clean stop: a body is
closed only together with `waiter.Done()`. -/
theorem open_bodies_count (req : Request) {is : List Input} {s : SSEClient}
    {es : List (Effect Msg)} (h : exec cfg (newSSEClient req) is = some (s, es)) :
    (s.bodies.count false : Int) = 1 + es.countP Effect.isSpawn - es.countP Effect.isDone := by
  simpa [newSSEClient] using exec_open_bodies (Reachable.init req) h

/-- A run through one successful reconnection, which leaves two bodies open. -/
theorem open_bodies_count_after_reconnect :
    ∃ s es, exec (echoConfig [101]) (newSSEClient ⟨"GET", "/events"⟩)
        [.select, .readError, .reply true] = some (s, es) ∧
      (s.bodies.count false : Int) = 1 + es.countP Effect.isSpawn - es.countP Effect.isDone :=
  ⟨_, _, rfl, @open_bodies_count _ (echoConfig [101]) _ [.select, .readError, .reply true] _ _ rfl⟩

/-- From a stopped goroutine a run only records cancellations. -/
lemma exec_of_stopped {s s' : SSEClient} {es : List (Effect Msg)} (hp : s.phase = .stopped) :
    ∀ {is : List Input}, exec cfg s is = some (s', es) → s'.phase = .stopped ∧ ∀ e ∈ es, e = .cancel
  | [], h => by simp [exec] at h; obtain ⟨rfl, rfl⟩ := h; simp [hp]
  | i :: _, h => by
    obtain ⟨s₁, es₁, es₂, hst, he, rfl⟩ := exec_cons_inv h
    cases i with
    | cancel =>
      obtain ⟨rfl, rfl⟩ := step_cancel_inv hst
      simpa using exec_of_stopped (s := { s with cancelled := true }) hp he
    | _ => simp [step, hp] at hst

/-- A cancellation that the goroutine sees at its `select` stops the client: it calls
`waiter.Done()` and closes the body, and no later step issues a request or starts `run`. -/
theorem cancel_at_select_stops {s s' : SSEClient} {fr : Framing} {es : List (Effect Msg)}
    (hs : Reachable cfg s) (hp : s.phase = .loopTop fr) (hc : s.cancelled = true)
    (is : List Input) (h : exec cfg s (.select :: is) = some (s', es)) :
    s'.phase = .stopped ∧ s'.waiter = 0 ∧ es.take 2 = [.done, .closeBody] ∧
      ∀ e ∈ es, e.isRequest = false ∧ e.isSpawn = false := by
  obtain ⟨s₁, es₁, es₂, hst, he, rfl⟩ := exec_cons_inv h
  obtain ⟨-, -, ⟨-, rfl, rfl⟩ | ⟨hc', -, -⟩⟩ := step_select_inv hst
  swap
  · simp [hc] at hc'
  have hw := (hs.inv.running (by simp [hp])).2
  have hst' := exec_of_stopped rfl he
  have h0 : es₂.countP Effect.isDone = 0 :=
    List.countP_eq_zero.2 fun e he => by simp [hst'.2 e he, Effect.isDone]
  refine ⟨hst'.1, by rw [exec_waiter he, h0, hw]; rfl, rfl, fun e he' => ?_⟩
  rcases List.mem_append.1 he' with h' | h'
  · simp only [List.mem_cons, List.mem_singleton, List.not_mem_nil, or_false] at h'
    rcases h' with rfl | rfl <;> exact ⟨rfl, rfl⟩
  · rw [hst'.2 e h']
    exact ⟨rfl, rfl⟩

/-- A client cancelled before its first `select`. -/
theorem cancel_before_first_select_stops :
    ∃ s' es, exec (echoConfig [101]) { newSSEClient ⟨"GET", "/events"⟩ with cancelled := true }
        [.select] = some (s', es) ∧
      s'.phase = .stopped ∧ s'.waiter = 0 ∧ es.take 2 = [.done, .closeBody] ∧
        ∀ e ∈ es, e.isRequest = false ∧ e.isSpawn = false :=
  ⟨_, _, rfl, @cancel_at_select_stops _ (echoConfig [101]) _ _ _ _
    ((Reachable.init _).exec (show exec _ _ [.cancel] = some (_, [.cancel]) from rfl)) rfl rfl [] rfl⟩

/-- The requests a client whose context is cancelled can still issue, with `m` for
`maxRetries`: none from the `select`, which stops it; a whole `reconnect` from `ReadString`,
whose failure sends `run` there; the rest of one from inside `reconnect`. -/
def requestBudget (m : Nat) : Phase → Nat
  | .loopTop _ => 0
  | .reading _ => m + 1
  | .reconnecting _ _ n => m + 1 - min n m
  | .stopped => 0

/-- The `run` goroutines a client whose context is cancelled can still start. -/
def spawnBudget : Phase → Nat
  | .reading _ | .reconnecting .. => 1
  | _ => 0

/-- After a cancellation every step spends from both budgets what it issues and starts. -/
lemma step_after_cancel {s s' : SSEClient} {i : Input} {es : List (Effect Msg)}
    (hc : s.cancelled = true) (h : step cfg s i = some (s', es)) :
    s'.cancelled = true ∧
      es.countP Effect.isRequest + requestBudget cfg.maxRetries.toNat s'.phase ≤
        requestBudget cfg.maxRetries.toNat s.phase ∧
      es.countP Effect.isSpawn + spawnBudget s'.phase ≤ spawnBudget s.phase := by
  cases i with
  | cancel =>
    obtain ⟨rfl, rfl⟩ := step_cancel_inv h
    simp [Effect.isRequest, Effect.isSpawn]
  | select =>
    obtain ⟨fr, hp, ⟨-, rfl, rfl⟩ | ⟨hc', -, -⟩⟩ := step_select_inv h
    · simp [hc, hp, requestBudget, spawnBudget, Effect.isRequest, Effect.isSpawn]
    · simp [hc] at hc'
  | line l =>
    obtain ⟨fr, hp, hr⟩ := step_line_inv h
    have hq := @runLine_effects _ cfg fr l
    have hreq : es.countP Effect.isRequest = 0 ∧ es.countP Effect.isSpawn = 0 := by
      rcases hr with ⟨_, hr, -⟩ | ⟨_, hr, -⟩ <;> rw [hr] at hq <;>
        exact ⟨List.countP_eq_zero.2 fun e he => by simp [(hq e he).2.2],
          List.countP_eq_zero.2 fun e he => by simp [(hq e he).2.1]⟩
    rcases hr with ⟨_, -, rfl⟩ | ⟨_, -, rfl⟩ <;>
      simp [hc, hp, hreq, requestBudget, spawnBudget, SSEClient.enterReconnect]
  | readError =>
    obtain ⟨⟨fr, hp⟩, rfl, rfl⟩ := step_readError_inv h
    simp [hc, hp, requestBudget, spawnBudget, SSEClient.enterReconnect, Effect.isRequest,
      Effect.isSpawn]
  | reply ok =>
    obtain ⟨hd, d, n, hp, ⟨-, hn, rfl, rfl⟩ | ⟨-, -, rfl, rfl⟩ | ⟨-, rfl, rfl⟩⟩ := step_reply_inv h <;>
      simp [hc, hp, requestBudget, spawnBudget, Effect.isRequest, Effect.isSpawn] <;> omega

/-- After a cancellation a run issues and starts no more than the budgets of its first state. -/
lemma exec_after_cancel {s s' : SSEClient} {es : List (Effect Msg)} (hc : s.cancelled = true) :
    ∀ {is : List Input}, exec cfg s is = some (s', es) →
      es.countP Effect.isRequest ≤ requestBudget cfg.maxRetries.toNat s.phase ∧
        es.countP Effect.isSpawn ≤ spawnBudget s.phase
  | [], h => by simp [exec] at h; obtain ⟨rfl, rfl⟩ := h; simp
  | _ :: _, h => by
    obtain ⟨s₁, es₁, es₂, hst, he, rfl⟩ := exec_cons_inv h
    have h₁ := step_after_cancel hc hst
    have h₂ := exec_after_cancel h₁.1 he
    simp only [List.countP_append]
    omega

/-- Once the client's context is cancelled, whatever the environment does next, the client issues
at most `maxRetries + 1` more requests (one when `maxRetries` is negative) and starts at most one
more `run`: the cancellation is missed at most until the next `select`. -/
theorem requests_after_cancel_le {s s' : SSEClient} {is : List Input} {es : List (Effect Msg)}
    (hc : s.cancelled = true) (h : exec cfg s is = some (s', es)) :
    es.countP Effect.isRequest ≤ cfg.maxRetries.toNat + 1 ∧ es.countP Effect.isSpawn ≤ 1 := by
  have hb := exec_after_cancel hc h
  have hr : requestBudget cfg.maxRetries.toNat s.phase ≤ cfg.maxRetries.toNat + 1 := by
    cases s.phase <;> simp [requestBudget]
  have hs : spawnBudget s.phase ≤ 1 := by cases s.phase <;> simp [spawnBudget]
  omega

/-- A client cancelled while it reads, whose read then fails and whose reconnection succeeds. -/
theorem requests_after_cancel_during_read :
    { newSSEClient ⟨"GET", "/events"⟩ with phase := .reading .init, cancelled := true }.cancelled =
        true ∧
      ∃ s' es, exec (echoConfig [101])
          { newSSEClient ⟨"GET", "/events"⟩ with phase := .reading .init, cancelled := true }
          [.readError, .reply true, .select] = some (s', es) ∧
        es.countP Effect.isRequest ≤ (echoConfig [101]).maxRetries.toNat + 1 ∧
        es.countP Effect.isSpawn ≤ 1 :=
  ⟨rfl, _, _, rfl, @requests_after_cancel_le _ (echoConfig [101])
    { newSSEClient ⟨"GET", "/events"⟩ with phase := .reading .init, cancelled := true } _
    [.readError, .reply true, .select] _ rfl rfl⟩

/-- A client created by `NewSSEClient` whose context is never cancelled reads the lines of its
stream in order, up to the end or to the first payload `Decode` rejects, and enters
`reconnect`; meanwhile it decodes exactly the stream's event payloads up to that rejection and
hands the handler what `run`'s loop hands it. -/
theorem first_connection_decodes (hdr_ne : cfg.sseStreamHeader ≠ []) (req : Request)
    (stream : Bytes) :
    ∃ is, is <+: readInputs (readLines stream) ∧ ∃ es,
      exec cfg (newSSEClient req) is = some ((newSSEClient req).enterReconnect, es) ∧
      decoded es = upToFirstRejected cfg.codec (eventPayloads cfg.sseStreamHeader (readLines stream)) ∧
      handled es = deliveredMessages cfg stream := by
  obtain ⟨is, his, he⟩ := exec_readInputs cfg (s := newSSEClient req) rfl (readLines stream) .init rfl
  exact ⟨is, his, _, he, decodeInputs_eq cfg hdr_ne stream, rfl⟩

/-- A stream of one event. -/
theorem first_connection_decodes_one_event :
    ∃ is, is <+: readInputs (readLines [101, 10, 120, 10, 10]) ∧ ∃ es,
      exec (echoConfig [101]) (newSSEClient ⟨"GET", "/events"⟩) is =
        some ((newSSEClient ⟨"GET", "/events"⟩).enterReconnect, es) ∧
      decoded es = upToFirstRejected (echoConfig [101]).codec
        (eventPayloads (echoConfig [101]).sseStreamHeader (readLines [101, 10, 120, 10, 10])) ∧
      handled es = deliveredMessages (echoConfig [101]) [101, 10, 120, 10, 10] :=
  first_connection_decodes (by decide) _ _

/-- The client after `NewSSEClient`, one failed read and the `reconnect` it starts. -/
lemma reachable_first_reconnect (req : Request) :
    Reachable cfg (newSSEClient req).enterReconnect :=
  (Reachable.init req).exec
    (show exec cfg _ [.select, .readError] = some (_, [.log .error "failed to read more data"])
      from rfl)

/-- `reconnect` gives up without `waiter.Done()`: whenever a failed request ends it, the goroutine
returns with the counter still at one, so `Wait` and `Close` block forever. -/
theorem reconnect_gives_up_without_done {s s' : SSEClient} {es : List (Effect Msg)}
    (hs : Reachable cfg s) (h : step cfg s (.reply false) = some (s', es))
    (hst : s'.phase = .stopped) : s'.waiter = 1 ∧ es.countP Effect.isDone = 0 := by
  obtain ⟨hd, d, n, hp, ⟨-, -, -, rfl⟩ | ⟨-, -, rfl, rfl⟩ | ⟨h, -⟩⟩ := step_reply_inv h
  · cases hst
  · exact ⟨(hs.inv.running (by simp [hp])).2, by simp [Effect.isDone]⟩
  · cases h

/-- With `maxRetries` zero, an empty first body and a failed request, the goroutine returns with the
counter at one. -/
theorem stopped_with_waiter_one :
    ∃ s es, Reachable (echoConfig [101]) (newSSEClient ⟨"GET", "/events"⟩).enterReconnect ∧
      step (echoConfig [101]) (newSSEClient ⟨"GET", "/events"⟩).enterReconnect (.reply false) =
        some (s, es) ∧ s.phase = .stopped ∧ s.waiter = 1 ∧ es.countP Effect.isDone = 0 :=
  ⟨_, _, reachable_first_reconnect _, rfl, rfl,
    @reconnect_gives_up_without_done _ (echoConfig [101]) _ _ _ (reachable_first_reconnect _) rfl
      rfl⟩

/-- A cancellation while `run` is blocked in `ReadString` makes the read fail; `run` then enters
`reconnect`, which sleeps and calls `utils.DoRequest` after the cancellation, and whose failed
request returns without `waiter.Done()`. -/
theorem cancel_during_read_reconnects {s : SSEClient} {fr : Framing}
    (hp : s.phase = .reading fr) :
    ∃ s' es, exec cfg s [.cancel, .readError, .reply false] = some (s', .cancel :: es) ∧
      es.countP Effect.isRequest = 1 ∧ es.countP Effect.isDone = 0 ∧ s'.waiter = s.waiter := by
  by_cases hm : 0 < cfg.maxRetries
  · simp [exec, step, hp, hm, Int.not_le.2 hm, SSEClient.enterReconnect, Effect.isRequest,
      Effect.isDone, and_assoc]
  · simp [exec, step, hp, hm, Int.not_lt.1 hm, SSEClient.enterReconnect, Effect.isRequest,
      Effect.isDone, and_assoc]

/-- A client cancelled during its first read. -/
theorem cancel_during_first_read_reconnects :
    { newSSEClient ⟨"GET", "/events"⟩ with phase := .reading .init }.phase = .reading .init ∧
      ∃ s' es, exec (echoConfig [101]) { newSSEClient ⟨"GET", "/events"⟩ with
          phase := .reading .init } [.cancel, .readError, .reply false] = some (s', .cancel :: es) ∧
        es.countP Effect.isRequest = 1 ∧ es.countP Effect.isDone = 0 ∧ s'.waiter = 1 :=
  ⟨rfl, cancel_during_read_reconnects rfl⟩

/-- `reconnect` closes no body: after each of its requests the newest body is open, also when it
gives up and returns, and after a successful one the body it replaced is open too. -/
theorem reconnect_leaves_bodies_open {s s' : SSEClient} {ok : Bool} {es : List (Effect Msg)}
    (hs : Reachable cfg s) (h : step cfg s (.reply ok) = some (s', es)) :
    .closeBody ∉ es ∧ s'.bodies.head? = some false ∧
      (ok = true → s'.bodies.tail.head? = some false) := by
  obtain ⟨hd, d, n, hp, hcases⟩ := step_reply_inv h
  have hopen := (hs.inv.running (by simp [hp])).1
  rcases hcases with ⟨rfl, -, rfl, rfl⟩ | ⟨rfl, -, rfl, rfl⟩ | ⟨rfl, rfl, rfl⟩ <;> simpa using hopen

/-- A successful first reconnection leaves the first body and the new one open. -/
theorem reconnect_leaves_two_bodies_open :
    ∃ s es, step (echoConfig [101]) (newSSEClient ⟨"GET", "/events"⟩).enterReconnect (.reply true) =
        some (s, es) ∧ Reachable (echoConfig [101]) (newSSEClient ⟨"GET", "/events"⟩).enterReconnect ∧
      .closeBody ∉ es ∧ s.bodies.head? = some false ∧ (true = true → s.bodies.tail.head? = some false) :=
  ⟨_, _, rfl, reachable_first_reconnect _,
    reconnect_leaves_bodies_open (reachable_first_reconnect _) rfl⟩

end Sabuhp.SSE
