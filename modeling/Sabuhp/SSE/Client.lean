import Sabuhp.SSE.Run

/-!
# The SSE client as a state machine

Model of `SSEHub.For`, `NewSSEClient`, `SSEClient.run` and `SSEClient.reconnect`
(`seeclient.go`, lines 93 to 308) as a step function over the client's state and the inputs its
environment supplies. The client has one goroutine at a time: `run`, which becomes `reconnect`
when its loop ends without a cancellation, and which `reconnect` replaces by a fresh `run` when a
request succeeds. `Phase` says where that goroutine is. Its four places are the `select` on
`ctx.Done()` at the top of `doLoop`, the blocking `ReadString`, the top of `reconnect`'s loop,
and returned.

An `Input` is what can happen next: `Close` or the parent context cancels the client's context;
the goroutine takes its `select`; `ReadString` returns a line or fails; `utils.DoRequest` returns
a response or an error. Everything the environment decides is an input, so a run of the client is
any list of inputs, and the properties of later modules are stated for every list. `step` does
what the source does with one input, and is `none` when the input cannot happen in the current
phase. `exec` runs a list of inputs and collects the effects.

A step runs the source from one blocking point of the goroutine to the next, so the straight-line
code between two of them is one step. On a cancelled context that is `waiter.Done()`, then
`Body.Close()`, then `return` (lines 258 to 261): the model's states are taken before and after
it, and do not show the moment between `Done` and `Close` at which a `Wait` may already return
while the body is still open.

The closing lemmas are the inversion lemmas of `step`, one per input, from which every invariant
of `Lifecycle.lean` is derived.
-/

namespace Sabuhp.SSE

/-- Where the client's goroutine is. -/
inductive Phase where
  /-- `run`, at the `select` on `sc.ctx.Done()` at the top of `doLoop`. -/
  | loopTop (fr : Framing)
  /-- `run`, blocked in `reader.ReadString('\n')`. -/
  | reading (fr : Framing)
  /-- `reconnect`, at the top of its loop, with its `header`, `lastDuration` and `retryCount`. -/
  | reconnecting (header : Header) (lastDuration : Int) (retryCount : Nat)
  /-- The goroutine has returned. -/
  | stopped
  deriving DecidableEq

/-- The state of an `SSEClient` that changes, and its goroutine's place. `cancelled` is whether
`sc.ctx.Done()` is closed; `waiter` is the counter of `sc.waiter`; `bodies` are the closed flags
of the response bodies the client has held, newest (`sc.response.Body`) first. -/
structure SSEClient where
  phase : Phase
  cancelled : Bool
  waiter : Int
  request : Request
  bodies : List Bool
  lastId : Option String
  deriving DecidableEq

/-- What the environment does next. -/
inductive Input where
  /-- `sc.canceler()`, from `Close`, or the parent context ending. -/
  | cancel
  /-- The goroutine evaluates the `select` at the top of `doLoop`. -/
  | select
  /-- `ReadString` returns `l`. -/
  | line (l : Line)
  /-- `ReadString` fails (end of stream, or any read error). -/
  | readError
  /-- `utils.DoRequest` returns a response (`true`) or an error (`false`). -/
  | reply (ok : Bool)
  deriving DecidableEq

/-- The header `SSEHub.For` sends: `Cache-Control`, `Accept`, and the initial ids joined by `;`
when there are any. -/
def forHeader (lastEventIds : List String) : Header :=
  let header := Header.set (Header.set [] "Cache-Control" "no-cache") "Accept" "text/event-stream"
  if lastEventIds.length > 0 then
    Header.set header lastEventIdListHeader (";".intercalate lastEventIds)
  else header

/-- The header `reconnect` builds once at its start: `Cache-Control`, `Accept`, and `sc.lastId`
when it is not nil. -/
def reconnectHeader (lastId : Option String) : Header :=
  let header := Header.set (Header.set [] "Cache-Control" "no-cache") "Accept" "text/event-stream"
  match lastId with
  | some id => Header.set header lastEventIdListHeader id
  | none => header

/-- `NewSSEClient`: a client over the response to `req`, its counter at one, its `run` started. -/
def newSSEClient (req : Request) : SSEClient :=
  { phase := .loopTop .init, cancelled := false, waiter := 1, request := req, bodies := [false],
    lastId := none }

variable {Msg : Type}

/-- `SSEHub.For(handler, method, route, body, lastEventIds...)`: the request it makes, and the
client it returns when `utils.DoRequest` succeeds (`ok`). -/
def SSEHub.For (method route : String) (body : Option Bytes) (lastEventIds : List String)
    (ok : Bool) : List (Effect Msg) × Option SSEClient :=
  ([.request method route body (forHeader lastEventIds)],
    if ok then some (newSSEClient ⟨method, route⟩) else none)

/-- `SSEHub.Get`. -/
def SSEHub.Get (route : String) (lastEventIds : List String) (ok : Bool) :
    List (Effect Msg) × Option SSEClient :=
  SSEHub.For "GET" route none lastEventIds ok

/-- `SSEHub.Post`. -/
def SSEHub.Post (route : String) (body : Option Bytes) (lastEventIds : List String) (ok : Bool) :
    List (Effect Msg) × Option SSEClient :=
  SSEHub.For "POST" route body lastEventIds ok

/-- `SSEHub.Put`. -/
def SSEHub.Put (route : String) (body : Option Bytes) (lastEventIds : List String) (ok : Bool) :
    List (Effect Msg) × Option SSEClient :=
  SSEHub.For "PUT" route body lastEventIds ok

/-- `SSEHub.Patch`. -/
def SSEHub.Patch (route : String) (body : Option Bytes) (lastEventIds : List String) (ok : Bool) :
    List (Effect Msg) × Option SSEClient :=
  SSEHub.For "PATCH" route body lastEventIds ok

/-- `SSEHub.Delete`, whose method is written `"Delete"`, not `"DELETE"` as the others are. -/
def SSEHub.Delete (route : String) (lastEventIds : List String) (ok : Bool) :
    List (Effect Msg) × Option SSEClient :=
  SSEHub.For "Delete" route none lastEventIds ok

/-- `run` leaving `doLoop` without `closedOps`: the goroutine calls `reconnect`, which builds its
header and starts its loop with `lastDuration` and `retryCount` zero. -/
def SSEClient.enterReconnect (s : SSEClient) : SSEClient :=
  { s with phase := .reconnecting (reconnectHeader s.lastId) 0 0 }

variable (cfg : Config Msg)

/-- One step of the client, from one blocking point of its goroutine to the next. On a cancelled
context the `select` branch calls `waiter.Done()`, closes the body and returns. On a successful
reply `reconnect` stores the new request, which has the old one's method and URL, and the new
response, whose body is open, and starts `run`. -/
def step (s : SSEClient) : Input → Option (SSEClient × List (Effect Msg))
  | .cancel => some ({ s with cancelled := true }, [.cancel])
  | .select =>
    match s.phase with
    | .loopTop fr =>
      if s.cancelled then
        some ({ s with phase := .stopped, waiter := s.waiter - 1, bodies := true :: s.bodies.tail },
          [.done, .closeBody])
      else some ({ s with phase := .reading fr }, [])
    | _ => none
  | .line l =>
    match s.phase with
    | .reading fr =>
      match runLine cfg fr l with
      | (es, fr', true) => some ({ s with phase := .loopTop fr' }, es)
      | (es, _, false) => some (s.enterReconnect, es)
    | _ => none
  | .readError =>
    match s.phase with
    | .reading _ => some (s.enterReconnect, [.log .error "failed to read more data"])
    | _ => none
  | .reply ok =>
    match s.phase with
    | .reconnecting header lastDuration retryCount =>
      let d := cfg.retryFunc lastDuration
      let es := [.sleep d, .request s.request.method s.request.url none header]
      if !ok ∧ (retryCount : Int) < cfg.maxRetries then
        some ({ s with phase := .reconnecting header d (retryCount + 1) }, es)
      else if !ok ∧ (retryCount : Int) ≥ cfg.maxRetries then
        some ({ s with phase := .stopped }, es ++ [.log .error "failed to create request"])
      else some ({ s with phase := .loopTop .init, bodies := false :: s.bodies }, es ++ [.spawn])
    | _ => none

/-- The client run on a list of inputs: where it ends and what it did, or `none` if some input
cannot happen when it comes. -/
def exec : SSEClient → List Input → Option (SSEClient × List (Effect Msg))
  | s, [] => some (s, [])
  | s, i :: is =>
    match step cfg s i with
    | some (s', es) =>
      match exec s' is with
      | some (s'', es') => some (s'', es ++ es')
      | none => none
    | none => none

/-- The states a client created by `NewSSEClient` reaches. -/
inductive Reachable : SSEClient → Prop
  | init (req : Request) : Reachable (newSSEClient req)
  | step {s s' : SSEClient} {i : Input} {es : List (Effect Msg)} :
      Reachable s → step cfg s i = some (s', es) → Reachable s'

section Inversion

variable {cfg} {s s' : SSEClient} {es : List (Effect Msg)}

/-- A cancellation only marks the context cancelled. -/
lemma step_cancel_inv (h : step cfg s .cancel = some (s', es)) :
    s' = { s with cancelled := true } ∧ es = [.cancel] := by
  simp only [step, Option.some.injEq, Prod.mk.injEq] at h
  exact ⟨h.1.symm, h.2.symm⟩

/-- The `select` happens at the top of `doLoop`: on a cancelled context the goroutine calls
`waiter.Done()`, closes the body and returns; otherwise it goes on to `ReadString`. -/
lemma step_select_inv (h : step cfg s .select = some (s', es)) :
    ∃ fr, s.phase = .loopTop fr ∧
      ((s.cancelled = true ∧ es = [.done, .closeBody] ∧
          s' = { s with phase := .stopped, waiter := s.waiter - 1, bodies := true :: s.bodies.tail }) ∨
        (s.cancelled = false ∧ es = [] ∧ s' = { s with phase := .reading fr })) := by
  simp only [step] at h
  split at h
  · next fr hp =>
    refine ⟨fr, hp, ?_⟩
    cases hc : s.cancelled <;> simp only [hc, Bool.false_eq_true, ite_true, ite_false,
      Option.some.injEq, Prod.mk.injEq] at h <;> obtain ⟨rfl, rfl⟩ := h <;> simp
  · cases h

/-- A line comes while the goroutine reads: `runLine` handles it, and the loop either goes on or,
on a decode error, leaves for `reconnect`. -/
lemma step_line_inv {l : Line} (h : step cfg s (.line l) = some (s', es)) :
    ∃ fr, s.phase = .reading fr ∧
      ((∃ fr', runLine cfg fr l = (es, fr', true) ∧ s' = { s with phase := .loopTop fr' }) ∨
        (∃ fr', runLine cfg fr l = (es, fr', false) ∧ s' = s.enterReconnect)) := by
  simp only [step] at h
  split at h
  · next fr hp =>
    refine ⟨fr, hp, ?_⟩
    rcases hr : runLine cfg fr l with ⟨es', fr', _ | _⟩ <;> rw [hr] at h <;>
      simp only [Option.some.injEq, Prod.mk.injEq] at h <;> obtain ⟨rfl, rfl⟩ := h
    · exact .inr ⟨fr', rfl, rfl⟩
    · exact .inl ⟨fr', rfl, rfl⟩
  · cases h

/-- A failed read comes while the goroutine reads: it logs and enters `reconnect`. -/
lemma step_readError_inv (h : step cfg s .readError = some (s', es)) :
    (∃ fr, s.phase = .reading fr) ∧ es = [.log .error "failed to read more data"] ∧
      s' = s.enterReconnect := by
  simp only [step] at h
  split at h
  · next fr hp =>
    simp only [Option.some.injEq, Prod.mk.injEq] at h
    exact ⟨⟨fr, hp⟩, h.2.symm, h.1.symm⟩
  · cases h

/-- What one iteration of `reconnect`'s loop can do: retry, give up, or connect. -/
lemma step_reply_inv {ok : Bool} (h : step cfg s (.reply ok) = some (s', es)) :
    ∃ header d n, s.phase = .reconnecting header d n ∧
      ((ok = false ∧ (n : Int) < cfg.maxRetries ∧
          es = [.sleep (cfg.retryFunc d), .request s.request.method s.request.url none header] ∧
          s' = { s with phase := .reconnecting header (cfg.retryFunc d) (n + 1) }) ∨
        (ok = false ∧ cfg.maxRetries ≤ (n : Int) ∧
          es = [.sleep (cfg.retryFunc d), .request s.request.method s.request.url none header,
            .log .error "failed to create request"] ∧
          s' = { s with phase := .stopped }) ∨
        (ok = true ∧
          es = [.sleep (cfg.retryFunc d), .request s.request.method s.request.url none header,
            .spawn] ∧
          s' = { s with phase := .loopTop .init, bodies := false :: s.bodies })) := by
  simp only [step] at h
  split at h
  · next header d n hp =>
    refine ⟨header, d, n, hp, ?_⟩
    cases ok <;> split_ifs at h with h1 h2 <;> simp only [Option.some.injEq, Prod.mk.injEq] at h <;>
      obtain ⟨rfl, rfl⟩ := h
    · exact .inl ⟨rfl, h1.2, rfl, rfl⟩
    · exact .inr (.inl ⟨rfl, by simp at h2; omega, rfl, rfl⟩)
    · simp at h1 h2; omega
    · simp at h1
    · simp at h2
    · exact .inr (.inr ⟨rfl, rfl, rfl⟩)
  · cases h

end Inversion

section Runs

variable {cfg}

/-- A run that starts with a step that can happen. -/
lemma exec_cons_of_step {s s' : SSEClient} {i : Input} {es : List (Effect Msg)} (is : List Input)
    (h : step cfg s i = some (s', es)) :
    exec cfg s (i :: is) = (exec cfg s' is).map fun r => (r.1, es ++ r.2) := by
  simp only [exec, h]
  cases exec cfg s' is <;> rfl

/-- A run on two lists of inputs is the run on the first, then the run on the second. -/
lemma exec_append (s : SSEClient) (is is' : List Input) :
    exec cfg s (is ++ is') =
      (exec cfg s is).bind fun r => (exec cfg r.1 is').map fun r' => (r'.1, r.2 ++ r'.2) := by
  induction is generalizing s with
  | nil =>
    simp only [List.nil_append, exec, Option.some_bind]
    cases exec cfg s is' <;> rfl
  | cons i is ih =>
    cases h : step cfg s i with
    | none => simp [exec, h]
    | some r =>
      rw [List.cons_append, exec_cons_of_step _ h, exec_cons_of_step _ h, ih]
      cases exec cfg r.1 is <;> simp
      cases exec cfg _ is' <;> simp

/-- A run that does not get stuck is a step followed by a run. -/
lemma exec_cons_inv {s s'' : SSEClient} {i : Input} {is : List Input} {es : List (Effect Msg)}
    (h : exec cfg s (i :: is) = some (s'', es)) :
    ∃ s' es₁ es₂, step cfg s i = some (s', es₁) ∧ exec cfg s' is = some (s'', es₂) ∧
      es = es₁ ++ es₂ := by
  rcases hst : step cfg s i with _ | ⟨s', es₁⟩
  · simp [exec, hst] at h
  rcases he : exec cfg s' is with _ | ⟨s₂, es₂⟩
  · simp [exec, hst, he] at h
  simp only [exec, hst, he, Option.some.injEq, Prod.mk.injEq] at h
  obtain ⟨rfl, rfl⟩ := h
  exact ⟨s', es₁, es₂, rfl, he, rfl⟩

/-- A run from a reachable state ends in a reachable state. -/
lemma Reachable.exec {s s' : SSEClient} {is : List Input} {es : List (Effect Msg)}
    (hs : Reachable cfg s) (h : SSE.exec cfg s is = some (s', es)) : Reachable cfg s' := by
  induction is generalizing s es with
  | nil => simp [SSE.exec] at h; exact h.1 ▸ hs
  | cons i is ih =>
    obtain ⟨s₁, _, _, hst, he, -⟩ := exec_cons_inv h
    exact ih (Reachable.step hs hst) he

end Runs

/-- The inputs under which `run` reads `ls` and then fails to read: each line comes after the
goroutine's `select`, and the context is never cancelled. -/
def readInputs (ls : List Line) : List Input :=
  ls.flatMap (fun l => [.select, .line l]) ++ [.select, .readError]

/-- From the top of its loop with the context not cancelled, the client reading `ls` does what
`readLoop` does and then enters `reconnect`; a decode error gets it there before the last line. -/
theorem exec_readInputs {s : SSEClient} (hc : s.cancelled = false) :
    ∀ (ls : List Line) (fr : Framing), s.phase = .loopTop fr →
      ∃ is, is <+: readInputs ls ∧ exec cfg s is = some (s.enterReconnect, (readLoop cfg fr ls).1)
  | [], fr, hp => ⟨[.select, .readError], List.prefix_refl _, by
      simp [exec, step, hp, hc, readLoop, SSEClient.enterReconnect]⟩
  | l :: ls, fr, hp => by
    have hsel : step cfg s .select = some ({ s with phase := .reading fr }, []) := by
      simp [step, hp, hc]
    rcases hr : runLine cfg fr l with ⟨es, fr', _ | _⟩
    · have hline : step cfg { s with phase := .reading fr } (.line l) =
          some (s.enterReconnect, es) := by
        simp [step, hr, SSEClient.enterReconnect]
      refine ⟨[.select, .line l], by simp [readInputs], ?_⟩
      rw [exec_cons_of_step _ hsel, exec_cons_of_step _ hline]
      simp [exec, readLoop, hr]
    · obtain ⟨is, his, he⟩ := exec_readInputs (s := { s with phase := .loopTop fr' }) hc ls fr' rfl
      have hline : step cfg { s with phase := .reading fr } (.line l) =
          some ({ s with phase := .loopTop fr' }, es) := by
        simp [step, hr]
      refine ⟨.select :: .line l :: is, by simpa [readInputs] using his, ?_⟩
      rw [exec_cons_of_step _ hsel, exec_cons_of_step _ hline, he]
      simp [readLoop, hr, SSEClient.enterReconnect]

end Sabuhp.SSE
