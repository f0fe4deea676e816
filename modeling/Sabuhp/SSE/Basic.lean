import Sabuhp.Strings

/-!
# SSE client: data model

The data that `transport/ssepub/seeclient.go` passes around, as the rest of the development
models it. `Config` holds the fields of `SSEClient` that `NewSSEClient` sets and nothing changes
afterwards (`maxRetries`, `retryFunc`, `codec`, `handler`), together with the package constant
`SSEStreamHeader`, whose value neither the source nor the spec shows and which is therefore a
parameter; the other constant, `LastEventIdListHeader`, takes the name the spec gives it.
`Header` is an `http.Header` as `Set` builds it. `Effect` is what the client does that can be
observed from outside: the calls it makes into its codec, handler, logger, `WaitGroup`, response
body, clock and `utils.DoRequest`, and the goroutine it starts. Every later module states its
results over the list of effects a run emits.

Go names keep their words in Lean's case: the constants `SSEStreamHeader` and
`LastEventIdListHeader` are `sseStreamHeader` and `lastEventIdListHeader`, and the function
`NewSSEClient` is `newSSEClient`; methods keep their receiver as a namespace (`SSEHub.For`).
-/

namespace Sabuhp.SSE

/-- The two log levels `seeclient.go` writes at (`njson.Log(...).Error()` and `.Info()`). -/
inductive Level where
  | error
  | info
  deriving DecidableEq, Repr

/-- An `http.Header`, as the pairs `Set` wrote, in order. -/
abbrev Header := List (String × String)

/-- `http.Header.Set`: replace every value of the key. -/
def Header.set (h : Header) (k v : String) : Header :=
  h.filter (·.1 != k) ++ [(k, v)]

/-- `http.Header.Get`, with `none` where Go returns `""` for a missing key. -/
def Header.get? (h : Header) (k : String) : Option String := h.lookup k

/-- Once `Set` has filtered a key out, looking it up finds nothing. -/
lemma Header.lookup_filter_ne (h : Header) (k : String) : (h.filter (·.1 != k)).lookup k = none := by
  induction h with
  | nil => rfl
  | cons p h ih =>
    obtain ⟨a, b⟩ := p
    by_cases ha : a = k
    · simpa [List.filter_cons, ha] using ih
    · rw [List.filter_cons, if_pos (by simpa using ha), List.lookup_cons,
        beq_false_of_ne (Ne.symm ha)]
      exact ih

/-- `Get` returns what `Set` wrote. -/
@[simp] lemma Header.get?_set_self (h : Header) (k v : String) : (h.set k v).get? k = some v := by
  simp [Header.set, Header.get?, List.lookup_append, Header.lookup_filter_ne]

/-- What `*http.Request` holds that `reconnect` reads back: its method and URL. -/
structure Request where
  method : String
  url : String
  deriving DecidableEq, Repr

/-- Modelled from the spec: the package constant `LastEventIdListHeader`, which is not in the
source; section 6 of the spec names the header `Last-Event-Id-List`. -/
def lastEventIdListHeader : String := "Last-Event-Id-List"

/-- The fields of `SSEClient` that nothing changes after `NewSSEClient`, and the package
constant `SSEStreamHeader`. `codec` is `sc.codec.Decode`; `handler` returns the error the
`MessageHandler` returns, if any; `retryFunc` maps one back-off `time.Duration` to the next. -/
structure Config (Msg : Type) where
  sseStreamHeader : Bytes
  maxRetries : Int
  retryFunc : Int → Int
  codec : Bytes → Except String Msg
  handler : Msg → Option String

/-- What the client does that can be observed from outside. -/
inductive Effect (Msg : Type) where
  /-- `sc.codec.Decode(payload)`. -/
  | decode (payload : Bytes)
  /-- `sc.handler(m, sc)`. -/
  | handle (m : Msg)
  /-- A log line with its message. -/
  | log (level : Level) (message : String)
  /-- `sc.waiter.Done()`. -/
  | done
  /-- `sc.response.Body.Close()`. -/
  | closeBody
  /-- `<-time.After(d)`. -/
  | sleep (d : Int)
  /-- `utils.DoRequest(ctx, client, method, url, body, header)`. -/
  | request (method url : String) (body : Option Bytes) (header : Header)
  /-- `go sc.run()`. -/
  | spawn
  /-- The client's context is cancelled, by `Close` or by its parent. -/
  | cancel
  deriving DecidableEq

namespace Effect

variable {Msg : Type}

/-- A call into the codec, `inl p` for `Decode(p)`, or into the handler, `inr m`. -/
@[simp] def call? : Effect Msg → Option (Bytes ⊕ Msg)
  | decode p => some (.inl p)
  | handle m => some (.inr m)
  | _ => none

/-- Whether the effect is a call to `utils.DoRequest`. -/
def isRequest : Effect Msg → Bool
  | request .. => true
  | _ => false

/-- Whether the effect is `sc.waiter.Done()`. -/
def isDone : Effect Msg → Bool
  | done => true
  | _ => false

/-- Whether the effect starts a `run` goroutine. -/
def isSpawn : Effect Msg → Bool
  | spawn => true
  | _ => false

end Effect

section Calls

variable {Msg : Type}

/-- The calls a list of effects makes into the codec and the handler, in order. -/
def calls (es : List (Effect Msg)) : List (Bytes ⊕ Msg) := es.filterMap Effect.call?

/-- The payloads a list of effects passes to `Decode`, in order. -/
def decoded (es : List (Effect Msg)) : List Bytes := (calls es).filterMap Sum.getLeft?

/-- The messages a list of effects hands to the handler, in order. -/
def handled (es : List (Effect Msg)) : List Msg := (calls es).filterMap Sum.getRight?

/-- No effects make no calls. -/
@[simp] lemma calls_nil : calls ([] : List (Effect Msg)) = [] := rfl

/-- The calls of two lists of effects, one after the other. -/
@[simp] lemma calls_append (es es' : List (Effect Msg)) :
    calls (es ++ es') = calls es ++ calls es' := List.filterMap_append _ _ _

/-- The call an effect makes, if any, comes first. -/
@[simp] lemma calls_cons (e : Effect Msg) (es : List (Effect Msg)) :
    calls (e :: es) = e.call?.toList ++ calls es := by
  cases e <;> rfl

/-- The payloads decoded by two lists of effects, one after the other. -/
@[simp] lemma decoded_append (es es' : List (Effect Msg)) :
    decoded (es ++ es') = decoded es ++ decoded es' := by
  simp [decoded]

/-- The messages handled by two lists of effects, one after the other. -/
@[simp] lemma handled_append (es es' : List (Effect Msg)) :
    handled (es ++ es') = handled es ++ handled es' := by
  simp [handled]

end Calls

end Sabuhp.SSE
