import Sabuhp.SSE.Run

/-!
# What `run` reads from a stream

The event grammar of the spec's wire format, written as its own definitions, and the proof that
`run`'s read loop computes it. An event is a header line (one that `strings.TrimSpace` turns into
`SSEStreamHeader`), then `k ≥ 1` lines none of which is `"\n"` or a header line, then the line
`"\n"`; its payload is the `data:`-stripped concatenation of its lines; every other line
contributes nothing. `headerSegments` cuts a stream at its header lines, `eventOf` finds the
event a header opens, and `eventPayloads` lists the payloads in stream order.

`payloadCalls` is what the loop does with those payloads: `Decode` each, hand its message to the
handler, and stop at the first payload `Decode` rejects. The refinement `readLoop_calls` says that
the loop's codec and handler calls are exactly these, for every line stream, when the loop starts
with the variables `run` gives it. Its proof is one induction over the lines with the invariant
`pendingPayloads`: the payload the event in progress will have, followed by the events still
ahead. The only assumption is that `SSEStreamHeader` is not empty; an empty one would make the
blank line `"\n"` a header line of the grammar, which the loop, testing for `"\n"` first, never
takes it for.
-/

namespace Sabuhp.SSE

section Grammar

variable (hdr : Bytes)

/-- The lines before the first header line, and for each header line the lines after it up to
the next header line. -/
def headerSegments : List Line → List Line × List (List Line)
  | [] => ([], [])
  | l :: ls =>
    if trimSpace l.bytes = hdr then ([], (headerSegments ls).1 :: (headerSegments ls).2)
    else (l :: (headerSegments ls).1, (headerSegments ls).2)

/-- The lines of a segment before its first blank line `"\n"`, and whether there is one. -/
def bodyOf : List Line → List Line × Bool
  | [] => ([], false)
  | l :: ls => if l.bytes = newLine then ([], true) else (l :: (bodyOf ls).1, (bodyOf ls).2)

/-- The payload of an event with body lines `l1 … lk`:
`TrimPrefix(TrimPrefix(l1' ++ … ++ lk', "data:"), " ")`, where `li'` is `li` without its
trailing newline. -/
def eventPayload (body : List Line) : Bytes :=
  trimPrefix (trimPrefix (body.map fun l => trimSuffix l.bytes newLine).flatten dataHeaderBytes)
    spaceBytes

/-- The event a header line opens, given the lines after it up to the next header line: one
exists when `k ≥ 1` non-blank lines are followed by the blank line. -/
def eventOf (seg : List Line) : Option Bytes :=
  match bodyOf seg with
  | (body@(_ :: _), true) => some (eventPayload body)
  | _ => none

/-- The payloads of the events of a line stream, in stream order. -/
def eventPayloads (ls : List Line) : List Bytes := (headerSegments hdr ls).2.filterMap eventOf

end Grammar

/-- What the loop does with event payloads `ps`: `Decode` each and hand its message to the
handler, until the first payload `Decode` rejects, which ends the loop. -/
def payloadCalls {Msg : Type} (codec : Bytes → Except String Msg) :
    List Bytes → List (Bytes ⊕ Msg)
  | [] => []
  | p :: ps =>
    match codec p with
    | .ok m => .inl p :: .inr m :: payloadCalls codec ps
    | .error _ => [.inl p]

section Refinement

variable {hdr : Bytes}

/-- The payload the event in progress will have, when the loop is at `fr` and `pre` are the lines
to come before the next header line. -/
def pendingEvent (fr : Framing) (pre : List Line) : Option Bytes :=
  if fr.decoding ∧ (bodyOf pre).2 ∧ fr.data ++ ((bodyOf pre).1.map Line.content).flatten ≠ [] then
    some (dataLine (fr.data ++ ((bodyOf pre).1.map Line.content).flatten))
  else none

variable (hdr) in
/-- The loop invariant: what is still to be decoded when the loop is at `fr` with `ls` to read. -/
def pendingPayloads (fr : Framing) (ls : List Line) : List Bytes :=
  (pendingEvent fr (headerSegments hdr ls).1).toList ++ eventPayloads hdr ls

/-- `filterMap` on a cons, with the head's image as a list. -/
private lemma filterMap_cons_toList {α β : Type} (f : α → Option β) (a : α) (l : List α) :
    (a :: l).filterMap f = (f a).toList ++ l.filterMap f := by
  cases h : f a <;> simp [List.filterMap_cons, h]

/-- A header line closes the lines before it and opens a segment. -/
lemma headerSegments_of_header {l : Line} (ls : List Line) (h : trimSpace l.content = hdr) :
    headerSegments hdr (l :: ls) = ([], (headerSegments hdr ls).1 :: (headerSegments hdr ls).2) := by
  simp [headerSegments, h]

/-- Any other line joins the lines before the first header line. -/
lemma headerSegments_of_not_header {l : Line} (ls : List Line) (h : trimSpace l.content ≠ hdr) :
    headerSegments hdr (l :: ls) = (l :: (headerSegments hdr ls).1, (headerSegments hdr ls).2) := by
  simp [headerSegments, h]

/-- A header line contributes the event it opens. -/
lemma eventPayloads_of_header {l : Line} (ls : List Line) (h : trimSpace l.content = hdr) :
    eventPayloads hdr (l :: ls) = (eventOf (headerSegments hdr ls).1).toList ++ eventPayloads hdr ls := by
  simp [eventPayloads, headerSegments_of_header ls h, filterMap_cons_toList]

/-- A line before the first header line contributes nothing. -/
lemma eventPayloads_of_not_header {l : Line} (ls : List Line) (h : trimSpace l.content ≠ hdr) :
    eventPayloads hdr (l :: ls) = eventPayloads hdr ls := by
  simp [eventPayloads, headerSegments_of_not_header ls h]

/-- No line of an event's body is blank. -/
lemma bodyOf_mem_content {pre : List Line} : ∀ l ∈ (bodyOf pre).1, l.content ≠ [] := by
  induction pre with
  | nil => simp [bodyOf]
  | cons l ls ih =>
    by_cases h : l.content = [] <;> simp_all [bodyOf]

/-- Outside an event nothing is pending. -/
@[simp] lemma pendingEvent_idle (d : Bytes) (pre : List Line) : pendingEvent ⟨false, d⟩ pre = none := by
  simp [pendingEvent]

/-- An event the stream cuts off is never decoded. -/
@[simp] lemma pendingEvent_nil (fr : Framing) : pendingEvent fr [] = none := by
  simp [pendingEvent, bodyOf]

/-- A blank line ends the pending event, which has a payload when the buffer is not empty. -/
lemma pendingEvent_blank {l : Line} (dec : Bool) (d : Bytes) (pre : List Line) (hl : l.content = []) :
    pendingEvent ⟨dec, d⟩ (l :: pre) = if dec ∧ d ≠ [] then some (dataLine d) else none := by
  simp [pendingEvent, bodyOf, hl]

/-- A body line moves from the lines ahead into the buffer. -/
lemma pendingEvent_data {l : Line} (dec : Bool) (d : Bytes) (pre : List Line) (hl : l.content ≠ []) :
    pendingEvent ⟨dec, d⟩ (l :: pre) = pendingEvent ⟨dec, d ++ l.content⟩ pre := by
  simp [pendingEvent, bodyOf, hl]

/-- A header line's event is the event in progress right after the loop has read that line. -/
lemma pendingEvent_header (pre : List Line) : pendingEvent ⟨true, []⟩ pre = eventOf pre := by
  have hne := @bodyOf_mem_content pre
  unfold pendingEvent eventOf
  rcases hb : bodyOf pre with ⟨_ | ⟨l, body⟩, _ | _⟩
  · simp
  · simp
  · simp
  · rw [hb] at hne
    have := hne l (List.mem_cons_self l body)
    simp [this, eventPayload, Line.bytes, dataLine, trimSuffix_append]

variable {Msg : Type} (cfg : Config Msg)

/-- One line of the loop, seen through its codec and handler calls. -/
lemma calls_readLoop_cons (fr : Framing) (l : Line) (ls : List Line) :
    calls (readLoop cfg fr (l :: ls)).1 =
      match processLine cfg.sseStreamHeader fr l with
      | (fr', none) => calls (readLoop cfg fr' ls).1
      | (fr', some p) =>
        match cfg.codec p with
        | .ok m => .inl p :: .inr m :: calls (readLoop cfg fr' ls).1
        | .error _ => [.inl p] := by
  simp only [readLoop, runLine]
  rcases processLine cfg.sseStreamHeader fr l with ⟨fr', _ | p⟩
  · simp
  · cases h : cfg.codec p with
    | error => simp [h, Effect.call?]
    | ok m => cases hm : cfg.handler m <;> simp [h, hm, deliver, Effect.call?]

/-- The read loop refines the event grammar: from any loop state, its codec and handler calls are
those of the payloads still pending. -/
lemma readLoop_calls (hdr_ne : cfg.sseStreamHeader ≠ []) :
    ∀ (ls : List Line) (fr : Framing),
      calls (readLoop cfg fr ls).1 =
        payloadCalls cfg.codec (pendingPayloads cfg.sseStreamHeader fr ls)
  | [], fr => by simp [readLoop, pendingPayloads, eventPayloads, headerSegments, payloadCalls]
  | l :: ls, fr => by
    obtain ⟨dec, d⟩ := fr
    rw [calls_readLoop_cons]
    by_cases hl : l.content = []
    · -- a blank line: never a header line, since the header is not empty
      have hnh : trimSpace l.content ≠ cfg.sseStreamHeader := by
        rw [hl]; exact fun h => hdr_ne (by rw [← h]; decide)
      rw [processLine_blank hl, pendingPayloads, headerSegments_of_not_header ls hnh,
        eventPayloads_of_not_header ls hnh, pendingEvent_blank dec d _ hl]
      cases dec
      · simpa [pendingPayloads] using readLoop_calls hdr_ne ls ⟨false, d⟩
      · by_cases hd : d = []
        · simpa [hd, pendingPayloads] using readLoop_calls hdr_ne ls ⟨false, []⟩
        · cases h : cfg.codec (dataLine d) <;>
            simp [hd, h, payloadCalls, readLoop_calls hdr_ne ls ⟨false, d⟩, pendingPayloads]
    by_cases hh : trimSpace l.content = cfg.sseStreamHeader
    · -- a header line: the event it opens is the one in progress
      rw [processLine_header hl hh]
      dsimp only
      rw [readLoop_calls hdr_ne ls, pendingPayloads, pendingPayloads,
        headerSegments_of_header ls hh, eventPayloads_of_header ls hh, pendingEvent_header]
      simp
    · -- a data line: it extends the event in progress, if any
      rw [processLine_data hl hh]
      dsimp only
      rw [readLoop_calls hdr_ne ls, pendingPayloads, pendingPayloads,
        headerSegments_of_not_header ls hh, eventPayloads_of_not_header ls hh,
        pendingEvent_data dec d _ hl]

/-- From the variables `run` starts with, the loop's calls are those of the stream's events. -/
lemma readLoop_init_calls (hdr_ne : cfg.sseStreamHeader ≠ []) (ls : List Line) :
    calls (readLoop cfg .init ls).1 = payloadCalls cfg.codec (eventPayloads cfg.sseStreamHeader ls) := by
  simpa [pendingPayloads, Framing.init] using readLoop_calls cfg hdr_ne ls .init

end Refinement

section Payloads

variable {Msg : Type} (codec : Bytes → Except String Msg)

/-- The payloads up to and including the first one `codec` rejects, or all of them. -/
def upToFirstRejected : List Bytes → List Bytes
  | [] => []
  | p :: ps => if (codec p).isOk then p :: upToFirstRejected ps else [p]

/-- The payloads up to the first rejected one are a prefix of the payloads. -/
lemma upToFirstRejected_isPrefix : ∀ ps : List Bytes, upToFirstRejected codec ps <+: ps
  | [] => List.prefix_refl _
  | p :: ps => by
    unfold upToFirstRejected
    split
    · exact List.prefix_cons_inj p |>.2 (upToFirstRejected_isPrefix ps)
    · exact (List.prefix_cons_inj p).2 List.nil_prefix

/-- The loop passes to `Decode` the payloads up to the first rejected one. -/
lemma payloadCalls_decoded : ∀ ps : List Bytes,
    (payloadCalls codec ps).filterMap Sum.getLeft? = upToFirstRejected codec ps
  | [] => rfl
  | p :: ps => by
    cases h : codec p <;> simp [payloadCalls, upToFirstRejected, h, Except.isOk, Except.toBool,
      payloadCalls_decoded ps]

/-- The loop hands the handler the decodings `Decode` accepts of those payloads. -/
lemma payloadCalls_handled : ∀ ps : List Bytes,
    ((payloadCalls codec ps).filterMap Sum.getRight?).map Except.ok =
      ((upToFirstRejected codec ps).map codec).filter (·.isOk)
  | [] => rfl
  | p :: ps => by
    cases h : codec p <;> simp [payloadCalls, upToFirstRejected, h, Except.isOk, Except.toBool,
      payloadCalls_handled ps]

/-- When `Decode` accepts every payload, the loop decodes them all and delivers every decoding. -/
lemma upToFirstRejected_of_ok {ps : List Bytes} (hok : ∀ p ∈ ps, ∃ m, codec p = .ok m) :
    upToFirstRejected codec ps = ps ∧ (ps.map codec).filter (·.isOk) = ps.map codec := by
  induction ps with
  | nil => simp [upToFirstRejected]
  | cons p ps ih =>
    obtain ⟨m, hm⟩ := hok p (List.mem_cons_self p ps)
    obtain ⟨h1, h2⟩ := ih fun q hq => hok q (List.mem_cons_of_mem p hq)
    refine ⟨by simp [upToFirstRejected, hm, Except.isOk, Except.toBool, h1], ?_⟩
    rw [List.map_cons, List.filter_cons_of_pos (by simp [hm, Except.isOk, Except.toBool]), h2]

end Payloads

section Decoding

variable {Msg : Type}

/-- The byte strings `run` passes to `Decode` while it reads `stream`, its context never
cancelled. -/
def decodeInputs (cfg : Config Msg) (stream : Bytes) : List Bytes :=
  decoded (readLoop cfg .init (readLines stream)).1

/-- The messages `run` hands to its handler while it reads `stream`. -/
def deliveredMessages (cfg : Config Msg) (stream : Bytes) : List Msg :=
  handled (readLoop cfg .init (readLines stream)).1

/-- `run` passes to `Decode` the stream's event payloads up to the first rejected one. -/
lemma decodeInputs_eq (cfg : Config Msg) (hdr_ne : cfg.sseStreamHeader ≠ []) (stream : Bytes) :
    decodeInputs cfg stream =
      upToFirstRejected cfg.codec (eventPayloads cfg.sseStreamHeader (readLines stream)) := by
  rw [decodeInputs, decoded, readLoop_init_calls cfg hdr_ne, payloadCalls_decoded]

/-- `run` delivers the accepted decodings of those payloads. -/
lemma deliveredMessages_eq (cfg : Config Msg) (hdr_ne : cfg.sseStreamHeader ≠ []) (stream : Bytes) :
    (deliveredMessages cfg stream).map Except.ok =
      ((upToFirstRejected cfg.codec (eventPayloads cfg.sseStreamHeader (readLines stream))).map
        cfg.codec).filter (·.isOk) := by
  rw [deliveredMessages, handled, readLoop_init_calls cfg hdr_ne, payloadCalls_handled]

/-- With a codec that decodes every input and a context never cancelled, `run` decodes exactly
the payloads of the stream's events, in order, and hands the handler exactly their decodings. -/
theorem run_handles_event_payloads (cfg : Config Msg) (hdr_ne : cfg.sseStreamHeader ≠ [])
    (hok : ∀ p, ∃ m, cfg.codec p = .ok m) (stream : Bytes) :
    decodeInputs cfg stream = eventPayloads cfg.sseStreamHeader (readLines stream) ∧
      (deliveredMessages cfg stream).map Except.ok =
        (eventPayloads cfg.sseStreamHeader (readLines stream)).map cfg.codec := by
  have h := @upToFirstRejected_of_ok _ cfg.codec
    (eventPayloads cfg.sseStreamHeader (readLines stream)) fun p _ => hok p
  rw [decodeInputs_eq cfg hdr_ne, deliveredMessages_eq cfg hdr_ne, h.1, h.2]
  exact ⟨rfl, rfl⟩

/-- A client with stream header `hdr` whose codec returns its input and whose handler never
fails. -/
def echoConfig (hdr : Bytes) : Config Bytes :=
  { sseStreamHeader := hdr, maxRetries := 0, retryFunc := id, codec := .ok,
    handler := fun _ => none }

/-- Two events, each decoded and delivered. -/
theorem run_handles_event_payloads_two_events :
    decodeInputs (echoConfig [101]) [101, 10, 120, 10, 10, 101, 10, 121, 10, 10] =
        eventPayloads [101] (readLines [101, 10, 120, 10, 10, 101, 10, 121, 10, 10]) ∧
      (deliveredMessages (echoConfig [101]) [101, 10, 120, 10, 10, 101, 10, 121, 10, 10]).map
          Except.ok =
        (eventPayloads [101] (readLines [101, 10, 120, 10, 10, 101, 10, 121, 10, 10])).map
          (echoConfig [101]).codec :=
  run_handles_event_payloads (echoConfig [101]) (by decide) (fun p => ⟨p, rfl⟩) _

/-- The spec's frame `F(b)`: `SSEStreamHeader ++ "\n" ++ "data: " ++ b ++ "\n" ++ "\n"`. -/
def frame (hdr b : Bytes) : Bytes :=
  hdr ++ newLine ++ dataHeaderBytes ++ spaceBytes ++ b ++ newLine ++ newLine

/-- Every byte of what the loop passes to `Decode` comes from the lines it read: a property of
bytes that holds of every line's content and of the buffer holds of every payload. -/
lemma readLoop_bytes (cfg : Config Msg) (P : UInt8 → Prop) (ls : List Line)
    (hls : ∀ l ∈ ls, ∀ b ∈ l.content, P b) :
    ∀ fr : Framing, (∀ b ∈ fr.data, P b) →
      ∀ p, Sum.inl p ∈ calls (readLoop cfg fr ls).1 → ∀ b ∈ p, P b := by
  induction ls with
  | nil => simp [readLoop]
  | cons l ls ih =>
    intro fr hfr p hp
    have hinv := @processLine_bytes cfg.sseStreamHeader fr l P hfr (hls l (List.mem_cons_self l ls))
    have ih := ih fun l' h' => hls l' (List.mem_cons_of_mem l h')
    rw [calls_readLoop_cons] at hp
    generalize processLine cfg.sseStreamHeader fr l = r at hinv hp
    obtain ⟨fr', _ | q⟩ := r
    · exact ih fr' hinv.1 p hp
    · cases hc : cfg.codec q <;> simp only [hc, List.mem_cons, Sum.inl.injEq, List.mem_singleton,
        reduceCtorEq, false_or, List.not_mem_nil, or_false] at hp
      · exact hp ▸ hinv.2 q rfl
      · rcases hp with rfl | hp
        · exact hinv.2 p rfl
        · exact ih fr' hinv.1 p hp

/-- A property of bytes that holds of every line `run` reads holds of every byte it passes to
`Decode`. -/
lemma decodeInputs_bytes (cfg : Config Msg) (P : UInt8 → Prop) (stream : Bytes)
    (h : ∀ l ∈ readLines stream, ∀ b ∈ l.content, P b) :
    ∀ p ∈ decodeInputs cfg stream, ∀ b ∈ p, P b := by
  intro p hp
  simp only [decodeInputs, decoded, List.mem_filterMap, Sum.getLeft?_eq_some_iff] at hp
  obtain ⟨_, hm, rfl⟩ := hp
  exact readLoop_bytes cfg P _ h .init (by simp [Framing.init]) p hm

/-- Nothing `run` passes to `Decode` holds a newline: the buffer only ever receives line contents,
and `dataLine` only strips a prefix. -/
lemma decodeInputs_no_newLine (cfg : Config Msg) (stream : Bytes) :
    ∀ p ∈ decodeInputs cfg stream, 10 ∉ p := fun p hp h10 =>
  decodeInputs_bytes cfg (· ≠ 10) stream (fun l _ _ hb e => l.no_newLine (e ▸ hb)) p hp 10 h10 rfl

/-- Every byte `run` passes to `Decode` comes from the stream. -/
lemma decodeInputs_subset (cfg : Config Msg) (stream : Bytes) :
    ∀ p ∈ decodeInputs cfg stream, p ⊆ stream :=
  decodeInputs_bytes cfg (· ∈ stream) stream (readLines_content_subset stream)

/-- A frame whose payload is the single byte `"\n"` is never decoded as sent, whatever the
stream header: the loop splits the payload at its newline. -/
theorem frame_with_newLine_payload_not_decoded :
    ¬ ∃ hdr : Bytes, decodeInputs (echoConfig hdr) (frame hdr newLine) = [newLine] := by
  rintro ⟨hdr, h⟩
  exact decodeInputs_no_newLine (echoConfig hdr) _ newLine (h ▸ List.mem_singleton_self _)
    (List.mem_singleton_self _)

section Frames

variable {hdr : Bytes} (hdr_line : 10 ∉ hdr)

/-- A header line, a `data:` line and a blank line: the lines of `frame hdr b`. -/
lemma readLines_frame (b : Bytes) (hb : 10 ∉ b) (s : Bytes) :
    readLines (frame hdr b ++ s) =
      ⟨hdr, hdr_line⟩ :: ⟨dataHeaderBytes ++ spaceBytes ++ b, by simp [hb, dataHeaderBytes, spaceBytes]⟩ ::
        ⟨[], List.not_mem_nil _⟩ :: readLines s := by
  rw [← readLines_bytes_append, ← readLines_bytes_append, ← readLines_bytes_append]
  simp [frame, Line.bytes]

variable (hdr_ne : hdr ≠ []) (hdr_trim : trimSpace hdr = hdr) (hdr_data : ¬ dataHeaderBytes <+: hdr)
include hdr_line hdr_ne hdr_trim hdr_data

/-- The events of a stream of frames are their payloads, when none holds a newline and the header
is a plain token. -/
lemma eventPayloads_frames (bs : List Bytes) (hbs : ∀ b ∈ bs, 10 ∉ b) :
    eventPayloads hdr (readLines (bs.map (frame hdr)).flatten) = bs := by
  induction bs with
  | nil => simp [eventPayloads, readLines, readLinesFrom, headerSegments]
  | cons b bs ih =>
    have hb := hbs b (List.mem_cons_self b bs)
    have hdl : 10 ∉ dataHeaderBytes ++ spaceBytes ++ b := by simp [hb, dataHeaderBytes, spaceBytes]
    have hdata : trimSpace (Line.content ⟨_, hdl⟩) ≠ hdr := fun h =>
      hdr_data (h ▸ by simpa using dataHeaderBytes_prefix_trimSpace (spaceBytes ++ b))
    have hblank : trimSpace (Line.content ⟨[], List.not_mem_nil 10⟩) ≠ hdr := fun h =>
      hdr_ne (by rw [← h]; decide)
    rw [List.map_cons, List.flatten_cons, readLines_frame hdr_line b hb,
      eventPayloads_of_header _ hdr_trim, eventPayloads_of_not_header _ hdata,
      eventPayloads_of_not_header _ hblank, ih fun b' h' => hbs b' (List.mem_cons_of_mem b h'),
      headerSegments_of_not_header _ hdata, headerSegments_of_not_header _ hblank]
    have hpay : eventPayload [⟨dataHeaderBytes ++ spaceBytes ++ b,
        by simp [hb, dataHeaderBytes, spaceBytes]⟩] = b := by
      simp only [eventPayload, List.map, Line.trimSuffix_bytes, List.flatten, List.append_nil,
        List.append_assoc, trimPrefix_append]
    have hne : dataHeaderBytes ++ spaceBytes ++ b ≠ [] := by simp [dataHeaderBytes]
    simp only [eventOf, bodyOf, Line.bytes_eq_newLine, hne, if_false, if_true, hpay]
    rfl

end Frames

/-- A prelude without header lines contributes no event. -/
lemma eventPayloads_prelude {hdr : Bytes} (prelude ls : List Line)
    (hpre : ∀ l ∈ prelude, trimSpace l.bytes ≠ hdr) :
    eventPayloads hdr (prelude ++ ls) = eventPayloads hdr ls := by
  induction prelude with
  | nil => rfl
  | cons l prelude ih =>
    rw [List.cons_append, eventPayloads_of_not_header _ (by simpa using hpre l (List.mem_cons_self _ _)),
      ih fun l' h' => hpre l' (List.mem_cons_of_mem l h')]

/-- `run` decodes exactly the payloads of a stream of frames after a prelude without header
lines, and delivers their decodings, when no payload holds a newline and the header is a plain
token: not empty, one line, its own `TrimSpace`, and not starting with `data:`. -/
theorem run_decodes_newline_free_frames (cfg : Config Msg)
    (hdr_ne : cfg.sseStreamHeader ≠ []) (hdr_line : 10 ∉ cfg.sseStreamHeader)
    (hdr_trim : trimSpace cfg.sseStreamHeader = cfg.sseStreamHeader)
    (hdr_data : ¬ dataHeaderBytes <+: cfg.sseStreamHeader)
    (prelude : List Line) (hpre : ∀ l ∈ prelude, trimSpace l.bytes ≠ cfg.sseStreamHeader)
    (bs : List Bytes) (hbs : ∀ b ∈ bs, 10 ∉ b) (hok : ∀ b ∈ bs, ∃ m, cfg.codec b = .ok m) :
    decodeInputs cfg ((prelude.map Line.bytes).flatten ++ (bs.map (frame cfg.sseStreamHeader)).flatten) =
        bs ∧
      (deliveredMessages cfg
          ((prelude.map Line.bytes).flatten ++ (bs.map (frame cfg.sseStreamHeader)).flatten)).map
          Except.ok = bs.map cfg.codec := by
  have hps : eventPayloads cfg.sseStreamHeader (readLines
      ((prelude.map Line.bytes).flatten ++ (bs.map (frame cfg.sseStreamHeader)).flatten)) = bs := by
    rw [readLines_flatten_append, eventPayloads_prelude _ _ hpre,
      eventPayloads_frames hdr_line hdr_ne hdr_trim hdr_data bs hbs]
  have h := upToFirstRejected_of_ok cfg.codec hok
  rw [decodeInputs_eq cfg hdr_ne, deliveredMessages_eq cfg hdr_ne, hps, h.1, h.2]
  exact ⟨rfl, rfl⟩

/-- One frame after a one-line prelude. -/
theorem run_decodes_newline_free_frames_after_prelude :
    decodeInputs (echoConfig [101])
        ((([⟨[120], by decide⟩] : List Line).map Line.bytes).flatten ++
          ([[121]].map (frame [101])).flatten) =
      [[121]] ∧
    (deliveredMessages (echoConfig [101])
        ((([⟨[120], by decide⟩] : List Line).map Line.bytes).flatten ++
          ([[121]].map (frame [101])).flatten)).map Except.ok =
      [[121]].map (echoConfig [101]).codec :=
  run_decodes_newline_free_frames (echoConfig [101]) (by decide) (by decide) (by decide) (by decide)
    _ (by decide) _ (by decide) (fun b _ => ⟨b, rfl⟩)

/-- Two codecs that differ only on the first of two events lead `run` to different `Decode`
inputs: rejecting the first payload ends the loop before the second event. -/
theorem decodeInputs_differ_after_rejection :
    decodeInputs (echoConfig [101]) [101, 10, 120, 10, 10, 101, 10, 121, 10, 10] ≠
      decodeInputs { echoConfig [101] with codec := fun p => if p = [120] then .error "" else .ok p }
        [101, 10, 120, 10, 10, 101, 10, 121, 10, 10] := by
  decide

/-- Under any codec, `run` decodes the stream's event payloads up to and including the first one
that codec rejects; so under two codecs the `Decode` inputs are both prefixes of the event
payloads, and one is a prefix of the other. -/
theorem decodeInputs_up_to_first_rejection (cfg : Config Msg) (hdr_ne : cfg.sseStreamHeader ≠ [])
    (c₁ c₂ : Bytes → Except String Msg) (stream : Bytes) :
    decodeInputs { cfg with codec := c₁ } stream =
        upToFirstRejected c₁ (eventPayloads cfg.sseStreamHeader (readLines stream)) ∧
      decodeInputs { cfg with codec := c₂ } stream =
        upToFirstRejected c₂ (eventPayloads cfg.sseStreamHeader (readLines stream)) ∧
      (decodeInputs { cfg with codec := c₁ } stream <+: decodeInputs { cfg with codec := c₂ } stream ∨
        decodeInputs { cfg with codec := c₂ } stream <+: decodeInputs { cfg with codec := c₁ } stream) := by
  rw [decodeInputs_eq { cfg with codec := c₁ } hdr_ne, decodeInputs_eq { cfg with codec := c₂ } hdr_ne]
  exact ⟨rfl, rfl, List.prefix_or_prefix_of_prefix (upToFirstRejected_isPrefix c₁ _)
    (upToFirstRejected_isPrefix c₂ _)⟩

/-- Two events, under a codec that accepts both and one that rejects the first. -/
theorem decodeInputs_up_to_first_rejection_two_events :
    decodeInputs { echoConfig [101] with codec := .ok } [101, 10, 120, 10, 10, 101, 10, 121, 10, 10] =
        upToFirstRejected .ok (eventPayloads [101] (readLines [101, 10, 120, 10, 10, 101, 10, 121, 10, 10])) ∧
      decodeInputs { echoConfig [101] with codec := fun p => if p = [120] then .error "" else .ok p }
          [101, 10, 120, 10, 10, 101, 10, 121, 10, 10] =
        upToFirstRejected (fun p => if p = [120] then .error "" else .ok p)
          (eventPayloads [101] (readLines [101, 10, 120, 10, 10, 101, 10, 121, 10, 10])) ∧
      (decodeInputs { echoConfig [101] with codec := .ok } [101, 10, 120, 10, 10, 101, 10, 121, 10, 10] <+:
          decodeInputs { echoConfig [101] with codec := fun p => if p = [120] then .error "" else .ok p }
            [101, 10, 120, 10, 10, 101, 10, 121, 10, 10] ∨
        decodeInputs { echoConfig [101] with codec := fun p => if p = [120] then .error "" else .ok p }
            [101, 10, 120, 10, 10, 101, 10, 121, 10, 10] <+:
          decodeInputs { echoConfig [101] with codec := .ok } [101, 10, 120, 10, 10, 101, 10, 121, 10, 10]) :=
  decodeInputs_up_to_first_rejection (echoConfig [101]) (by decide) _ _ _

/-- A list of messages is determined by its list of `Except.ok`s. -/
lemma map_ok_injective : Function.Injective (List.map (@Except.ok String Msg)) :=
  List.map_injective_iff.2 fun _ _ h => Except.ok.inj h

/-- Whatever the handler returns, `run` decodes the same payloads and hands the handler the same
messages: a handler error is only logged. -/
theorem run_ignores_handler_errors (cfg : Config Msg) (hdr_ne : cfg.sseStreamHeader ≠ [])
    (handler : Msg → Option String) (stream : Bytes) :
    decodeInputs { cfg with handler := handler } stream = decodeInputs cfg stream ∧
      deliveredMessages { cfg with handler := handler } stream = deliveredMessages cfg stream := by
  refine ⟨by rw [decodeInputs_eq { cfg with handler := handler } hdr_ne, decodeInputs_eq cfg hdr_ne],
    ?_⟩
  apply map_ok_injective
  rw [deliveredMessages_eq { cfg with handler := handler } hdr_ne, deliveredMessages_eq cfg hdr_ne]

/-- Two events, under a handler that always fails. -/
theorem run_ignores_handler_errors_failing_handler :
    (echoConfig [101]).sseStreamHeader ≠ [] ∧
      decodeInputs { echoConfig [101] with handler := fun _ => some "boom" }
          [101, 10, 120, 10, 10, 101, 10, 121, 10, 10] =
        decodeInputs (echoConfig [101]) [101, 10, 120, 10, 10, 101, 10, 121, 10, 10] ∧
      deliveredMessages { echoConfig [101] with handler := fun _ => some "boom" }
          [101, 10, 120, 10, 10, 101, 10, 121, 10, 10] =
        deliveredMessages (echoConfig [101]) [101, 10, 120, 10, 10, 101, 10, 121, 10, 10] :=
  ⟨by decide, run_ignores_handler_errors (echoConfig [101]) (by decide) _ _⟩

end Decoding

end Sabuhp.SSE
