import Sabuhp.SSE.Frames

/-!
# What `run` makes of a stream as it arrives

How `run`'s output on one stream relates to its output on another, for every codec, every
handler and every stream header. `readLines_isPrefix` and `readLoop_calls_isPrefix` say that reading
more bytes only adds to what was read: `ReadString` returns the same first lines, and the loop,
which takes its lines one at a time, makes on a prefix of them a prefix of its codec and handler
calls. So what `run` has decoded and delivered from the first bytes of a stream is never revised
by the bytes that follow (`decodeInputs_isPrefix`).

A header line resynchronises the stream. Whatever complete lines come before it, whole events,
a cut-off event or garbage, the loop decodes from the header line on what a fresh `run` would
decode from it, unless a payload before it was rejected, which ends the loop there
(`decodeInputs_resync`). The proof is on the grammar side: cut before a header line, the
stream's header segments are those of the two halves (`headerSegments_append`).

Last, the capacity of the framing. `run` reads its body through `utils.NewNormalisedReader`,
which is not in the sources and normalises line breaks; a body with no carriage return is one it
passes through as it is. Over such bodies, with a plain header, a byte string reaches `Decode`
exactly when it holds neither a newline nor a carriage return (`decodable_iff_no_line_break`).
-/

namespace Sabuhp.SSE

/-- `ReadString` on more bytes returns the same first lines. -/
lemma readLinesFrom_isPrefix : ∀ {acc : Bytes} (h : 10 ∉ acc) (s t : Bytes),
    readLinesFrom acc h s <+: readLinesFrom acc h (s ++ t)
  | _, _, [], _ => List.nil_prefix
  | _, _, b :: s, t => by
    by_cases hb : b = 10
    · simp only [List.cons_append, readLinesFrom, hb, dite_true]
      exact (List.prefix_cons_inj _).2 (readLinesFrom_isPrefix _ s t)
    · simp only [List.cons_append, readLinesFrom, hb, dite_false]
      exact readLinesFrom_isPrefix _ s t

/-- The lines read from a stream are a prefix of those read from any continuation of it. -/
lemma readLines_isPrefix (s t : Bytes) : readLines s <+: readLines (s ++ t) :=
  readLinesFrom_isPrefix _ s t

variable {Msg : Type} (cfg : Config Msg)

/-- The loop on a prefix of the lines makes a prefix of its codec and handler calls on all of
them: it takes its lines one at a time, and stops early only on a decode error, which it makes
on both. -/
lemma readLoop_calls_isPrefix : ∀ {ls ls' : List Line} (fr : Framing), ls <+: ls' →
    calls (readLoop cfg fr ls).1 <+: calls (readLoop cfg fr ls').1
  | [], _, _, _ => by simp [readLoop, Effect.call?]
  | l :: ls, _, fr, ⟨t, rfl⟩ => by
    rw [List.cons_append]
    simp only [readLoop]
    split
    · rw [calls_append, calls_append]
      exact (List.prefix_append_right_inj _).2 (readLoop_calls_isPrefix _ ⟨t, rfl⟩)
    · exact List.prefix_refl _

/-- What `run` has decoded and delivered from the first bytes of a stream is never revised by the
bytes that follow: on every continuation of the stream it decodes and delivers the same first,
whatever the codec, the handler and the stream header. -/
theorem decodeInputs_isPrefix (stream more : Bytes) :
    decodeInputs cfg stream <+: decodeInputs cfg (stream ++ more) ∧
      deliveredMessages cfg stream <+: deliveredMessages cfg (stream ++ more) :=
  have h := readLoop_calls_isPrefix cfg .init (readLines_isPrefix stream more)
  ⟨h.filterMap _, h.filterMap _⟩

section Resync

variable {hdr : Bytes}

/-- Cut before a header line, a stream's header segments are those of the two halves. -/
lemma headerSegments_append {L : List Line} (hL : (headerSegments hdr L).1 = []) :
    ∀ pre : List Line, headerSegments hdr (pre ++ L) =
      ((headerSegments hdr pre).1, (headerSegments hdr pre).2 ++ (headerSegments hdr L).2)
  | [] => Prod.ext hL rfl
  | l :: pre => by
    by_cases h : trimSpace l.content = hdr
    · rw [List.cons_append, headerSegments_of_header _ h, headerSegments_of_header _ h,
        headerSegments_append hL pre]
      rfl
    · rw [List.cons_append, headerSegments_of_not_header _ h, headerSegments_of_not_header _ h,
        headerSegments_append hL pre]

/-- Cut before a header line, a stream's events are those of the two halves. -/
lemma eventPayloads_append {L : List Line} (hL : (headerSegments hdr L).1 = []) (pre : List Line) :
    eventPayloads hdr (pre ++ L) = eventPayloads hdr pre ++ eventPayloads hdr L := by
  simp only [eventPayloads, headerSegments_append hL, List.filterMap_append]

end Resync

section Rejection

variable {Msg : Type} (codec : Bytes → Except String Msg)

/-- When `Decode` accepts every payload, none is cut off. -/
lemma upToFirstRejected_of_all_ok :
    ∀ {ps : List Bytes}, (∀ p ∈ ps, (codec p).isOk) → upToFirstRejected codec ps = ps
  | [], _ => rfl
  | p :: ps, h => by
    rw [upToFirstRejected, if_pos (h p (List.mem_cons_self p ps)),
      upToFirstRejected_of_all_ok fun q hq => h q (List.mem_cons_of_mem p hq)]

/-- The payloads up to the first rejected one are all accepted exactly when all are. -/
lemma all_ok_upToFirstRejected : ∀ ps : List Bytes,
    (∀ p ∈ upToFirstRejected codec ps, (codec p).isOk) ↔ ∀ p ∈ ps, (codec p).isOk
  | [] => Iff.rfl
  | p :: ps => by
    by_cases hp : (codec p).isOk
    · simp [upToFirstRejected, hp, all_ok_upToFirstRejected ps]
    · simp [upToFirstRejected, hp]

/-- The payloads of two lists up to the first rejected one: the second list counts only when
`Decode` accepts all of the first. -/
lemma upToFirstRejected_append : ∀ ps qs : List Bytes,
    upToFirstRejected codec (ps ++ qs) =
      if ∀ p ∈ ps, (codec p).isOk then ps ++ upToFirstRejected codec qs
      else upToFirstRejected codec ps
  | [], qs => by simp [upToFirstRejected]
  | p :: ps, qs => by
    by_cases hp : (codec p).isOk
    · have hall : (∀ q ∈ p :: ps, (codec q).isOk) ↔ ∀ q ∈ ps, (codec q).isOk := by simp [hp]
      simp only [List.cons_append, upToFirstRejected, if_pos hp, List.append_eq,
        upToFirstRejected_append ps qs, hall]
      split_ifs <;> rfl
    · simp [upToFirstRejected, hp]

end Rejection

variable {Msg : Type} (cfg : Config Msg)

/-- `run`'s deliveries are the decodings of what it passes to `Decode` that `Decode` accepts. -/
lemma deliveredMessages_of_decodeInputs (hdr_ne : cfg.sseStreamHeader ≠ []) (stream : Bytes) :
    (deliveredMessages cfg stream).map Except.ok =
      ((decodeInputs cfg stream).map cfg.codec).filter (·.isOk) := by
  rw [deliveredMessages_eq cfg hdr_ne, decodeInputs_eq cfg hdr_ne]

/-- Deliveries follow `Decode` inputs: a stream whose inputs are those of two others, one after
the other, delivers what they deliver. -/
lemma deliveredMessages_of_decodeInputs_append (hdr_ne : cfg.sseStreamHeader ≠ []) {s s₁ s₂ : Bytes}
    (h : decodeInputs cfg s = decodeInputs cfg s₁ ++ decodeInputs cfg s₂) :
    deliveredMessages cfg s = deliveredMessages cfg s₁ ++ deliveredMessages cfg s₂ := by
  apply map_ok_injective
  simp only [List.map_append, deliveredMessages_of_decodeInputs cfg hdr_ne, h, List.filter_append]

/-- Two streams with the same `Decode` inputs deliver the same messages. -/
lemma deliveredMessages_of_decodeInputs_eq (hdr_ne : cfg.sseStreamHeader ≠ []) {s s₁ : Bytes}
    (h : decodeInputs cfg s = decodeInputs cfg s₁) :
    deliveredMessages cfg s = deliveredMessages cfg s₁ := by
  apply map_ok_injective
  simp only [deliveredMessages_of_decodeInputs cfg hdr_ne, h]

/-- What `run` passes to `Decode` on a stream cut before a header line. -/
lemma decodeInputs_resync_eq (hdr_ne : cfg.sseStreamHeader ≠ []) (pre : List Line) (l : Line)
    (hl : trimSpace l.content = cfg.sseStreamHeader) (rest : Bytes) :
    decodeInputs cfg ((pre.map Line.bytes).flatten ++ l.bytes ++ rest) =
      if ∀ p ∈ decodeInputs cfg (pre.map Line.bytes).flatten, (cfg.codec p).isOk then
        decodeInputs cfg (pre.map Line.bytes).flatten ++ decodeInputs cfg (l.bytes ++ rest)
      else decodeInputs cfg (pre.map Line.bytes).flatten := by
  have hpre : readLines (pre.map Line.bytes).flatten = pre := by
    simpa [show readLines [] = [] from rfl] using readLines_flatten_append pre []
  have hL : (headerSegments cfg.sseStreamHeader (readLines (l.bytes ++ rest))).1 = [] := by
    rw [readLines_bytes_append, headerSegments_of_header _ hl]
  rw [decodeInputs_eq cfg hdr_ne, decodeInputs_eq cfg hdr_ne, decodeInputs_eq cfg hdr_ne, hpre,
    List.append_assoc, readLines_flatten_append, eventPayloads_append hL, upToFirstRejected_append]
  simp only [all_ok_upToFirstRejected]
  split_ifs with h
  · rw [upToFirstRejected_of_all_ok _ h]
  · rfl

/-- A header line resynchronises the stream: after any complete lines, whole events, a cut-off
event or garbage, `run` decodes and delivers from a header line on what a fresh `run` would
decode and deliver from it, unless a payload before it was rejected, which ends the loop there. -/
theorem decodeInputs_resync (hdr_ne : cfg.sseStreamHeader ≠ []) (pre : List Line) (l : Line)
    (hl : trimSpace l.content = cfg.sseStreamHeader) (rest : Bytes) :
    decodeInputs cfg ((pre.map Line.bytes).flatten ++ l.bytes ++ rest) =
        (if ∀ p ∈ decodeInputs cfg (pre.map Line.bytes).flatten, (cfg.codec p).isOk then
          decodeInputs cfg (pre.map Line.bytes).flatten ++ decodeInputs cfg (l.bytes ++ rest)
        else decodeInputs cfg (pre.map Line.bytes).flatten) ∧
      deliveredMessages cfg ((pre.map Line.bytes).flatten ++ l.bytes ++ rest) =
        (if ∀ p ∈ decodeInputs cfg (pre.map Line.bytes).flatten, (cfg.codec p).isOk then
          deliveredMessages cfg (pre.map Line.bytes).flatten ++
            deliveredMessages cfg (l.bytes ++ rest)
        else deliveredMessages cfg (pre.map Line.bytes).flatten) := by
  have h := decodeInputs_resync_eq cfg hdr_ne pre l hl rest
  refine ⟨h, ?_⟩
  split_ifs at h ⊢
  · exact deliveredMessages_of_decodeInputs_append cfg hdr_ne h
  · exact deliveredMessages_of_decodeInputs_eq cfg hdr_ne h

/-- An event cut off by a header line, then a whole event. -/
theorem decodeInputs_resync_after_cut_event :
    (echoConfig [101]).sseStreamHeader ≠ [] ∧
      trimSpace (Line.content ⟨[101], of_decide_eq_true rfl⟩) = (echoConfig [101]).sseStreamHeader ∧
      decodeInputs (echoConfig [101])
          ((([⟨[101], of_decide_eq_true rfl⟩, ⟨[120], of_decide_eq_true rfl⟩] : List Line).map
            Line.bytes).flatten ++ Line.bytes ⟨[101], of_decide_eq_true rfl⟩ ++ [121, 10, 10]) =
        decodeInputs (echoConfig [101])
            (([⟨[101], of_decide_eq_true rfl⟩, ⟨[120], of_decide_eq_true rfl⟩] : List Line).map
              Line.bytes).flatten ++
          decodeInputs (echoConfig [101])
            (Line.bytes ⟨[101], of_decide_eq_true rfl⟩ ++ [121, 10, 10]) :=
  ⟨by decide, by decide,
    (decodeInputs_resync (echoConfig [101]) (by decide) _ _ (by decide) _).1.trans
      (if_pos (by decide))⟩

/-- `run` reads its body through `utils.NewNormalisedReader`, which normalises line breaks and
passes a body with no carriage return through as it is. Over such bodies, with a plain header
(not empty, one line, its own `TrimSpace`, not starting with `data:`, no carriage return), a byte
string is passed to `Decode` exactly when it holds neither a newline nor a carriage return: the
framing carries every such payload and no other. -/
theorem decodable_iff_no_line_break (hdr_ne : cfg.sseStreamHeader ≠ [])
    (hdr_line : 10 ∉ cfg.sseStreamHeader) (hdr_cr : 13 ∉ cfg.sseStreamHeader)
    (hdr_trim : trimSpace cfg.sseStreamHeader = cfg.sseStreamHeader)
    (hdr_data : ¬ dataHeaderBytes <+: cfg.sseStreamHeader) (p : Bytes) :
    (∃ stream, 13 ∉ stream ∧ p ∈ decodeInputs cfg stream) ↔ 10 ∉ p ∧ 13 ∉ p := by
  constructor
  · rintro ⟨stream, hcr, hp⟩
    exact ⟨decodeInputs_no_newLine cfg stream p hp,
      fun h => hcr (decodeInputs_subset cfg stream p hp h)⟩
  · rintro ⟨hp, hpcr⟩
    have hframe := eventPayloads_frames hdr_line hdr_ne hdr_trim hdr_data [p] (by simpa using hp)
    simp only [List.map_cons, List.map_nil, List.flatten_cons, List.flatten_nil,
      List.append_nil] at hframe
    refine ⟨frame cfg.sseStreamHeader p, by simp [frame, newLine, dataHeaderBytes, spaceBytes,
      hdr_cr, hpcr], ?_⟩
    rw [decodeInputs_eq cfg hdr_ne, hframe, upToFirstRejected]
    split <;> simp

/-- The payload `"x y"` under the header `"ev"`. -/
theorem decodable_iff_no_line_break_event_header :
    (echoConfig [101, 118]).sseStreamHeader ≠ [] ∧ 10 ∉ (echoConfig [101, 118]).sseStreamHeader ∧
      13 ∉ (echoConfig [101, 118]).sseStreamHeader ∧
      trimSpace (echoConfig [101, 118]).sseStreamHeader = (echoConfig [101, 118]).sseStreamHeader ∧
      ¬ dataHeaderBytes <+: (echoConfig [101, 118]).sseStreamHeader ∧
      ((∃ stream, 13 ∉ stream ∧ [120, 32, 121] ∈ decodeInputs (echoConfig [101, 118]) stream) ↔
        (10 : UInt8) ∉ [120, 32, 121] ∧ (13 : UInt8) ∉ [120, 32, 121]) :=
  ⟨by decide, by decide, by decide, by decide, by decide,
    decodable_iff_no_line_break _ (by decide) (by decide) (by decide) (by decide) (by decide) _⟩

end Sabuhp.SSE
