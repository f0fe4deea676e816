import Sabuhp.SSE.Basic

/-!
# The read loop of `SSEClient.run`

Model of the loop `doLoop` of `SSEClient.run` (`seeclient.go`, lines 178 to 256). Each iteration
reads a line, and `processLine` then does one of four things with it. A blank line while
`decoding` ends an event: the buffer `data` goes to `Decode` once `dataLine` has stripped `data:`
and one space. A blank line otherwise is skipped. A line that `strings.TrimSpace` turns into
`SSEStreamHeader` starts an event: `decoding` is set and the buffer reset. Any other line is
appended to the buffer without its newline. `runLine` adds what the loop does with a payload: the
`Info` log, the `Decode` call, and then either the handler call, whose error is only logged, or,
on a decode error, the log and the `break doLoop` that leaves the loop.

`readLoop` runs the loop over the lines of one body whose context is never cancelled:
`ReadString` returns the lines in turn and then fails, and the loop ends with its log.
`Client.lean` uses the same `runLine` for the steps of the client's goroutine, where a
cancellation can come between any two of them.

The lemmas after `processLine` restate it for a `Line`, where the tests on `"\n"` become tests on
the line's content; `Frames.lean` proves what the loop computes.
-/

namespace Sabuhp.SSE

/-- The variables of `run`'s loop: `decoding` and the `bytes.Buffer` `data`. -/
structure Framing where
  decoding : Bool
  data : Bytes
  deriving DecidableEq, Repr

/-- The loop's variables before the first line. -/
def Framing.init : Framing := ⟨false, []⟩

/-- `dataLine`: the buffer with a leading `data:` and then one leading space removed. -/
def dataLine (data : Bytes) : Bytes := trimPrefix (trimPrefix data dataHeaderBytes) spaceBytes

/-- One iteration of `doLoop` after `ReadString` returned `line`: the loop's next variables, and
the payload for `Decode` when the line ends an event. -/
def processLine (sseStreamHeader : Bytes) (fr : Framing) (line : Line) : Framing × Option Bytes :=
  if line.bytes = newLine ∧ fr.decoding = true then
    if fr.data.length ≠ 0 then (⟨false, fr.data⟩, some (dataLine fr.data))
    else (⟨false, fr.data⟩, none)
  else if line.bytes = newLine ∧ fr.decoding = false then (fr, none)
  else if trimSpace line.bytes = sseStreamHeader then (⟨true, []⟩, none)
  else (⟨fr.decoding, fr.data ++ trimPrefix (trimSuffix line.bytes newLine) newLine⟩, none)

@[simp] lemma Line.bytes_eq_newLine (l : Line) : l.bytes = newLine ↔ l.content = [] := by
  simp [Line.bytes, newLine]

@[simp] lemma Line.trimSuffix_bytes (l : Line) : trimSuffix l.bytes newLine = l.content :=
  trimSuffix_append _ _

/-- The text `run` appends for a line is the line's content: it holds no newline to strip. -/
@[simp] lemma Line.trimPrefix_content (l : Line) : trimPrefix l.content newLine = l.content :=
  trimPrefix_of_not_isPrefix fun h => l.no_newLine (h.subset (by simp [newLine]))

@[simp] lemma Line.trimSpace_bytes (l : Line) : trimSpace l.bytes = trimSpace l.content :=
  trimSpace_append_newLine _

section Lines

variable {hdr : Bytes} {fr : Framing} {l : Line}

/-- A blank line ends the event being decoded, with its payload when the buffer holds one, and
is skipped otherwise. -/
lemma processLine_blank (hl : l.content = []) :
    processLine hdr fr l =
      if fr.decoding then (⟨false, fr.data⟩, if fr.data = [] then none else some (dataLine fr.data))
      else (fr, none) := by
  by_cases hd : fr.data = [] <;> cases h : fr.decoding <;> simp [processLine, hl, h, hd]

/-- A header line starts an event with an empty buffer. -/
lemma processLine_header (hl : l.content ≠ []) (hh : trimSpace l.content = hdr) :
    processLine hdr fr l = (⟨true, []⟩, none) := by
  simp [processLine, hl, hh]

/-- Any other line is appended to the buffer. -/
lemma processLine_data (hl : l.content ≠ []) (hh : trimSpace l.content ≠ hdr) :
    processLine hdr fr l = (⟨fr.decoding, fr.data ++ l.content⟩, none) := by
  simp [processLine, hl, hh]

/-- `dataLine` keeps a suffix of the buffer. -/
lemma dataLine_suffix (d : Bytes) : dataLine d <:+ d :=
  (trimPrefix_suffix _ _).trans (trimPrefix_suffix _ _)

/-- Every byte that `processLine` leaves in the buffer or passes on comes from the buffer or the
line: a property of bytes that holds of both holds of what it returns. -/
lemma processLine_bytes (P : UInt8 → Prop) (hd : ∀ b ∈ fr.data, P b) (hl : ∀ b ∈ l.content, P b) :
    (∀ b ∈ (processLine hdr fr l).1.data, P b) ∧ ∀ p ∈ (processLine hdr fr l).2, ∀ b ∈ p, P b := by
  have hs : ∀ b ∈ dataLine fr.data, P b := fun b hb => hd b ((dataLine_suffix fr.data).subset hb)
  unfold processLine
  split_ifs <;> simp_all [or_imp, forall_and]

end Lines

variable {Msg : Type} (cfg : Config Msg)

/-- What `run` does with a decoded message: the handler call, and the log of its error. -/
def deliver (m : Msg) : List (Effect Msg) :=
  .handle m :: match cfg.handler m with
    | some _ => [.log .error "failed to handle message"]
    | none => []

/-- What `doLoop` does with `line`: its effects, the loop's next variables, and whether the loop
goes on (`false` after a decode error, which breaks it). -/
def runLine (fr : Framing) (line : Line) : List (Effect Msg) × Framing × Bool :=
  match processLine cfg.sseStreamHeader fr line with
  | (fr', none) => ([], fr', true)
  | (fr', some p) =>
    match cfg.codec p with
    | .error _ =>
      ([.log .info "received complete data", .decode p, .log .error "failed to decode message"],
        fr', false)
    | .ok m => (.log .info "received complete data" :: .decode p :: deliver cfg m, fr', true)

/-- `doLoop`'s body only logs and calls the codec and the handler. -/
lemma runLine_effects_kind (fr : Framing) (line : Line) :
    ∀ e ∈ (runLine cfg fr line).1,
      (∃ p, e = .decode p) ∨ (∃ m, e = .handle m) ∨ ∃ lv msg, e = .log lv msg := by
  unfold runLine deliver
  split
  · simp
  · split
    · simp
    · split <;> simp

/-- `doLoop`'s body never sleeps. -/
lemma runLine_no_sleep (fr : Framing) (line : Line) (d : Int) :
    .sleep d ∉ (runLine cfg fr line).1 := fun h => by
  rcases runLine_effects_kind cfg fr line _ h with ⟨_, h⟩ | ⟨_, h⟩ | ⟨_, _, h⟩ <;> cases h

/-- Why `doLoop` ended with its context not cancelled; either way `run` goes on to `reconnect`. -/
inductive LoopExit where
  | readError
  | decodeError
  deriving DecidableEq, Repr

/-- `run`'s loop over the lines of one body, its context never cancelled: the effects, and why
the loop ended. -/
def readLoop : Framing → List Line → List (Effect Msg) × LoopExit
  | _, [] => ([.log .error "failed to read more data"], .readError)
  | fr, l :: ls =>
    match runLine cfg fr l with
    | (es, fr', true) => ((es ++ (readLoop fr' ls).1), (readLoop fr' ls).2)
    | (es, _, false) => (es, .decodeError)

end Sabuhp.SSE
