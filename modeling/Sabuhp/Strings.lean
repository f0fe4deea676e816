import Mathlib.Data.List.Infix

/-!
# Go byte strings and the line reader

Model of the byte-string operations that `transport/ssepub/seeclient.go` applies to what it reads
from a response body. A Go `string` is a byte string, so every text read from the stream is
`Bytes`. `strings.TrimSuffix`, `strings.TrimPrefix` and `bytes.TrimPrefix` are
`trimSuffix`/`trimPrefix`; `strings.TrimSpace` is `trimSpace`, which trims from both ends the
UTF-8 encoded runes that `unicode.IsSpace` accepts (Go's ASCII fast path computes the same);
`bufio.Reader.ReadString('\n')` is `readLines`, whose results are `Line`s, the bytes before the
first newline, so that a line holding a second newline cannot be built.

The trimming lemmas at the end, `trimSpace_append_newLine` and `dataHeaderBytes_prefix_trimSpace`,
are what `Frames.lean` needs to recognise a frame of the wire grammar: a header line trims to the
header, and a `data:` line trims to something that still starts with `data:`.
-/

namespace Sabuhp

/-- A Go byte string. -/
abbrev Bytes := List UInt8

/-- `newLine` (`"\n"`). -/
def newLine : Bytes := [10]

/-- `dataHeaderBytes` (`[]byte("data:")`). -/
def dataHeaderBytes : Bytes := [100, 97, 116, 97, 58]

/-- `spaceBytes` (`[]byte(" ")`). -/
def spaceBytes : Bytes := [32]

/-- `strings.TrimPrefix`, `bytes.TrimPrefix`. -/
def trimPrefix (s pre : Bytes) : Bytes :=
  if pre.isPrefixOf s then s.drop pre.length else s

/-- `strings.TrimSuffix`. -/
def trimSuffix (s suf : Bytes) : Bytes :=
  if suf.isSuffixOf s then s.take (s.length - suf.length) else s

/-- `TrimPrefix` removes the prefix it is given. -/
lemma trimPrefix_append (pre s : Bytes) : trimPrefix (pre ++ s) pre = s := by
  simp [trimPrefix, List.isPrefixOf_iff_prefix]

/-- `TrimPrefix` leaves a string that does not start with the prefix unchanged. -/
lemma trimPrefix_of_not_isPrefix {pre s : Bytes} (h : ¬ pre <+: s) : trimPrefix s pre = s := by
  simp [trimPrefix, List.isPrefixOf_iff_prefix, h]

/-- `TrimPrefix` keeps a suffix of the string. -/
lemma trimPrefix_suffix (s pre : Bytes) : trimPrefix s pre <:+ s := by
  unfold trimPrefix
  split
  · exact List.drop_suffix _ _
  · exact List.suffix_refl _

/-- `TrimSuffix` removes the suffix it is given. -/
lemma trimSuffix_append (s suf : Bytes) : trimSuffix (s ++ suf) suf = s := by
  simp [trimSuffix, List.isSuffixOf_iff_suffix]

/-- UTF-8 encodings of the runes `unicode.IsSpace` accepts: `\t \n \v \f \r` and `' '`, then
U+0085, U+00A0, U+1680, U+2000 to U+200A, U+2028, U+2029, U+202F, U+205F and U+3000. -/
def spaceRunes : List Bytes :=
  [[9], [10], [11], [12], [13], [32], [0xC2, 0x85], [0xC2, 0xA0], [0xE1, 0x9A, 0x80],
    [0xE2, 0x80, 0x80], [0xE2, 0x80, 0x81], [0xE2, 0x80, 0x82], [0xE2, 0x80, 0x83],
    [0xE2, 0x80, 0x84], [0xE2, 0x80, 0x85], [0xE2, 0x80, 0x86], [0xE2, 0x80, 0x87],
    [0xE2, 0x80, 0x88], [0xE2, 0x80, 0x89], [0xE2, 0x80, 0x8A], [0xE2, 0x80, 0xA8],
    [0xE2, 0x80, 0xA9], [0xE2, 0x80, 0xAF], [0xE2, 0x81, 0x9F], [0xE3, 0x80, 0x80]]

/-- Strip one leading rune of `rs` from `s`, when `s` starts with one. -/
def stripRune (rs : List Bytes) (s : Bytes) : Option Bytes :=
  (rs.find? (·.isPrefixOf s)).map (s.drop ·.length)

/-- Strip leading runes of `rs` while there is one, at most `fuel` of them. -/
def dropRunes (rs : List Bytes) : Nat → Bytes → Bytes
  | 0, s => s
  | fuel + 1, s =>
    match stripRune rs s with
    | some t => dropRunes rs fuel t
    | none => s

/-- `strings.TrimLeftFunc(s, unicode.IsSpace)`; no rune is empty, so `len(s)` strips suffice. -/
def trimLeftSpace (s : Bytes) : Bytes := dropRunes spaceRunes s.length s

/-- `strings.TrimRightFunc(s, unicode.IsSpace)`: the left trim of the reversed bytes, by the
reversed runes. -/
def trimRightSpace (s : Bytes) : Bytes :=
  (dropRunes (spaceRunes.map List.reverse) s.length s.reverse).reverse

/-- `strings.TrimSpace`. -/
def trimSpace (s : Bytes) : Bytes := trimRightSpace (trimLeftSpace s)

example : trimSpace [32, 0xC2, 0xA0, 120, 9, 10] = [120] := by decide

section Runes

/-- `find?` depends only on the predicate's values on the list. -/
private lemma find?_congr_mem {p q : Bytes → Bool} :
    ∀ {l : List Bytes}, (∀ r ∈ l, p r = q r) → l.find? p = l.find? q
  | [], _ => rfl
  | r :: l, h => by
    simp only [List.find?_cons, h r (List.mem_cons_self r l),
      find?_congr_mem fun x hx => h x (List.mem_cons_of_mem r hx)]

variable {rs : List Bytes}

/-- A string that starts with no rune is left as it is. -/
lemma dropRunes_of_stripRune_none {s : Bytes} (h : stripRune rs s = none) :
    ∀ n, dropRunes rs n s = s
  | 0 => rfl
  | n + 1 => by simp [dropRunes, h]

variable (hne : ∀ r ∈ rs, r ≠ [])
include hne

/-- A stripped rune is a non-empty prefix. -/
lemma stripRune_some {s t : Bytes} (h : stripRune rs s = some t) :
    ∃ r ∈ rs, r ≠ [] ∧ r <+: s ∧ t = s.drop r.length := by
  obtain ⟨r, hr, rfl⟩ := Option.map_eq_some'.1 h
  have hp : r.isPrefixOf s = true := List.find?_some (p := fun x : Bytes => x.isPrefixOf s) hr
  exact ⟨r, List.mem_of_find?_eq_some hr, hne r (List.mem_of_find?_eq_some hr),
    List.isPrefixOf_iff_prefix.1 hp, rfl⟩

/-- Stripping a rune shortens the string. -/
lemma stripRune_length {s t : Bytes} (h : stripRune rs s = some t) : t.length < s.length := by
  obtain ⟨r, -, hr, hp, rfl⟩ := stripRune_some hne h
  have := hp.length_le
  have := List.length_pos.2 hr
  simp only [List.length_drop]
  omega

/-- The empty string starts with no rune. -/
lemma stripRune_nil : stripRune rs [] = none := by
  simp only [stripRune, Option.map_eq_none', List.find?_eq_none]
  intro r hr
  simpa [List.isPrefixOf_iff_prefix] using hne r hr

/-- Stripping runes never reaches a byte that no rune holds. -/
lemma dropRunes_keeps {x : UInt8} (hx : ∀ r ∈ rs, x ∉ r) :
    ∀ (n : Nat) (p q : Bytes), ∃ p', dropRunes rs n (p ++ x :: q) = p' ++ x :: q
  | 0, p, q => ⟨p, rfl⟩
  | n + 1, p, q => by
    simp only [dropRunes]
    split
    · next t ht =>
      obtain ⟨r, hr, -, hp, rfl⟩ := stripRune_some hne ht
      have hle : r.length ≤ p.length := by
        by_contra hlt
        have hlen : (p ++ [x]).length ≤ r.length := by simp only [List.length_append]; simp; omega
        have hpx : p ++ [x] <+: r := List.prefix_of_prefix_length_le (by simp) hp hlen
        exact hx r hr (hpx.subset (by simp))
      rw [List.drop_append_of_le_length hle]
      exact dropRunes_keeps hx n _ q
    · exact ⟨p, rfl⟩

variable (h10 : ∀ r ∈ rs, 10 ∈ r → r = [10])
include h10

omit hne in
/-- Before the newline is reached, `t ++ [10]` starts with the same runes as `t`. -/
lemma stripRune_append_newLine {t : Bytes} (ht : t ≠ []) :
    stripRune rs (t ++ [10]) = (stripRune rs t).map (· ++ [10]) := by
  have hiff : ∀ r ∈ rs, r.isPrefixOf (t ++ [10]) = r.isPrefixOf t := by
    intro r hr
    rw [Bool.eq_iff_iff, List.isPrefixOf_iff_prefix, List.isPrefixOf_iff_prefix]
    refine ⟨fun hp => ?_, fun hp => hp.trans (List.prefix_append t [10])⟩
    by_cases hle : r.length ≤ t.length
    · exact List.prefix_of_prefix_length_le hp (List.prefix_append t [10]) hle
    · have hr' : r = t ++ [10] := hp.eq_of_length (by have := hp.length_le; simp at this ⊢; omega)
      have hr10 : t ++ [10] = [10] := hr' ▸ h10 r hr (by simp [hr'])
      exact absurd (by simpa using congrArg List.length hr10) ht
  unfold stripRune
  rw [find?_congr_mem hiff]
  cases hf : rs.find? (·.isPrefixOf t) with
  | none => rfl
  | some r =>
    have hp : r <+: t := List.isPrefixOf_iff_prefix.1 <|
      List.find?_some (p := fun x : Bytes => x.isPrefixOf t) hf
    simp [List.drop_append_of_le_length hp.length_le]

/-- Trimming `t ++ [10]` trims `t`, and drops the newline too once nothing of `t` is left. -/
lemma dropRunes_append_newLine (hmem : [10] ∈ rs) : ∀ {n : Nat} {t : Bytes}, t.length ≤ n →
    dropRunes rs (n + 1) (t ++ [10]) =
      if dropRunes rs n t = [] then [] else dropRunes rs n t ++ [10]
  | n, [], _ => by
    have hs : stripRune rs [10] = some [] := by
      obtain ⟨r, hr⟩ := Option.isSome_iff_exists.1 (List.find?_isSome
        (p := fun x : Bytes => x.isPrefixOf [10]) |>.2
          ⟨[10], hmem, List.isPrefixOf_iff_prefix.2 (List.prefix_refl _)⟩)
      have hp := List.isPrefixOf_iff_prefix.1
        (List.find?_some (p := fun x : Bytes => x.isPrefixOf [10]) hr)
      have : r.length = 1 := by
        have := hp.length_le; have := List.length_pos.2 (hne r (List.mem_of_find?_eq_some hr))
        simp at *; omega
      simp [stripRune, hr, this]
    cases n <;> simp [dropRunes, hs, stripRune_nil hne]
  | 0, _ :: _, h => by simp at h
  | n + 1, b :: t, h => by
    rw [dropRunes, stripRune_append_newLine h10 (List.cons_ne_nil b t), dropRunes]
    cases hs : stripRune rs (b :: t) with
    | none => simp
    | some t' =>
      exact dropRunes_append_newLine hmem
        (by have := stripRune_length hne hs; simp only [List.length_cons] at h this; omega)

end Runes

/-- No space rune is empty. -/
private lemma spaceRunes_ne_nil : ∀ r ∈ spaceRunes, r ≠ [] := by decide

/-- The only space rune holding a newline is the newline. -/
private lemma spaceRunes_newLine : ∀ r ∈ spaceRunes, 10 ∈ r → r = [10] := by decide

/-- Trimming `t ++ "\n"` from the left trims `t`, and the newline too once nothing of `t` is
left. -/
lemma trimLeftSpace_append_newLine (t : Bytes) :
    trimLeftSpace (t ++ newLine) = if trimLeftSpace t = [] then [] else trimLeftSpace t ++ newLine := by
  simpa [trimLeftSpace, newLine] using
    dropRunes_append_newLine spaceRunes_ne_nil spaceRunes_newLine (by decide) (le_refl t.length)

/-- Trimming from the right drops a trailing newline first. -/
lemma trimRightSpace_append_newLine (u : Bytes) : trimRightSpace (u ++ newLine) = trimRightSpace u := by
  have hs : ∀ s : Bytes, stripRune (spaceRunes.map List.reverse) (10 :: s) = some s := by
    intro s; simp [stripRune, spaceRunes]
  simp [trimRightSpace, newLine, dropRunes, hs]

/-- A trailing newline never changes what `strings.TrimSpace` returns. -/
lemma trimSpace_append_newLine (t : Bytes) : trimSpace (t ++ newLine) = trimSpace t := by
  unfold trimSpace
  rw [trimLeftSpace_append_newLine]
  split
  · next h => rw [h]
  · exact trimRightSpace_append_newLine _

/-- A line that starts with `data:` still does after `strings.TrimSpace`: `d` starts no space
rune and `:` is in none, so neither end's trimming reaches them. -/
lemma dataHeaderBytes_prefix_trimSpace (s : Bytes) : dataHeaderBytes <+: trimSpace (dataHeaderBytes ++ s) := by
  have hl : trimLeftSpace (dataHeaderBytes ++ s) = dataHeaderBytes ++ s :=
    @dropRunes_of_stripRune_none spaceRunes (dataHeaderBytes ++ s) (by rfl) _
  have hne : ∀ r ∈ spaceRunes.map List.reverse, r ≠ [] := by decide
  have hx : ∀ r ∈ spaceRunes.map List.reverse, (58 : UInt8) ∉ r := by decide
  obtain ⟨p', hp'⟩ := dropRunes_keeps hne hx (dataHeaderBytes ++ s).length s.reverse [97, 116, 97, 100]
  rw [trimSpace, hl, trimRightSpace]
  have : (dataHeaderBytes ++ s).reverse = s.reverse ++ 58 :: [97, 116, 97, 100] := by
    simp [dataHeaderBytes]
  rw [this, hp']
  simp [dataHeaderBytes]

/-- A line as `ReadString('\n')` returns it with no error: the bytes `content` before the first
newline, then that newline. -/
structure Line where
  content : Bytes
  no_newLine : 10 ∉ content
  deriving DecidableEq

/-- The `string` that `ReadString` returns for the line. -/
def Line.bytes (l : Line) : Bytes := l.content ++ newLine

/-- `ReadString('\n')` called until it fails, with `acc` already read of the current line: the
lines it returns. At the end of the stream the unterminated rest comes with the error, and `run`
drops it. -/
def readLinesFrom (acc : Bytes) (h : 10 ∉ acc) : Bytes → List Line
  | [] => []
  | b :: s =>
    if hb : b = 10 then ⟨acc, h⟩ :: readLinesFrom [] (List.not_mem_nil _) s
    else readLinesFrom (acc ++ [b]) (by simp [h, Ne.symm hb]) s

/-- The lines `run` reads from a stream, in order. -/
def readLines (s : Bytes) : List Line := readLinesFrom [] (List.not_mem_nil _) s

example : readLines [104, 10, 10, 120] = [⟨[104], by decide⟩, ⟨[], by decide⟩] := by decide

/-- Reading up to a newline returns the bytes already read and those before the newline. -/
lemma readLinesFrom_append {acc : Bytes} (h : 10 ∉ acc) :
    ∀ {c : Bytes} (hc : 10 ∉ c) (s : Bytes),
      readLinesFrom acc h (c ++ 10 :: s) = ⟨acc ++ c, by simp [h, hc]⟩ :: readLines s
  | [], _, s => by simp [readLinesFrom, readLines]
  | b :: c, hc, s => by
    have hb : b ≠ 10 := fun e => hc (e ▸ List.mem_cons_self b c)
    simp only [List.cons_append, readLinesFrom, hb, dite_false, List.append_eq]
    rw [readLinesFrom_append _ (fun e => hc (List.mem_cons_of_mem b e))]
    simp

/-- Reading a complete line off the front of a stream returns that line. -/
lemma readLines_bytes_append (l : Line) (s : Bytes) : readLines (l.bytes ++ s) = l :: readLines s := by
  simpa [Line.bytes, newLine] using readLinesFrom_append (List.not_mem_nil _) l.no_newLine s

/-- Reading complete lines off the front of a stream returns those lines. -/
lemma readLines_flatten_append (ls : List Line) (s : Bytes) :
    readLines ((ls.map Line.bytes).flatten ++ s) = ls ++ readLines s := by
  induction ls with
  | nil => rfl
  | cons l ls ih => simp [List.append_assoc, readLines_bytes_append, ih]

/-- Every byte of a line read comes from the bytes already read or from the stream. -/
lemma readLinesFrom_content_subset : ∀ {acc : Bytes} (h : 10 ∉ acc) (s : Bytes),
    ∀ l ∈ readLinesFrom acc h s, l.content ⊆ acc ++ s
  | _, _, [] => by simp [readLinesFrom]
  | acc, h, b :: s => by
    unfold readLinesFrom
    split
    · rintro l (_ | ⟨_, hl⟩)
      · exact List.subset_append_left _ _
      · exact List.Subset.trans (readLinesFrom_content_subset _ s l hl) fun _ hx => by simp_all
    · intro l hl
      simpa using readLinesFrom_content_subset _ s l hl

/-- Every byte of a line read comes from the stream. -/
lemma readLines_content_subset (s : Bytes) : ∀ l ∈ readLines s, l.content ⊆ s :=
  readLinesFrom_content_subset _ s

end Sabuhp
