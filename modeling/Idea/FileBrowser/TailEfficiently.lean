import Idea.Data.Text
import Idea.Data.Utf8

/-! # The end of a file

The last lines of a file are asked for. A small file is decoded and split into lines. A large one is
read in chunks from its end, and the beginning of a chunk up to its first line feed is kept for the
chunk before it.
-/

namespace Idea.FileBrowser

open Utf8 Text

def calculateOptimalChunkSize (fileSize : ℕ) : ℕ :=
  if fileSize < 1024 * 1024 then 32 * 1024
  else if fileSize < 10 * 1024 * 1024 then 128 * 1024
  else if fileSize < 100 * 1024 * 1024 then 512 * 1024
  else if fileSize < 1024 * 1024 * 1024 then 2 * 1024 * 1024
  else 4 * 1024 * 1024

def tailChunkSize (fileSize : ℕ) : ℕ := min (calculateOptimalChunkSize fileSize / 4) fileSize

theorem tailChunkSize_pos {fileSize : ℕ} (h : 0 < fileSize) : 0 < tailChunkSize fileSize := by
  have hoptimal : 4 ≤ calculateOptimalChunkSize fileSize := by
    unfold calculateOptimalChunkSize
    split_ifs <;> omega
  exact Nat.lt_min.mpr ⟨Nat.div_pos hoptimal (by omega), h⟩

def readAt (content : List UInt8) (position size : ℕ) : List UInt8 :=
  (content.drop position).take size

def lastLines (lines : List (List Char)) (maxLines : ℤ) : List (List Char) :=
  if maxLines < lines.length then lines.drop (lines.length - maxLines.toNat) else lines

/-- The loop, with the bytes that are kept and the lines found so far, from the last one on. -/
def readBackwards (content : List UInt8) (maxLines : ℤ) (chunkSize : ℕ) (hsize : 0 < chunkSize)
    (position : ℕ) (buffer : List UInt8) (lines : List (List Char)) : List (List Char) :=
  if _h : lines.length < maxLines ∧ 0 < position then
    let readSize := min chunkSize position
    let start := position - readSize
    let bufferLines := (decode (readAt content start readSize ++ buffer)).splitOn '\n'
    if 0 < start ∧ 1 < bufferLines.length then
      readBackwards content maxLines chunkSize hsize start (encode (bufferLines.headD []))
        (lines ++ bufferLines.tail.reverse)
    else
      -- also where no line is complete, and the chunk is not the first one of the file
      readBackwards content maxLines chunkSize hsize start [] (lines ++ bufferLines.reverse)
  else lines
termination_by position

def plainTail (content : List UInt8) (maxLines : ℤ) : List (List Char) :=
  lastLines (splitLines false (decode content)) maxLines

def tailFileEfficiently (content : List UInt8) (maxLines : ℤ) : List (List Char) :=
  if maxLines ≤ 0 then []
  else if h : content.length = 0 then []
  else if content.length < 8192 then plainTail content maxLines
  else
    lastLines (readBackwards content maxLines (tailChunkSize content.length)
      (tailChunkSize_pos (Nat.pos_of_ne_zero h)) content.length [] []).reverse maxLines

section Assembled

variable {content : List UInt8} {chunkSize position start : ℕ} {hsize : 0 < chunkSize}
  {text : List Char} {lines more : List (List Char)} {maxLines : ℤ}

/-- The lines that are found if the chunks are read up to the beginning of the file, with the text
that is kept. -/
def assembled (content : List UInt8) (chunkSize : ℕ) (hsize : 0 < chunkSize) (position : ℕ)
    (text : List Char) : List (List Char) :=
  if _h : 0 < position then
    let readSize := min chunkSize position
    let start := position - readSize
    let parts := (decode (readAt content start readSize) ++ text).splitOn '\n'
    if 0 < start ∧ 1 < parts.length then
      assembled content chunkSize hsize start (parts.headD []) ++ parts.tail
    else assembled content chunkSize hsize start [] ++ parts
  else []
termination_by position

theorem lastLines_eq_drop (h : 0 < maxLines) (lines : List (List Char)) :
    lastLines lines maxLines = lines.drop (lines.length - maxLines.toNat) := by
  unfold lastLines
  split
  · rfl
  · have hzero : lines.length - maxLines.toNat = 0 := by omega
    rw [hzero, List.drop_zero]

theorem lastLines_append (h : 0 < maxLines) (hmore : maxLines ≤ more.length) :
    lastLines (lines ++ more) maxLines = lastLines more maxLines := by
  have hlength : lines.length + more.length - maxLines.toNat =
      lines.length + (more.length - maxLines.toNat) := by omega
  rw [lastLines_eq_drop h, lastLines_eq_drop h, List.length_append, hlength, List.drop_append]
  simp

theorem lastLines_of_length_le (h : lines.length ≤ maxLines) : lastLines lines maxLines = lines :=
  if_neg (by omega)

theorem eq_of_lastLines
    (h : ∀ maxLines, 0 < maxLines → lastLines lines maxLines = lastLines more maxLines) :
    lines = more := by
  have hall := h (lines.length + more.length + 1) (by omega)
  rwa [lastLines_of_length_le (by omega), lastLines_of_length_le (by omega)] at hall

theorem assembled_zero : assembled content chunkSize hsize 0 text = [] := by
  rw [assembled, dif_neg (Nat.lt_irrefl 0)]

theorem lastLines_readBackwards (hmax : 0 < maxLines) (position : ℕ) (text : List Char)
    (lines : List (List Char)) :
    lastLines (readBackwards content maxLines chunkSize hsize position (encode text) lines).reverse
        maxLines =
      lastLines (assembled content chunkSize hsize position text ++ lines.reverse) maxLines := by
  induction position using Nat.strong_induction_on generalizing text lines with
  | _ position ih =>
    unfold readBackwards
    split
    · rename_i hmore
      have hstart : position - min chunkSize position < position := by omega
      rw [assembled, dif_pos hmore.2]
      simp only [decode_append_encode]
      split
      · rw [ih _ hstart]
        simp
      · have hempty : ([] : List UInt8) = encode [] := rfl
        rw [hempty, ih _ hstart]
        simp
    · rename_i hdone
      rcases not_and_or.mp hdone with hmany | hposition
      · rw [lastLines_append hmax (by simpa using hmany)]
      · obtain rfl : position = 0 := by omega
        rw [assembled_zero, List.nil_append]

theorem assembled_of_le (hpos : 0 < position) (hle : position ≤ chunkSize) :
    assembled content chunkSize hsize position text =
      (decode (content.take position) ++ text).splitOn '\n' := by
  have hmin : min chunkSize position = position := by omega
  rw [assembled, dif_pos hpos]
  simp only [hmin, Nat.sub_self, assembled_zero, readAt, List.drop_zero, List.nil_append,
    Nat.lt_irrefl, false_and, if_false]

theorem lineFeed_mem_parts (htext : '\n' ∉ text) (chunk : List UInt8) :
    1 < ((decode chunk ++ text).splitOn '\n').length ↔ 10 ∈ chunk := by
  rw [length_splitOn, List.count_append, List.count_eq_zero.mpr htext, count_decode,
    ← List.count_pos_iff]
  omega

theorem assembled_of_mem (hsize : 0 < chunkSize) (htext : '\n' ∉ text) (hlt : chunkSize < position)
    (hmem : 10 ∈ readAt content (position - chunkSize) chunkSize) : ∃ first rest,
    (decode (readAt content (position - chunkSize) chunkSize) ++ text).splitOn '\n' =
        first :: rest ∧ '\n' ∉ first ∧
      assembled content chunkSize hsize position text =
        assembled content chunkSize hsize (position - chunkSize) first ++ rest := by
  have hmin : min chunkSize position = chunkSize := by omega
  obtain ⟨first, rest, hparts⟩ := List.exists_cons_of_ne_nil (List.splitOn_ne_nil '\n'
    (decode (readAt content (position - chunkSize) chunkSize) ++ text))
  have hmany := (lineFeed_mem_parts htext _).mpr hmem
  refine ⟨first, rest, hparts, not_mem_of_mem_splitOn (hparts ▸ List.mem_cons_self), ?_⟩
  rw [assembled, dif_pos (by omega)]
  simp only [hmin]
  rw [if_pos ⟨by omega, hmany⟩, hparts, List.headD_cons, List.tail_cons]

theorem assembled_of_not_mem (htext : '\n' ∉ text) (hlt : chunkSize < position)
    (hmem : 10 ∉ readAt content (position - chunkSize) chunkSize) :
    assembled content chunkSize hsize position text =
      assembled content chunkSize hsize (position - chunkSize) [] ++
        [decode (readAt content (position - chunkSize) chunkSize) ++ text] := by
  have hmin : min chunkSize position = chunkSize := by omega
  have hone := fun h => hmem ((lineFeed_mem_parts htext _).mp h)
  have hfree : '\n' ∉ decode (readAt content (position - chunkSize) chunkSize) ++ text := by
    rw [List.mem_append, lineFeed_mem_decode]
    exact not_or.mpr ⟨hmem, htext⟩
  rw [assembled, dif_pos (by omega)]
  simp only [hmin]
  rw [if_neg (fun h => hone h.2), List.splitOn_eq_singleton hfree]

/-- A property of every place where a chunk begins and others lie before it. -/
def Borders (chunkSize position : ℕ) (P : ℕ → Prop) : Prop :=
  ∀ i, 0 < i → i * chunkSize < position → P (position - i * chunkSize)

theorem borders_of_le {P : ℕ → Prop} (h : position ≤ chunkSize) :
    Borders chunkSize position P := by
  intro i hi hlt
  have hmul : chunkSize ≤ i * chunkSize := Nat.le_mul_of_pos_left chunkSize hi
  omega

theorem borders_of_lt {P : ℕ → Prop} (h : chunkSize < position) :
    Borders chunkSize position P ↔
      P (position - chunkSize) ∧ Borders chunkSize (position - chunkSize) P := by
  have hsucc : ∀ i, (i + 1) * chunkSize = i * chunkSize + chunkSize := fun i =>
    Nat.succ_mul i chunkSize
  constructor
  · intro hborders
    constructor
    · have hone := hborders 1 Nat.one_pos (by omega)
      rwa [Nat.one_mul] at hone
    · intro i hi hlt
      have hnext := hborders (i + 1) (by omega) (by rw [hsucc]; omega)
      rwa [hsucc, Nat.add_comm, ← Nat.sub_sub] at hnext
  · rintro ⟨hfirst, hrest⟩ i hi hlt
    obtain ⟨j, rfl⟩ := Nat.exists_eq_add_of_lt hi
    rw [Nat.zero_add] at hlt ⊢
    rw [hsucc] at hlt ⊢
    rw [Nat.add_comm, ← Nat.sub_sub]
    rcases Nat.eq_zero_or_pos j with rfl | hj
    · rwa [Nat.zero_mul, Nat.sub_zero]
    · exact hrest j hj (by omega)

theorem take_eq_append (h : chunkSize < position) : content.take position =
    content.take (position - chunkSize) ++ readAt content (position - chunkSize) chunkSize := by
  have hsum : position = position - chunkSize + chunkSize := by omega
  conv_lhs => rw [hsum, List.take_add]
  rfl

theorem chunks_induction {P : ∀ position : ℕ, 0 < position → Prop} (hsize : 0 < chunkSize)
    (first : ∀ position (hposition : 0 < position), position ≤ chunkSize → P position hposition)
    (next : ∀ position (hlt : chunkSize < position),
      P (position - chunkSize) (Nat.sub_pos_of_lt hlt) → P position (Nat.zero_lt_of_lt hlt))
    (position : ℕ) (hposition : 0 < position) : P position hposition := by
  induction position using Nat.strong_induction_on with
  | _ position ih =>
    by_cases h : position ≤ chunkSize
    · exact first position hposition h
    · exact next position (by omega) (ih _ (by omega) (by omega))

/-- Every chunk but the first one of the file has a line feed. -/
def Fed (content : List UInt8) (chunkSize position : ℕ) : Prop :=
  Borders chunkSize position fun start => 10 ∈ readAt content start chunkSize

/-- No character lies across the border of two chunks. -/
def Whole (content : List UInt8) (chunkSize position : ℕ) : Prop :=
  Borders chunkSize position fun start =>
    ¬Across (content.take start) (readAt content start chunkSize)

theorem length_assembled (hsize : 0 < chunkSize) (htext : '\n' ∉ text) (hposition : 0 < position) :
    (content.take position).count 10 + 1 ≤
        (assembled content chunkSize hsize position text).length ∧
      ((assembled content chunkSize hsize position text).length =
        (content.take position).count 10 + 1 → Fed content chunkSize position) := by
  induction position, hposition using chunks_induction hsize generalizing text with
  | first position hposition hle =>
    rw [assembled_of_le hposition hle, length_splitOn, List.count_append, count_decode,
      List.count_eq_zero.mpr htext]
    exact ⟨Nat.le_refl _, fun _ => borders_of_le hle⟩
  | next position hlt ih =>
    rw [take_eq_append hlt, List.count_append, Fed, borders_of_lt hlt]
    by_cases hmem : 10 ∈ readAt content (position - chunkSize) chunkSize
    · obtain ⟨first, rest, hparts, hfirst, heq⟩ := assembled_of_mem hsize htext hlt hmem
      have hlength := congrArg List.length hparts
      rw [length_splitOn, List.count_append, count_decode, List.count_eq_zero.mpr htext,
        List.length_cons] at hlength
      obtain ⟨hless, hfed⟩ := ih hfirst
      rw [heq, List.length_append]
      exact ⟨by omega, fun h => ⟨hmem, hfed (by omega)⟩⟩
    · have hzero := List.count_eq_zero.mpr hmem
      obtain ⟨hless, -⟩ := @ih [] List.not_mem_nil
      rw [assembled_of_not_mem htext hlt hmem, List.length_append, List.length_singleton]
      exact ⟨by omega, fun h => by omega⟩

theorem length_flatten_assembled (hsize : 0 < chunkSize) (htext : '\n' ∉ text)
    (hposition : 0 < position) :
    (decode (content.take position)).length + text.length ≤
        (assembled content chunkSize hsize position text).flatten.length +
          (content.take position).count 10 ∧
      ((assembled content chunkSize hsize position text).flatten.length +
          (content.take position).count 10 =
        (decode (content.take position)).length + text.length →
          Whole content chunkSize position) := by
  induction position, hposition using chunks_induction hsize generalizing text with
  | first position hposition hle =>
    have hlength := length_flatten_splitOn '\n' (decode (content.take position) ++ text)
    rw [List.count_append, count_decode, List.count_eq_zero.mpr htext, List.length_append]
      at hlength
    rw [assembled_of_le hposition hle]
    exact ⟨by omega, fun _ => borders_of_le hle⟩
  | next position hlt ih =>
    have htotal := length_decode_append_le (content.take (position - chunkSize))
      (readAt content (position - chunkSize) chunkSize)
    have hacross := @length_decode_append (content.take (position - chunkSize))
      (readAt content (position - chunkSize) chunkSize)
    rw [take_eq_append hlt, List.count_append, Whole, borders_of_lt hlt]
    by_cases hmem : 10 ∈ readAt content (position - chunkSize) chunkSize
    · obtain ⟨first, rest, hparts, hfirst, heq⟩ := assembled_of_mem hsize htext hlt hmem
      have hlength := length_flatten_splitOn '\n'
        (decode (readAt content (position - chunkSize) chunkSize) ++ text)
      rw [hparts, List.count_append, count_decode, List.count_eq_zero.mpr htext,
        List.length_append, List.flatten_cons, List.length_append] at hlength
      obtain ⟨hless, hwhole⟩ := ih hfirst
      rw [heq, List.flatten_append, List.length_append]
      exact ⟨by omega, fun h => ⟨fun hcross => by have := hacross hcross; omega, hwhole (by omega)⟩⟩
    · have hzero := List.count_eq_zero.mpr hmem
      obtain ⟨hless, hwhole⟩ := @ih [] List.not_mem_nil
      rw [List.length_nil] at hless hwhole
      rw [assembled_of_not_mem htext hlt hmem, List.flatten_append, List.flatten_singleton,
        List.length_append, List.length_append]
      exact ⟨by omega, fun h => ⟨fun hcross => by have := hacross hcross; omega, hwhole (by omega)⟩⟩

theorem assembled_eq_splitOn (htext : '\n' ∉ text) (hposition : 0 < position)
    (hfed : Fed content chunkSize position) (hwhole : Whole content chunkSize position) :
    assembled content chunkSize hsize position text =
      (decode (content.take position) ++ text).splitOn '\n' := by
  induction position, hposition using chunks_induction hsize generalizing text with
  | first position hposition hle => exact assembled_of_le hposition hle
  | next position hlt ih =>
    obtain ⟨hmem, hfed⟩ := (borders_of_lt hlt).mp hfed
    obtain ⟨hcross, hwhole⟩ := (borders_of_lt hlt).mp hwhole
    obtain ⟨first, rest, hparts, hfirst, heq⟩ := assembled_of_mem hsize htext hlt hmem
    have hfeed : '\n' ∈ decode (readAt content (position - chunkSize) chunkSize) ++ text :=
      List.mem_append_left _ (lineFeed_mem_decode.mpr hmem)
    obtain ⟨before, after, hcut, hbefore⟩ := List.eq_append_cons_of_mem hfeed
    have hsplit := List.splitOn_append_cons_self_of_not_mem hbefore after
    rw [← hcut, hparts] at hsplit
    obtain ⟨rfl, rfl⟩ := List.cons.inj hsplit
    rw [heq, ih hfirst hfed hwhole, take_eq_append hlt, decode_append hcross, List.append_assoc,
      hcut, ← List.append_assoc, List.splitOn_append_cons_self]

/-- A text whose lines are as many characters as the text without its line feeds has no other
characters that end lines. -/
theorem lineFeeds_of_length_le {cs : List Char}
    (h : cs.length ≤ (splitLines false cs).flatten.length + cs.count '\n') :
    ∀ c ∈ cs, isLineBoundary c = true → c = '\n' := by
  have hmono : ∀ c : Char, (!isLineBoundary c) = true → decide (c ≠ '\n') = true := by
    intro c hc
    refine decide_eq_true ?_
    rintro rfl
    exact absurd hc (by decide)
  have hsub := List.monotone_filter_right cs hmono
  have hlength := length_flatten_splitOn '\n' cs
  rw [flatten_splitOn] at hlength
  rw [flatten_splitLines_eq_filter] at h
  have heq := hsub.eq_of_length_le (by omega)
  intro c hc hboundary
  by_contra hne
  have hmem : c ∈ cs.filter (· ≠ '\n') := List.mem_filter.mpr ⟨hc, decide_eq_true hne⟩
  rw [← heq] at hmem
  simp [hboundary] at hmem

end Assembled

/-- What keeps the lines of a large file as they are. -/
structure Tidy (content : List UInt8) : Prop where
  feeds : ∀ c ∈ decode content, isLineBoundary c = true → c = '\n'
  unended : content.getLast? ≠ some 10
  fed : Fed content (tailChunkSize content.length) content.length
  whole : Whole content (tailChunkSize content.length) content.length

section Tail

variable {content : List UInt8} {maxLines : ℤ}

theorem tailFileEfficiently_of_large (hlarge : 8192 ≤ content.length) : ∃ hsize, ∀ maxLines,
    0 < maxLines → tailFileEfficiently content maxLines =
      lastLines (assembled content (tailChunkSize content.length) hsize content.length [])
        maxLines := by
  have hne : content.length ≠ 0 := by omega
  refine ⟨tailChunkSize_pos (Nat.pos_of_ne_zero hne), fun maxLines hmax => ?_⟩
  rw [tailFileEfficiently, if_neg (by omega), dif_neg hne, if_neg (by omega)]
  refine (lastLines_readBackwards hmax content.length [] []).trans ?_
  rw [List.reverse_nil, List.append_nil]

theorem tailFileEfficiently_of_small (hsmall : content.length < 8192) (hmax : 0 < maxLines) :
    tailFileEfficiently content maxLines = plainTail content maxLines := by
  rw [tailFileEfficiently, if_neg (by omega)]
  by_cases hzero : content.length = 0
  · have hlines : splitLines false (decode []) = [] := rfl
    rw [dif_pos hzero, List.eq_nil_of_length_eq_zero hzero, plainTail, hlines,
      lastLines_eq_drop hmax, List.drop_nil]
  · rw [dif_neg hzero, if_pos hsmall]

theorem assembled_eq_splitLines_iff {chunkSize : ℕ} (hsize : 0 < chunkSize) (hne : content ≠ []) :
    assembled content chunkSize hsize content.length [] = splitLines false (decode content) ↔
      (∀ c ∈ decode content, isLineBoundary c = true → c = '\n') ∧ content.getLast? ≠ some 10 ∧
        Fed content chunkSize content.length ∧ Whole content chunkSize content.length := by
  have hpos := List.length_pos_iff.mpr hne
  have hnil : '\n' ∉ ([] : List Char) := List.not_mem_nil
  constructor
  · intro heq
    obtain ⟨hless, hfed⟩ := length_assembled hsize hnil hpos
    obtain ⟨hflat, hwhole⟩ := length_flatten_assembled hsize hnil hpos
    rw [List.take_length, heq] at hless hfed hflat hwhole
    rw [List.length_nil, Nat.add_zero, ← count_decode] at hflat hwhole
    have hfeeds := lineFeeds_of_length_le hflat
    have hsplit := congrArg List.length (splitOn_lineFeed hfeeds)
    rw [length_splitOn, count_decode, List.length_append] at hsplit
    have hend : ¬(decode content = [] ∨ (decode content).getLast? = some '\n') := by
      intro hend
      rw [if_pos hend, List.length_singleton] at hsplit
      omega
    rw [if_neg hend, List.length_nil, Nat.add_zero] at hsplit
    rw [getLast?_decode, not_or] at hend
    have hlength := length_flatten_splitOn '\n' (decode content)
    rw [flatten_splitOn, ← flatten_splitLines hfeeds] at hlength
    exact ⟨hfeeds, hend.2, hfed hsplit.symm, hwhole hlength⟩
  · rintro ⟨hfeeds, hunended, hfed, hwhole⟩
    rw [assembled_eq_splitOn hnil hpos hfed hwhole, List.take_length, List.append_nil,
      splitOn_lineFeed hfeeds, if_neg, List.append_nil]
    rw [getLast?_decode]
    exact not_or.mpr ⟨decode_ne_nil hne, hunended⟩

/-- Large files are read as small ones for every number of lines, if and only if they are tidy. -/
theorem tailFileEfficiently_eq_iff (content : List UInt8) :
    (∀ maxLines, 0 < maxLines →
        tailFileEfficiently content maxLines = plainTail content maxLines) ↔
      content.length < 8192 ∨ Tidy content := by
  rcases Nat.lt_or_ge content.length 8192 with hsmall | hlarge
  · exact iff_of_true (fun _ hmax => tailFileEfficiently_of_small hsmall hmax) (Or.inl hsmall)
  · obtain ⟨hsize, htail⟩ := tailFileEfficiently_of_large hlarge
    have hne : content ≠ [] := List.length_pos_iff.mp (by omega)
    have hall := assembled_eq_splitLines_iff hsize hne
    rw [or_iff_right (by omega)]
    constructor
    · intro h
      have hlines : assembled content (tailChunkSize content.length) hsize content.length [] =
          splitLines false (decode content) :=
        eq_of_lastLines fun maxLines hmax => (htail maxLines hmax).symm.trans (h maxLines hmax)
      obtain ⟨hfeeds, hunended, hfed, hwhole⟩ := hall.mp hlines
      exact ⟨hfeeds, hunended, hfed, hwhole⟩
    · intro h maxLines hmax
      rw [htail maxLines hmax, hall.mpr ⟨h.feeds, h.unended, h.fed, h.whole⟩, plainTail]

def endedLine : List UInt8 := encode (List.replicate 8191 'a' ++ ['\n'])

theorem length_encode_replicate (n : ℕ) : (encode (List.replicate n 'a')).length = n := by
  induction n with
  | zero => rfl
  | succ n ih => exact congrArg (· + 1) ih

theorem endedLine_tail : tailFileEfficiently endedLine 1 = [[]] ∧
    plainTail endedLine 1 = [List.replicate 8191 'a'] := by
  have hlength : endedLine.length = 8192 := by
    have hline := length_encode_replicate 8191
    rw [encode] at hline
    rw [endedLine, encode, List.flatMap_append, List.length_append, hline]
    rfl
  have hfree : OneLine (List.replicate 8191 'a') := by
    intro c hc
    rw [List.eq_of_mem_replicate hc]
    rfl
  have hdecode : decode endedLine = List.replicate 8191 'a' ++ ['\n'] := decode_encode _
  have hlines : splitLines false (decode endedLine) = [List.replicate 8191 'a'] := by
    rw [hdecode, splitLines_lineFeed hfree]
    rfl
  have hparts : (decode endedLine).splitOn '\n' = [List.replicate 8191 'a', []] := by
    have hmem : '\n' ∉ List.replicate 8191 'a' := fun h => absurd (hfree _ h) (by decide)
    rw [hdecode, List.splitOn_append_cons_self_of_not_mem hmem, List.splitOn_nil]
  constructor
  · obtain ⟨hsize, htail⟩ := tailFileEfficiently_of_large (Nat.le_of_eq hlength.symm)
    have hchunk : endedLine.length ≤ tailChunkSize endedLine.length := by
      rw [hlength]
      decide
    rw [htail 1 Int.one_pos, assembled_of_le (by omega) hchunk, List.take_length, List.append_nil,
      hparts]
    rfl
  · rw [plainTail, hlines]
    exact lastLines_of_length_le (Int.le_refl 1)

/-- What is behind the line is given in its place. -/
theorem not_tailFileEfficiently_endedLine :
    tailFileEfficiently endedLine 1 ≠ plainTail endedLine 1 := by
  obtain ⟨htail, hplain⟩ := endedLine_tail
  rw [htail, hplain]
  intro h
  have hlength := congrArg List.length (List.cons.inj h).1
  rw [List.length_replicate] at hlength
  exact absurd hlength (by decide)

end Tail

end Idea.FileBrowser
