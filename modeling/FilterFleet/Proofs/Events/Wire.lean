import FilterFleet.Events.Frame
import Mathlib.Data.List.Basic

/-!
# Reading a stream of frames

An `EventSource` is the reader at the other end of an event stream. It takes the text line by line
(a line ends at CRLF, at LF or at CR), passes over comments, gathers the values of the fields that
it knows, and gives out an event at every blank line that has data before it.

A frame is written as lines that end at LF (`Frame.chars_eq_joinLines`), and a reader that is at
rest between two events takes from them the event of the frame and is at rest again
(`EventSource.AtRest.takeLines_frame`). So a stream is read as the events that were written, if no
carriage return stands in their payloads. No text at all is read as an event that has one in its
data (`EventSource.not_mem_data_of_mem_messages`), which makes this the exact condition
(`EventSource.messages_stream_iff`).
-/

namespace FilterFleet

open Text (splitAt)

/-- An event as the reader of a stream gets it. One without a type is an ordinary message. -/
structure Message where
  type : Option String
  data : String
deriving DecidableEq

/-- What the reader of a stream has gathered. -/
structure EventSource where
  /-- The type of the event under way. -/
  type : List Char
  /-- The data of the event under way, line by line, each with its end. -/
  data : List Char
  lastId : List Char
  /-- How long to wait before a lost stream is opened again, in milliseconds. -/
  delay : Option Nat
deriving DecidableEq

/-! ## The reader -/

namespace EventSource

/-- Nothing read yet. -/
def new : EventSource := ⟨[], [], [], none⟩

/-- The complete lines of a text, of whose first line `line` has been read. Each ends at CRLF, at LF
or at CR; what stands behind the last end is no line. -/
def linesFrom (line : List Char) : List Char → List (List Char)
  | [] => []
  | '\r' :: '\n' :: rest => line :: linesFrom [] rest
  | c :: rest =>
    if c = '\n' ∨ c = '\r' then line :: linesFrom [] rest else linesFrom (line ++ [c]) rest

/-- Drop one blank in front of a value. -/
def dropBlank : List Char → List Char
  | ' ' :: value => value
  | value => value

/-- The name of a field and its value: what stands before the first colon, and what stands behind it
but for one blank. Without a colon the whole line is the name. -/
def fieldOf (line : List Char) : List Char × List Char :=
  (line.takeWhile (· != ':'), dropBlank ((line.dropWhile (· != ':')).drop 1))

/-- Take the value of a field. Fields of other names mean nothing. -/
def takeField (s : EventSource) (name value : List Char) : EventSource :=
  if name = "event".toList then { s with type := value }
  else if name = "data".toList then { s with data := s.data ++ value ++ ['\n'] }
  else if name = "id".toList then if '\x00' ∈ value then s else { s with lastId := value }
  else if name = "retry".toList then
    if value ≠ [] ∧ value.all Char.isDigit then
      { s with delay := some (Nat.ofDigitChars 10 value 0) }
    else s
  else s

/-- The event under way is complete; without data there is none. -/
def dispatch (s : EventSource) : Option Message × EventSource :=
  (if s.data = [] then none
    else some ⟨if s.type = [] then none else some (String.ofList s.type),
      String.ofList s.data.dropLast⟩,
    { s with type := [], data := [] })

/-- Take one line: a blank one completes the event, one that starts with a colon is a comment. -/
def takeLine (s : EventSource) : List Char → Option Message × EventSource
  | [] => s.dispatch
  | ':' :: _ => (none, s)
  | c :: rest => (none, s.takeField (fieldOf (c :: rest)).1 (fieldOf (c :: rest)).2)

/-- Take lines one after another; the events are given in order. -/
def takeLines (s : EventSource) : List (List Char) → List Message × EventSource
  | [] => ([], s)
  | line :: rest =>
    let (m, s) := s.takeLine line
    let (ms, s) := s.takeLines rest
    (m.toList ++ ms, s)

/-- A mark of the byte order in front of a stream does not belong to it. -/
def withoutMark : List Char → List Char
  | '\ufeff' :: rest => rest
  | cs => cs

/-- The events that a stream is read as. -/
def messages (text : String) : List Message :=
  (new.takeLines (linesFrom [] (withoutMark text.toList))).1

/-! ## Lines -/

theorem linesFrom_cons {c : Char} (hc : c ≠ '\r') (line rest : List Char) :
    linesFrom line (c :: rest) =
      if c = '\n' then line :: linesFrom [] rest else linesFrom (line ++ [c]) rest := by
  rw [linesFrom.eq_def]
  split <;> simp_all

/-- What ends at LF is read as one line, if no end of a line stands in it. -/
theorem linesFrom_line {line : List Char} (hline : '\n' ∉ line ∧ '\r' ∉ line)
    (before rest : List Char) :
    linesFrom before (line ++ '\n' :: rest) = (before ++ line) :: linesFrom [] rest := by
  induction line generalizing before with
  | nil => simp [linesFrom_cons]
  | cons c line ih =>
    obtain ⟨hnewline, hreturn⟩ := hline
    rw [List.mem_cons, not_or] at hnewline hreturn
    rw [List.cons_append, linesFrom_cons (Ne.symm hreturn.1), if_neg (Ne.symm hnewline.1),
      ih ⟨hnewline.2, hreturn.2⟩]
    simp

/-- No line that is read has a carriage return in it. -/
theorem not_mem_of_mem_linesFrom {before text line : List Char} (hbefore : '\r' ∉ before)
    (h : line ∈ linesFrom before text) : '\r' ∉ line := by
  fun_induction linesFrom before text with
  | case1 => simp at h
  | case2 before rest ih =>
    rcases List.mem_cons.mp h with rfl | h
    · exact hbefore
    · exact ih (by simp) h
  | case3 before c rest _ hend ih =>
    rcases List.mem_cons.mp h with rfl | h
    · exact hbefore
    · exact ih (by simp) h
  | case4 before c rest _ hend ih =>
    have hc : '\r' ≠ c := fun heq => hend (Or.inr heq.symm)
    exact ih (by simp [hbefore, hc]) h

/-! ## Taking lines -/

theorem takeLines_cons (s : EventSource) (line : List Char) (ls : List (List Char)) :
    s.takeLines (line :: ls) =
      ((s.takeLine line).1.toList ++ ((s.takeLine line).2.takeLines ls).1,
        ((s.takeLine line).2.takeLines ls).2) := rfl

theorem takeLines_append (s : EventSource) (ls ms : List (List Char)) :
    s.takeLines (ls ++ ms) =
      ((s.takeLines ls).1 ++ ((s.takeLines ls).2.takeLines ms).1,
        ((s.takeLines ls).2.takeLines ms).2) := by
  induction ls generalizing s with
  | nil => rfl
  | cons line ls ih => simp [takeLines, ih]

/-- Nothing stands in the type and in the data: the reader is between two events. -/
def AtRest (s : EventSource) : Prop := s.type = [] ∧ s.data = []

/-- No carriage return stands in the data. -/
def Clean (s : EventSource) : Prop := '\r' ∉ s.data

theorem Clean.takeField {s : EventSource} (hs : s.Clean) (name : List Char) {value : List Char}
    (hvalue : '\r' ∉ value) : (s.takeField name value).Clean := by
  unfold EventSource.takeField Clean
  split_ifs <;> simp_all [Clean]

theorem not_mem_dropBlank {line : List Char} (hline : '\r' ∉ line) : '\r' ∉ dropBlank line := by
  unfold dropBlank
  split
  · exact fun h => hline (List.mem_cons_of_mem _ h)
  · exact hline

theorem not_mem_fieldOf {line : List Char} (hline : '\r' ∉ line) : '\r' ∉ (fieldOf line).2 :=
  not_mem_dropBlank fun h =>
    hline ((List.dropWhile_sublist _).subset (List.mem_of_mem_drop h))

/-- A line without a carriage return keeps the data free of one, and so is the data of the event
that it completes. -/
theorem Clean.takeLine {s : EventSource} (hs : s.Clean) {line : List Char} (hline : '\r' ∉ line) :
    (s.takeLine line).2.Clean ∧ ∀ m ∈ (s.takeLine line).1, '\r' ∉ m.data.toList := by
  fun_cases EventSource.takeLine s line with
  | case1 =>
    refine ⟨by simp [dispatch, Clean], fun m hm => ?_⟩
    obtain ⟨-, rfl⟩ : s.data ≠ [] ∧ _ = m := by simpa [dispatch] using hm
    rw [String.toList_ofList]
    exact fun h => hs (List.dropLast_subset _ h)
  | case2 => exact ⟨hs, by simp⟩
  | case3 c rest _ => exact ⟨hs.takeField _ (not_mem_fieldOf hline), by simp⟩

theorem Clean.takeLines {s : EventSource} (hs : s.Clean) {ls : List (List Char)}
    (hls : ∀ line ∈ ls, '\r' ∉ line) : ∀ m ∈ (s.takeLines ls).1, '\r' ∉ m.data.toList := by
  induction ls generalizing s with
  | nil => simp [EventSource.takeLines]
  | cons line ls ih =>
    obtain ⟨hline, hls⟩ := List.forall_mem_cons.mp hls
    have hone := hs.takeLine hline
    intro m hm
    rcases List.mem_append.mp hm with hm | hm
    · exact hone.2 m (Option.mem_toList.mp hm)
    · exact ih hone.1 hls m hm

/-- Whatever the text, no event is read from it whose data has a carriage return in it. -/
theorem not_mem_data_of_mem_messages {text : String} {m : Message} (h : m ∈ messages text) :
    '\r' ∉ m.data.toList :=
  Clean.takeLines (s := new) (by simp [Clean, new])
    (fun _ hline => not_mem_of_mem_linesFrom (by simp) hline) m h

end EventSource

/-! ## What is written -/

/-- Lines, each with LF at its end. -/
def joinLines (lines : List (List Char)) : List Char := lines.flatMap (· ++ ['\n'])

/-- Without its last end the text of lines is the text that was split into them. -/
theorem dropLast_joinLines {ls : List (List Char)} (hls : ls ≠ []) :
    (joinLines ls).dropLast = Text.joinWith '\n' ls := by
  induction ls with
  | nil => exact absurd rfl hls
  | cons line ls ih =>
    cases ls with
    | nil => simp [joinLines, Text.joinWith]
    | cons next ls =>
      have hne : joinLines (next :: ls) ≠ [] := by simp [joinLines]
      have hcons : joinLines (line :: next :: ls) = line ++ '\n' :: joinLines (next :: ls) := by
        simp [joinLines]
      rw [hcons, List.dropLast_append_of_ne_nil (by simp), List.dropLast_cons_of_ne_nil hne,
        ih (by simp)]
      simp [Text.joinWith]

theorem joinLines_append (ls ms : List (List Char)) :
    joinLines (ls ++ ms) = joinLines ls ++ joinLines ms := List.flatMap_append

namespace Frame

/-- The text of a stream of frames from its opening on. -/
def stream (frames : List Frame) : String := preamble ++ String.join (frames.map text)

/-- The event that a frame is meant to bring: its topic is the type, unless it is empty. -/
def message? : Frame → Option Message
  | heartbeat => none
  | event e => some ⟨if e.topic.isEmpty then none else some e.topic, e.payload⟩

/-- The field `name` with its value, as a line. -/
def fieldText (name : String) (value : List Char) : List Char := name.toList ++ ':' :: ' ' :: value

/-- The lines of a frame. -/
def lines : Frame → List (List Char)
  | heartbeat => [": ping".toList, []]
  | event e =>
    (if e.topic.isEmpty then [] else [fieldText "event" e.topic.toList]) ++
      (splitAt '\n' e.payload.toList).map (fieldText "data") ++ [[]]

/-- The lines that open a stream. -/
def preambleLines : List (List Char) := [": hello".toList, "retry: 3000".toList, []]

theorem fieldLine_eq_joinLines (name : String) (value : List Char) :
    fieldLine name value = joinLines [fieldText name value] := by
  simp [fieldLine, joinLines, fieldText]

theorem chars_eq_joinLines (f : Frame) : f.chars = joinLines f.lines := by
  cases f with
  | heartbeat => rfl
  | event e =>
    have hpieces : (splitAt '\n' e.payload.toList).flatMap (fieldLine "data") =
        joinLines ((splitAt '\n' e.payload.toList).map (fieldText "data")) := by
      rw [joinLines, List.flatMap_map]
      exact List.flatMap_congr fun piece _ => by
        rw [fieldLine_eq_joinLines, joinLines, List.flatMap_singleton]
    unfold chars lines
    dsimp only
    rw [hpieces, fieldLine_eq_joinLines]
    by_cases h : e.topic.isEmpty = true
    · rw [if_pos h, if_pos h, joinLines_append, List.nil_append, List.nil_append]
      rfl
    · rw [if_neg h, if_neg h, joinLines_append, joinLines_append]
      rfl

theorem toList_stream (frames : List Frame) :
    (stream frames).toList = joinLines (preambleLines ++ frames.flatMap lines) := by
  have hframes : (String.join (frames.map text)).toList = joinLines (frames.flatMap lines) := by
    induction frames with
    | nil => rfl
    | cons f rest ih =>
      simp only [List.map_cons, String.join_cons, String.toList_append, ih, List.flatMap_cons]
      rw [text, String.toList_ofList, chars_eq_joinLines]
      simp [joinLines]
  rw [stream, String.toList_append, hframes]
  simp [joinLines, preamble, preambleLines]

/-- The lines of a frame have no end of a line in them, unless one stands in the topic or a carriage
return in the payload. -/
theorem forall_mem_lines {f : Frame}
    (htopic : ∀ e, f = event e → '\n' ∉ e.topic.toList ∧ '\r' ∉ e.topic.toList)
    (hpayload : ∀ e, f = event e → '\r' ∉ e.payload.toList) :
    ∀ line ∈ f.lines, '\n' ∉ line ∧ '\r' ∉ line := by
  cases f with
  | heartbeat => decide
  | event e =>
    obtain ⟨htopic, hpayload⟩ := And.intro (htopic e rfl) (hpayload e rfl)
    have hfield (name : String) (value : List Char)
        (hname : '\n' ∉ name.toList ∧ '\r' ∉ name.toList)
        (hvalue : '\n' ∉ value ∧ '\r' ∉ value) :
        '\n' ∉ fieldText name value ∧ '\r' ∉ fieldText name value := by
      simp [fieldText, hname, hvalue]
    intro line hline
    rcases List.mem_append.mp hline with hline | hline
    · rcases List.mem_append.mp hline with hline | hline
      · by_cases h : e.topic.isEmpty = true
        · simp [h] at hline
        · obtain rfl : line = fieldText "event" e.topic.toList := by simpa [h] using hline
          exact hfield _ _ (by decide) htopic
      · obtain ⟨piece, hpiece, rfl⟩ := List.mem_map.mp hline
        have hcr : '\r' ∉ piece := fun h => hpayload (by
          rw [← Text.joinWith_splitAt '\n' e.payload.toList]
          exact Text.mem_joinWith hpiece h)
        exact hfield _ _ (by decide) ⟨Text.not_mem_of_mem_splitAt hpiece, hcr⟩
    · simp_all

end Frame

namespace EventSource

theorem linesFrom_joinLines {ls : List (List Char)}
    (hls : ∀ line ∈ ls, '\n' ∉ line ∧ '\r' ∉ line) : linesFrom [] (joinLines ls) = ls := by
  induction ls with
  | nil => rfl
  | cons line ls ih =>
    obtain ⟨hline, hls⟩ := List.forall_mem_cons.mp hls
    have hcons : joinLines (line :: ls) = line ++ '\n' :: joinLines ls := by simp [joinLines]
    rw [hcons, linesFrom_line hline, ih hls, List.nil_append]

/-- A field that is written with a blank behind its colon is taken with exactly its value. -/
theorem takeLine_fieldText (s : EventSource) {name : String} (hname : name ≠ "")
    (hcolon : ':' ∉ name.toList) (value : List Char) :
    s.takeLine (Frame.fieldText name value) = (none, s.takeField name.toList value) := by
  have hfield : fieldOf (Frame.fieldText name value) = (name.toList, value) := by
    have hall : ∀ c ∈ name.toList, (c != ':') = true := by
      intro c hc
      simpa using fun h : c = ':' => hcolon (h ▸ hc)
    simp [fieldOf, Frame.fieldText, List.takeWhile_append_of_pos hall,
      List.dropWhile_append_of_pos hall, dropBlank]
  cases hcs : name.toList with
  | nil => exact absurd (String.toList_eq_nil_iff.mp hcs) hname
  | cons c cs =>
    have hc : c ≠ ':' := fun h => hcolon (by rw [hcs, h]; simp)
    have htext : Frame.fieldText name value = c :: (cs ++ ':' :: ' ' :: value) := by
      rw [Frame.fieldText, hcs, List.cons_append]
    rw [← hcs, htext, takeLine, ← htext, hfield]
    exact fun h => hc h

/-- The lines of data add up, each with LF at its end. -/
theorem takeLines_data (s : EventSource) (pieces : List (List Char)) :
    s.takeLines (pieces.map (Frame.fieldText "data")) =
      ([], { s with data := s.data ++ joinLines pieces }) := by
  induction pieces generalizing s with
  | nil => simp [takeLines, joinLines]
  | cons piece pieces ih =>
    have hfield : s.takeField "data".toList piece =
        { s with data := s.data ++ piece ++ ['\n'] } := by
      rw [takeField, if_neg (by decide), if_pos rfl]
    rw [List.map_cons, takeLines_cons, takeLine_fieldText s (by decide) (by decide), hfield, ih]
    simp [joinLines]

/-- The reader is at rest before a frame: it reads the event of the frame and is at rest again. -/
theorem AtRest.takeLines_frame {s : EventSource} (hs : s.AtRest) (f : Frame) :
    s.takeLines f.lines = (f.message?.toList, s) := by
  obtain ⟨htype, hdata⟩ := hs
  have hblank : s.takeLines [[]] = ([], s) := by
    rw [takeLines_cons, takeLine, dispatch, if_pos hdata]
    cases s
    simp_all [takeLines]
  cases f with
  | heartbeat => exact hblank
  | event e =>
    -- what the reader has gathered before the blank line of the event
    have hlines : s.takeLines ((if e.topic.isEmpty then []
          else [Frame.fieldText "event" e.topic.toList]) ++
        (splitAt '\n' e.payload.toList).map (Frame.fieldText "data")) =
        ([], { s with
          type := e.topic.toList
          data := joinLines (splitAt '\n' e.payload.toList) }) := by
      rw [takeLines_append, takeLines_data]
      by_cases h : e.topic.isEmpty = true
      · have htopic : e.topic.toList = [] := by simpa using h
        simp [h, takeLines, hdata, htopic, htype]
      · have hfield : s.takeField "event".toList e.topic.toList =
            { s with type := e.topic.toList } := by rw [takeField, if_pos rfl]
        rw [if_neg h, takeLines_cons, takeLine_fieldText s (by decide) (by decide), hfield]
        simp [takeLines, hdata]
    have hne : joinLines (splitAt '\n' e.payload.toList) ≠ [] := by
      cases hs : splitAt '\n' e.payload.toList with
      | nil => exact absurd hs (Text.splitAt_ne_nil _ _)
      | cons piece pieces => simp [joinLines]
    have hpayload :
        String.ofList (joinLines (splitAt '\n' e.payload.toList)).dropLast = e.payload := by
      rw [dropLast_joinLines (Text.splitAt_ne_nil _ _), Text.joinWith_splitAt, String.ofList_toList]
    have htopic : (e.topic.toList = []) = (e.topic.isEmpty = true) := by simp
    rw [Frame.lines, takeLines_append, hlines, takeLines_cons, takeLine, dispatch, if_neg hne,
      hpayload]
    cases s
    simp_all [takeLines, Frame.message?]

/-- A reader at rest reads the events of frames in order. -/
theorem AtRest.takeLines_frames {s : EventSource} (hs : s.AtRest) (frames : List Frame) :
    s.takeLines (frames.flatMap Frame.lines) = (frames.filterMap Frame.message?, s) := by
  induction frames with
  | nil => rfl
  | cons f frames ih =>
    rw [List.flatMap_cons, takeLines_append, hs.takeLines_frame f, ih]
    cases h : f.message? <;> simp [h]

/-- The lines that open a stream tell the delay and bring no event. -/
theorem takeLines_preamble :
    new.takeLines Frame.preambleLines = ([], { new with delay := some 3000 }) := by
  decide +kernel

/-- A stream is read as the events that were written to it, each with its topic as the type and
exactly its payload as the data, if and only if no payload has a carriage return in it. -/
theorem messages_stream_iff (frames : List Frame)
    (htopics : ∀ e, Frame.event e ∈ frames → '\n' ∉ e.topic.toList ∧ '\r' ∉ e.topic.toList) :
    messages (Frame.stream frames) = frames.filterMap Frame.message? ↔
      ∀ e, Frame.event e ∈ frames → '\r' ∉ e.payload.toList := by
  constructor
  · intro hread e he
    have hmem : (⟨if e.topic.isEmpty then none else some e.topic, e.payload⟩ : Message) ∈
        messages (Frame.stream frames) := by
      rw [hread]
      exact List.mem_filterMap.mpr ⟨_, he, rfl⟩
    exact not_mem_data_of_mem_messages hmem
  · intro hpayloads
    have hpreamble : ∀ line ∈ Frame.preambleLines, '\n' ∉ line ∧ '\r' ∉ line := by decide
    have hlines : ∀ line ∈ Frame.preambleLines ++ frames.flatMap Frame.lines,
        '\n' ∉ line ∧ '\r' ∉ line := by
      intro line hline
      rcases List.mem_append.mp hline with hline | hline
      · exact hpreamble line hline
      · obtain ⟨f, hf, hline⟩ := List.mem_flatMap.mp hline
        exact Frame.forall_mem_lines (fun e he => htopics e (he ▸ hf))
          (fun e he => hpayloads e (he ▸ hf)) line hline
    have hmark : withoutMark (Frame.stream frames).toList = (Frame.stream frames).toList := by
      rw [Frame.toList_stream]
      rfl
    have hrest : ({ new with delay := some 3000 } : EventSource).AtRest := ⟨rfl, rfl⟩
    rw [messages, hmark, Frame.toList_stream, linesFrom_joinLines hlines, takeLines_append,
      takeLines_preamble, hrest.takeLines_frames]
    rfl

/-- Blank lines, colons and blanks at the ends of payloads are kept; heartbeats bring nothing. -/
theorem messages_stream_iff_mixed :
    (∀ e, Frame.event e ∈ [.event ⟨"a", " b: \n\n:c\n"⟩, .heartbeat, .event ⟨"", ""⟩] →
      '\n' ∉ e.topic.toList ∧ '\r' ∉ e.topic.toList) ∧
    messages (Frame.stream [.event ⟨"a", " b: \n\n:c\n"⟩, .heartbeat, .event ⟨"", ""⟩]) =
      [⟨some "a", " b: \n\n:c\n"⟩, ⟨none, ""⟩] := by
  have htopics : ∀ e, Frame.event e ∈ [.event ⟨"a", " b: \n\n:c\n"⟩, .heartbeat, .event ⟨"", ""⟩] →
      '\n' ∉ e.topic.toList ∧ '\r' ∉ e.topic.toList := by
    rintro e he
    obtain rfl | rfl : e = ⟨"a", " b: \n\n:c\n"⟩ ∨ e = ⟨"", ""⟩ := by simpa using he
    · decide
    · decide
  refine ⟨htopics, (messages_stream_iff _ htopics).mpr ?_⟩
  rintro e he
  obtain rfl | rfl : e = ⟨"a", " b: \n\n:c\n"⟩ ∨ e = ⟨"", ""⟩ := by simpa using he
  · decide
  · decide

/-- With a carriage return in its payload, one event is read as two: what stands behind it is read
as lines of the stream. -/
theorem carriage_return_splits_event :
    messages (Frame.stream [.event ⟨"a", "b\r\rdata: c"⟩]) = [⟨some "a", "b"⟩, ⟨none, "c"⟩] ∧
      messages (Frame.stream [.event ⟨"a", "b\r\rdata: c"⟩]) ≠
        [Frame.event ⟨"a", "b\r\rdata: c"⟩].filterMap Frame.message? := by
  decide +kernel

end EventSource

end FilterFleet
