import FilterFleet.Events.Broker
import FilterFleet.Text.Blank
import FilterFleet.Text.Split

/-! # Frames of an event stream

What is written to a subscriber: events in the text form of server-sent events, and heartbeats in
the form of comments.
-/

namespace FilterFleet

/-- One unit written to a subscriber. -/
inductive Frame where
  | event (e : Event)
  | heartbeat
deriving DecidableEq

namespace Frame

/-- Written once when a stream opens: a comment, and the delay before a lost stream is opened
again. -/
def preamble : String := ": hello\nretry: 3000\n\n"

/-- A line that names a field and gives its value. -/
def fieldLine (name : String) (value : List Char) : List Char :=
  name.toList ++ ':' :: ' ' :: (value ++ ['\n'])

/-- The characters of a frame: the topic unless it is empty, the lines of the payload, and a blank
line. -/
def chars : Frame → List Char
  | heartbeat => ": ping\n\n".toList
  | event e =>
    (if e.topic.isEmpty then [] else fieldLine "event" e.topic.toList) ++
      ((Text.splitAt '\n' e.payload.toList).flatMap (fieldLine "data")) ++ ['\n']

/-- The text of a frame. -/
def text (f : Frame) : String := String.ofList f.chars

end Frame

/-! ## Topics -/

/-- The topic of the counts of the whole fleet. -/
def healthSummaryTopic : String := "health_summary"

/-- The topic of the records of the nodes. -/
def nodeHealthTopic : String := "node_health"

/-- The topics in a list with commas; a blank list names the topics about health. -/
def parseTopics (value : Option String) : List String :=
  let pieces := (Text.splitAt ',' (value.getD "").toList).map Text.trimChars
  let topics := (pieces.filter fun t => !t.isEmpty).map String.ofList
  if topics.isEmpty then [healthSummaryTopic, nodeHealthTopic] else topics

end FilterFleet
