import LiveEvents.Binary64.Shortest
import LiveEvents.Metrics.Basic

/-!
# Metrics as text

Each family has a line of help, a line with its kind, and a line for each value. Families and
labels are in order, and a family without values is left out.
-/

namespace LiveEvents.Metrics

def escapedLabel (value : String) : String :=
  String.ofList <| value.toList.flatMap fun
    | '\\' => ['\\', '\\']
    | '"' => ['\\', '"']
    | '\n' => ['\\', 'n']
    | c => [c]

def label (name value : String) : String :=
  name ++ "=\"" ++ escapedLabel value ++ "\""

def sample (name : String) (labels : List (String × String)) (value : String) : String :=
  name ++ "\x7b" ++ ",".intercalate (labels.map fun (n, v) => label n v) ++ "\x7d " ++ value

def number (n : Nat) : String :=
  String.ofList (Text.decimal n)

def family (name help kind : String) (samples : List String) : List String :=
  if samples.isEmpty then []
  else ("# HELP " ++ name ++ " " ++ help) :: ("# TYPE " ++ name ++ " " ++ kind) :: samples

def counter (name help : String) (labelNames : List String) (t : Tally) : List String :=
  family name help "counter" <|
    t.map fun (labels, n) => sample name (labelNames.zip labels) (number n)

def gauge (name help : String) (values : PerSource Bool) : List String :=
  family name help "gauge" <|
    values.map fun (source, up) => sample name [("source", source)] (if up then "1" else "0")

def boundText (thousandths : Nat) : String :=
  Binary64.text (Binary64.round ((thousandths : Rat) / 1000))

def latencySamples (name source : String) (l : Latency) : List String :=
  let bucket (bound : String) (n : Nat) :=
    sample (name ++ "_bucket") [("source", source), ("le", bound)] (number n)
  (Latency.bounds.zip l.within).map (fun (bound, n) => bucket (boundText bound) n) ++ [
    bucket "+Inf" l.count,
    sample (name ++ "_sum") [("source", source)] (Binary64.text l.sum),
    sample (name ++ "_count") [("source", source)] (number l.count)]

def histogram (name help : String) (values : PerSource Latency) : List String :=
  family name help "histogram" <|
    values.flatMap fun (source, l) => latencySamples name source l

def lines (m : Metrics) : List String :=
  counter "event_crawler_decode_errors_total" "Frames or payloads that failed to decode"
    ["source"] m.decodeErrors ++
  gauge "event_crawler_feed_connected" "Feed connection status (1=subscribed, 0=disconnected)"
    m.connected ++
  counter "event_crawler_frames_received_total" "Text frames received" ["source"] m.frames ++
  counter "event_crawler_poll_cycles_total" "Completed poll cycles" ["result", "source"] m.polls ++
  counter "event_crawler_reconnects_total" "Feed reconnect attempts" ["source"] m.reconnects ++
  counter "event_crawler_ticks_processed_total" "Normalized observations handed to the event sink"
    ["source"] m.ticks ++
  histogram "event_crawler_upsert_latency_seconds" "Event upsert transaction latency" m.latency ++
  counter "event_crawler_upserts_total" "Event upserts by outcome" ["outcome", "source"] m.upserts

def text (m : Metrics) : String :=
  String.join (m.lines.map (· ++ "\n"))

end LiveEvents.Metrics
