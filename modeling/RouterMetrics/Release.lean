import RouterMetrics.Net.Reply
import RouterMetrics.Text.Lossy

/-!
The release feed: one text per channel, below a common URL.
-/

namespace RouterMetrics.Release

/-- A feed: the URL to which a channel is added after a point, and how long replies are waited
for. -/
structure Feed where
  url : String
  patience : Duration

/-- The feed of the maker. -/
def official (patience : Duration) : Feed :=
  ⟨"https://upgrade.mikrotik.com/routeros/NEWESTa7", patience⟩

/-- The URL of a channel. -/
def Feed.channelUrl? (feed : Feed) (channel : String) : Option Net.Url :=
  (Net.Url.ofText? (feed.url ++ "." ++ channel)).bind Except.toOption

/-- The text of what comes back. Client and server errors have none. -/
def text? : Net.Reply → Option String
  | .answer status body =>
    if 400 ≤ status && status < 600 then none else some (Text.ofBytes body)
  | _ => none

/-- Asks for the text of a channel. -/
def Feed.ask {σ : Type} (send : Net.Send σ) (feed : Feed) (channel : String) (s : σ) :
    Option String × σ :=
  match feed.channelUrl? channel with
  | none => (none, s)
  | some url =>
    let (reply, s) := send ⟨"GET", url, none, none, feed.patience⟩ s
    (text? reply, s)

end RouterMetrics.Release
