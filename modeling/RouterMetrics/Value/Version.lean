import RouterMetrics.Text.Blank

/-!
Version texts: the installed version with its release channel, such as `7.16.2 (stable)`, and the
line of a release feed, such as `7.16.2 1733140320`.
-/

namespace RouterMetrics.Value

/-- A small letter of ASCII. -/
def isSmallLetter (c : Char) : Bool := 'a' ≤ c && c ≤ 'z'

/-- The channel after the white space: small letters, with an opening bracket before them or not. -/
def channelOf (cs : List Char) : List Char :=
  let inner := match cs with
    | c :: rest => if c == '[' || c == '|' || c == '(' then rest else cs
    | [] => []
  inner.takeWhile isSmallLetter

/-- Cuts a line at its last white space after the first character. -/
def cutAtLastBlank (line : List Char) : Option (List Char × List Char) :=
  let after := line.reverse.takeWhile fun c => !Text.isBlank c
  let before := line.reverse.dropWhile fun c => !Text.isBlank c
  match before with
  | _ :: first :: rest => some ((first :: rest).reverse, after.reverse)
  | _ => none

/-- The version and its channel, empty when there is none after the white space. A line feed counts
as the white space of the line it ends; a text without white space after a character has no
channel. -/
def versionAndChannel (text : String) : Option (String × String) :=
  let cs := text.toList.dropWhile (· == '\n')
  let (line, rest) := cs.span (· != '\n')
  let cut := match rest with
    | _ :: rest => some (line, rest)
    | [] => cutAtLastBlank line
  cut.map fun (version, rest) =>
    (String.ofList (Text.trim version), String.ofList (channelOf rest))

/-- The two words of a release line, version and build time. -/
def releaseLine (text : String) : Option (String × String) :=
  match Text.words text.toList with
  | [version, build] => some (String.ofList version, String.ofList build)
  | _ => none

end RouterMetrics.Value
