import RouterMetrics.Net.Domain.Label

/-!
Domain names in the form in which hosts are asked for: in ASCII, in lower case, and the same for all
texts that are read as the same name.

Every character is put in its usual shape, and the text is composed; then its labels are checked and
written in ASCII one by one.
-/

namespace RouterMetrics.Net

/-- The ASCII form of the domain name that bytes write in UTF-8. -/
def domainOf? (bytes : List UInt8) : Option (List Char) := do
  let name ← String.fromUTF8? ⟨bytes.toArray⟩
  let mapped ← name.toList.mapM mapped?
  let composed := Text.composed mapped.flatten
  if composed.any isReserved then none
  else
    let labels ← (composed.splitOnP (· == '.')).mapM Label.ofChars?
    if keepDirection (labels.map (·.shown)) then some (['.'].intercalate (labels.map (·.written)))
    else none

end RouterMetrics.Net
