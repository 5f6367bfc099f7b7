/-! Shortening a text for display. -/

namespace Deliberation.Text

/-- The text itself where it has at most `limit` characters, and otherwise its first `limit - 3`
characters with three points for the rest. -/
def preview (limit : Nat) (text : String) : String :=
  if text.length ≤ limit then text
  else String.ofList (text.toList.take (limit - 3)) ++ "..."

end Deliberation.Text
