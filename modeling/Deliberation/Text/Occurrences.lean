import Deliberation.Text.Blank
/-! Counting the occurrences of a keyword in a text from left to right, each search resuming after
the last match. -/

namespace Deliberation.Text

/-- The number of matches of the keyword `k :: ks` found from left to right. -/
def occurrences (k : Char) (ks : List Char) : List Char → Nat
  | [] => 0
  | c :: rest =>
    if k = c then
      match _h : after? ks rest with
      | some tail => occurrences k ks tail + 1
      | none => occurrences k ks rest
    else occurrences k ks rest
termination_by text => text.length
decreasing_by
  · have := after?_length_le _h
    simp only [List.length_cons]
    omega
  · simp
  · simp

end Deliberation.Text
