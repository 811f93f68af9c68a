/-
Lines of text.

A line ends with a line feed, a carriage return, or both in this order; `unifyEnds`
writes each of these ends as a line feed.
-/

namespace ContractDrift.Text

/-- The text with a line feed for every end of a line. -/
def unifyEnds : List Char → List Char
  | [] => []
  | '\r' :: '\n' :: r => '\n' :: unifyEnds r
  | c :: r => (if c = '\r' then '\n' else c) :: unifyEnds r

/-- What stands before the end of the first line, and the rest from this end on. -/
def firstLine (cs : List Char) : List Char × List Char := cs.span (· ≠ '\n')

/-- No carriage return is left when the ends of the lines are unified. -/
theorem not_mem_unifyEnds (cs : List Char) : '\r' ∉ unifyEnds cs := by
  fun_induction unifyEnds cs with
  | case1 => simp
  | case2 r ih => simpa using ih
  | case3 c r _ ih =>
    simp only [List.mem_cons, not_or]
    refine ⟨?_, ih⟩
    split
    · decide
    · rename_i h
      exact fun e => h e.symm

end ContractDrift.Text
