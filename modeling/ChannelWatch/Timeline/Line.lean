/-!
# Waiting lines

A line in front of something that only one at a time may use. Who stands first has it; the
others get it in the order in which they came.
-/

namespace ChannelWatch
set_option autoImplicit false

/-- The number of a strand of work. -/
abbrev Strand := Nat

/-- Those who have or want something, in the order in which they came. -/
structure Line where
  members : List Strand
deriving DecidableEq

namespace Line

/-- Nobody stands in the line. -/
def empty : Line := ⟨[]⟩

/-- The strand stands first. -/
def isFirst (line : Line) (strand : Strand) : Bool := line.members.head? = some strand

/-- The strand joins the end of the line, unless it stands in it. -/
def join (line : Line) (strand : Strand) : Line :=
  if strand ∈ line.members then line else ⟨line.members ++ [strand]⟩

/-- The strand leaves the line. -/
def leave (line : Line) (strand : Strand) : Line := ⟨line.members.filter (· ≠ strand)⟩

/-- Joining takes nothing from who stands first. -/
theorem isFirst_join {line : Line} {first : Strand} (strand : Strand)
    (h : line.isFirst first = true) : (line.join strand).isFirst first = true := by
  unfold join
  split
  · exact h
  · cases members : line.members with
    | nil => simp [isFirst, members] at h
    | cons head rest => simpa [isFirst, members] using h

end Line

end ChannelWatch
