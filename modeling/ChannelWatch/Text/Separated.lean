/-!
# Text in pieces

The pieces of a text between its marks. There is always one piece more than there are
marks.
-/

namespace ChannelWatch.Text
set_option autoImplicit false

/-- The pieces between the characters that are marks. -/
def separated (isMark : Char → Bool) : List Char → List (List Char)
  | [] => [[]]
  | c :: rest =>
    if isMark c then [] :: separated isMark rest
    else
      match separated isMark rest with
      | [] => [[c]]
      | piece :: pieces => (c :: piece) :: pieces

end ChannelWatch.Text
