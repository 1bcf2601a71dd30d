import MessageRouter.Unicode.CaseMapping

/-!
# Lower case of text

Texts are compared without regard to case by their lower case, character by character: the place
of a character in its word makes no difference.
-/

namespace MessageRouter.Text

/-- Lower case of a string, each character on its own. -/
def lowered (s : String) : String := String.ofList (s.toList.flatMap Unicode.lowerCase)

end MessageRouter.Text
