/-!
# Texts up to case

Names that people type are compared without regard to case.  Only the letters A to Z have a case
here.
-/

namespace Lobby.Text

/-- The characters of a text, the letters A to Z made small. -/
def foldCase (s : String) : List Char := s.toList.map Char.toLower

/-- Are two texts equal up to the case of the letters A to Z? -/
def sameUpToCase (a b : String) : Bool := foldCase a == foldCase b

theorem sameUpToCase_iff {a b : String} : sameUpToCase a b = true ↔ foldCase a = foldCase b := by
  simp [sameUpToCase]

@[simp] theorem sameUpToCase_self (a : String) : sameUpToCase a a = true := by
  simp [sameUpToCase]

end Lobby.Text
