/-!
Comparison of words without regard to the case of ASCII letters. Every other character stands for
itself only, also where Unicode knows an upper and a lower form of it.
-/

set_option autoImplicit false
set_option relaxedAutoImplicit false

namespace CardQuery.Text

/-- The word with every ASCII capital replaced by its small letter. -/
def foldCase (word : String) : String :=
  String.ofList (word.toList.map Char.toLower)

def sameWord (first second : String) : Bool :=
  foldCase first == foldCase second

theorem sameWord_iff {first second : String} :
    sameWord first second = true ↔ foldCase first = foldCase second := by
  simp [sameWord]

end CardQuery.Text
