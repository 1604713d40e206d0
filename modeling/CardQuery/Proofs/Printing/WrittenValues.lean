import CardQuery.Proofs.Printing.Printed

/-!
Values survive being written and read. Whatever characters they hold, the text of a keyword with
the values that its argument takes is read as that keyword with the same values
(`ofText_written`): a quote or a backslash of a value does not end its literal, and a comma, a
variable or a word of the language inside a literal is part of the value. Only a side of nothing
but its wildcard is not kept, as it restricts nothing.
-/

set_option autoImplicit false
set_option relaxedAutoImplicit false

namespace CardQuery

open Editor (countKeyword isWord_countKeyword)

/-! ### What comes back -/

namespace Choice

/-- The side lists its wildcard and nothing besides. -/
def IsWild (wildcard : String) : Choice → Prop
  | any => False
  | among values => ∀ value ∈ values, value = wildcard

/-- The side is read as it was written, or as no restriction if it lists only its wildcard. -/
structure ReadsAs (wildcard : String) (side read : Choice) : Prop where
  unrestricted : side.IsWild wildcard → read = any
  kept : ¬ side.IsWild wildcard → read = side

theorem readsAs_reread (wildcard : String) (side : Choice) :
    side.ReadsAs wildcard (side.reread wildcard) where
  unrestricted := by
    intro hwild
    cases side with
    | any => rfl
    | among values => exact ofLiterals_eq_any_iff.mpr hwild
  kept := by
    intro hother
    cases side with
    | any => rfl
    | among values =>
      have hliteral : ∃ value ∈ values, value ≠ wildcard := by simpa [IsWild] using hother
      exact ofLiterals_eq_among_iff.mpr ⟨rfl, hliteral⟩

end Choice

namespace Selection

/-- The values are read as they were written, up to sides that list only their wildcards. -/
def ReadsAs : Selection → Selection → Prop
  | listed values, read => read = listed values
  | sourced values origins, read => ∃ valuesRead originsRead,
      read = sourced valuesRead originsRead ∧
        values.ReadsAs Choice.valueWildcard valuesRead ∧
        origins.ReadsAs Choice.originWildcard originsRead

theorem readsAs_reread (selection : Selection) : selection.ReadsAs selection.reread := by
  cases selection with
  | listed values => rfl
  | sourced values origins =>
    exact ⟨_, _, rfl, Choice.readsAs_reread _ values, Choice.readsAs_reread _ origins⟩

end Selection

/-! ### Reading what is written -/

namespace Filter

variable {registry : Registry} {subject : Subject} {keyword : Keyword} {selection : Selection}

/-- A keyword with values that its argument takes is read as a leaf of the keyword, without a
variable and with these values. -/
theorem ofText_written (hlookup : registry.lookup keyword.name = some keyword)
    (happlies : keyword.AppliesTo subject) (hword : Lexer.IsWord keyword.name)
    (hfits : selection.Fits keyword.argument) :
    ∃ read, selection.ReadsAs read ∧
      ofText registry subject (keyword.name ++ " in " ++ selection.text) =
        .ok (.wrapped (.leaf
          { keyword := keyword.name, description := keyword.description,
            argument := some keyword.argument, variableName := none,
            selection := some read })) := by
  have hfound : Grammar.Names registry subject keyword.name keyword :=
    Grammar.names_iff_lookup.mpr ⟨hlookup, happlies⟩
  exact ⟨selection.reread, selection.readsAs_reread, Editor.ofText_fitting hfound hword hfits⟩

/-- Numbers of copies that are all the wildcard, in sets whose names hold what might end a literal:
any number of copies, in the sets of these names. -/
theorem ofText_written_copies :
    (Selection.sourced (.among ["-1", "-1"])
      (.among ["", "My \"Deck\" \\", "a, b) FROM $x OR 'c"])).Fits countKeyword.argument ∧
    ofText Registry.builtin .card (countKeyword.name ++ " in " ++
        (Selection.sourced (.among ["-1", "-1"])
          (.among ["", "My \"Deck\" \\", "a, b) FROM $x OR 'c"])).text) =
      .ok (.wrapped (.leaf
        { keyword := countKeyword.name, description := countKeyword.description,
          argument := some countKeyword.argument, variableName := none,
          selection := some (.sourced .any
            (.among ["", "My \"Deck\" \\", "a, b) FROM $x OR 'c"])) })) := by
  have hfits : (Selection.sourced (.among ["-1", "-1"])
      (.among ["", "My \"Deck\" \\", "a, b) FROM $x OR 'c"])).Fits countKeyword.argument :=
    ⟨by decide, by decide⟩
  refine ⟨hfits, ?_⟩
  obtain ⟨read, ⟨valuesRead, originsRead, rfl, hvalues, horigins⟩, hread⟩ :=
    @ofText_written Registry.builtin .card countKeyword _ rfl (by decide) isWord_countKeyword hfits
  have hany := hvalues.unrestricted (by simp [Choice.IsWild, Choice.valueWildcard])
  have hkept := horigins.kept (by simp [Choice.IsWild, Choice.originWildcard])
  rw [hread, hany, hkept]

end Filter

end CardQuery
