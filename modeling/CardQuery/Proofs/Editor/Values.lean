import CardQuery.Editor.Outline

/-!
What is selected in an item. Whether that is enough is decided by each view of the item for itself:
values are empty (`CurrentValues.IsEmpty`), are bound (`CurrentValues.selection?`) and are shown
(`Item.plainText`), and here it is proved how these fit together. Which values belong to an argument
at all is said by `CurrentValues.Suits`. A new item holds such values, whether it is made of a leaf
or of a keyword (`Seed.suited_of_ofLeaf`, `CurrentValues.suits_ofArgument`).
-/

set_option autoImplicit false
set_option relaxedAutoImplicit false

namespace CardQuery

/-- The kind of values that the argument takes. -/
def Argument.kind : Argument → Editor.ValueKind
  | absent => .flag
  | text => .text
  | list _ => .list
  | sourced _ _ => .sourced

namespace Editor

namespace CurrentValues

variable {current loaded : CurrentValues} {argument : Argument} {selection : Selection}

/-! ### Empty and bound values -/

theorem kind_eq_flag_iff : current.kind = .flag ↔ current = flag := by
  cases current <;> simp [kind]

/-- Values that are empty are taken and not bound. -/
theorem isEmpty_iff : current.IsEmpty ↔ current ≠ flag ∧ current.selection? = none := by
  cases current with
  | flag => simp [IsEmpty]
  | text values => simp [IsEmpty, selection?]
  | list values => simp [IsEmpty, selection?]
  | sourced values origins => cases values <;> cases origins <;> simp [IsEmpty, selection?]

/-- Values that are not empty are bound, unless none are taken. -/
theorem selection?_cases (hset : ¬ current.IsEmpty) :
    current = flag ∨ ∃ selection, current.selection? = some selection := by
  by_cases hflag : current = flag
  · exact .inl hflag
  · exact .inr (Option.ne_none_iff_exists'.mp fun hnone ↦ hset (isEmpty_iff.mpr ⟨hflag, hnone⟩))

theorem not_isEmpty_of_selection? (hselection : current.selection? = some selection) :
    ¬ current.IsEmpty := by
  rw [isEmpty_iff, hselection]
  simp

/-- What values are bound to, where enough is selected. -/
inductive Binds : CurrentValues → Selection → Prop
  | text {entries : List String} (hpresent : entries ≠ []) : Binds (text entries) (.listed entries)
  | list {values : List String} (hpresent : values ≠ []) : Binds (list values) (.listed values)
  | sourced (values origins : List String) :
    Binds (sourced (some values) (some origins)) (.sourced (.among values) (.among origins))

theorem binds_of_selection? (hselection : current.selection? = some selection) :
    current.Binds selection := by
  unfold selection? at hselection
  split at hselection
  · cases hselection
  · obtain ⟨hpresent, hsame⟩ := Option.ite_none_left_eq_some.mp hselection
    obtain rfl := Option.some.inj hsame
    exact .text hpresent
  · obtain ⟨hpresent, hsame⟩ := Option.ite_none_left_eq_some.mp hselection
    obtain rfl := Option.some.inj hsame
    exact .list hpresent
  · obtain rfl := Option.some.inj hselection
    exact .sourced _ _
  · cases hselection

/-! ### Values that belong to an argument -/

/-- The values are of the kind that the argument takes. Of free text there is at most one entry, and
a side is open or lists something. -/
inductive Suits : CurrentValues → Argument → Prop
  | flag : Suits flag .absent
  | text {entries : List String} (hfew : entries.length ≤ 1) : Suits (text entries) .text
  | list (domain values : List String) : Suits (list values) (.list domain)
  | sourced {values origins : Option (List String)} (hvalues : values ≠ some [])
    (horigins : origins ≠ some []) (domain originDomain : List String) :
    Suits (sourced values origins) (.sourced domain originDomain)

theorem Suits.kind_eq (hsuits : current.Suits argument) : current.kind = argument.kind := by
  cases hsuits <;> rfl

theorem Suits.eq_flag_iff (hsuits : current.Suits argument) :
    current = .flag ↔ argument = .absent := by
  cases hsuits <;> simp

theorem suits_ofArgument (argument : Argument) : (ofArgument argument).Suits argument := by
  cases argument with
  | absent => exact .flag
  | text => exact .text (Nat.zero_le 1)
  | list domain => exact .list domain []
  | sourced domain origins => exact .sourced (by simp) (by simp) domain origins

theorem Suits.cleared_eq (hsuits : current.Suits argument) :
    current.cleared = ofArgument argument := by
  cases hsuits <;> rfl

theorem Suits.cleared (hsuits : current.Suits argument) : current.cleared.Suits argument :=
  hsuits.cleared_eq ▸ suits_ofArgument argument

/-- A list of literals that is a side of a selection has one that is not the wildcard. -/
theorem loadedSide_ne_some_nil (choice : Choice) (wildcard : String) :
    loadedSide choice wildcard ≠ some [] := by
  cases choice with
  | any => exact nofun
  | among values =>
    rw [loadedSide]
    cases hside : Choice.ofLiterals values wildcard with
    | any => exact nofun
    | among literals =>
      obtain ⟨rfl, literal, hliteral, -⟩ := Choice.ofLiterals_eq_among_iff.mp hside
      exact fun hnone ↦ List.ne_nil_of_mem hliteral (Option.some.inj hnone)

theorem nonEmpty_ne_some_nil (side : Option (List String)) : nonEmpty side ≠ some [] := by
  simp [nonEmpty, Option.filter_eq_some_iff]

/-- Values belong to the argument still when a selection has been put in their place. -/
theorem Suits.load? (hsuits : current.Suits argument)
    (hload : current.load? selection = some loaded) : loaded.Suits argument := by
  cases hsuits with
  | flag => cases hload
  | text =>
    cases selection with
    | listed entries =>
      obtain ⟨hfew, rfl⟩ : entries.length ≤ 1 ∧ .text entries = loaded := by
        simpa [CurrentValues.load?] using hload
      exact .text hfew
    | sourced => cases hload
  | list domain =>
    cases selection with
    | listed values =>
      obtain rfl := Option.some.inj hload
      exact .list domain values
    | sourced => cases hload
  | sourced _ _ domain originDomain =>
    cases selection with
    | listed => cases hload
    | sourced values origins =>
      obtain rfl := Option.some.inj hload
      exact .sourced (loadedSide_ne_some_nil _ _) (loadedSide_ne_some_nil _ _) domain originDomain

/-- What a leaf carries belongs to its argument. -/
theorem suits_of_carried? {selection : Option Selection}
    (hcarried : carried? argument selection = some current) : current.Suits argument := by
  cases selection with
  | none =>
    obtain rfl := Option.some.inj hcarried
    exact suits_ofArgument argument
  | some selection => exact (suits_ofArgument argument).load? hcarried

end CurrentValues

/-! ### Seeds -/

/-- The values of the item to be belong to its argument. -/
def Seed.Suited (seed : Seed) : Prop := seed.current.Suits seed.shape

/-- The item of a leaf has the argument of the leaf and holds what the leaf carries. -/
theorem Seed.ofLeaf_eq_ok_iff {negated : Bool} {entry : Leaf} {seed : Seed} :
    Seed.ofLeaf negated entry = .ok seed ↔
      ∃ argument current, entry.argument = some argument ∧
        CurrentValues.carried? argument entry.selection = some current ∧
        seed = ⟨entry.keyword, entry.description, entry.variableName, negated, argument,
          current⟩ := by
  unfold ofLeaf
  cases entry.argument with
  | none => simp
  | some argument =>
    cases hcarried : CurrentValues.carried? argument entry.selection with
    | none => simp [hcarried]
    | some current => simp [hcarried, eq_comm]

theorem Seed.suited_of_ofLeaf {negated : Bool} {entry : Leaf} {seed : Seed}
    (hseed : Seed.ofLeaf negated entry = .ok seed) : seed.Suited := by
  obtain ⟨argument, current, -, hcarried, rfl⟩ := ofLeaf_eq_ok_iff.mp hseed
  exact CurrentValues.suits_of_carried? hcarried

/-! ### Items -/

namespace Item

variable {item : Item}

/-- What is selected in the item belongs to its argument. -/
def Suited (item : Item) : Prop := item.current.Suits item.shape

/-- The item takes nothing, or neither of its two sides is selected. It is written as its bare
keyword then. -/
def IsBare (item : Item) : Prop := item.current = .flag ∨ item.current.LacksBothSides

instance (item : Item) : Decidable item.IsBare := inferInstanceAs (Decidable (_ ∨ _))

theorem plainText_of_isBare (hbare : item.IsBare) : item.plainText = item.keyword := by
  rcases hbare with hflag | hsides
  · rw [plainText, hflag]
  · rw [plainText, hsides]

theorem plainText_of_selection? {selection : Selection}
    (hselection : item.current.selection? = some selection) :
    item.plainText = item.keyword ++ " in " ++ selection.text := by
  have hbinds := CurrentValues.binds_of_selection? hselection
  obtain ⟨id, keyword, description, variableName, negated, disabled, shape, current, pool⟩ := item
  cases hbinds with
  | text hpresent | list hpresent =>
    simp [plainText, CurrentValues.selection?, hpresent, Selection.text]
  | sourced values origins => rfl

theorem plainText_of_open (hbare : ¬ item.IsBare) (hopen : item.current.selection? = none) :
    item.plainText = item.keyword ++ " in " ++ item.variableName := by
  obtain ⟨id, keyword, description, variableName, negated, disabled, shape, current, pool⟩ := item
  cases current with
  | flag => exact absurd (.inl rfl) hbare
  | text values =>
    obtain rfl : values = [] := by simpa [CurrentValues.selection?] using hopen
    rfl
  | list values =>
    obtain rfl : values = [] := by simpa [CurrentValues.selection?] using hopen
    rfl
  | sourced values origins =>
    cases values with
    | none =>
      cases origins with
      | none => exact absurd (.inr rfl) hbare
      | some origins => rfl
    | some values =>
      cases origins with
      | none => rfl
      | some origins => cases hopen

end Item

end Editor

end CardQuery
