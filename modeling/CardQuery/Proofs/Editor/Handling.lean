import CardQuery.Proofs.Editor.OwnValues
import CardQuery.Proofs.Editor.Suited
import CardQuery.Proofs.Printing.Printed

/-!
An item through everything that is done to it. It is made of a leaf or of a keyword, and from then
on edited and moved from tree to tree (`Item.handled`); an edit that does not fit its values is
refused and leaves it as it is. What the item takes is settled when it is made, and what is selected
in it belongs to that at every point (`Item.suited_handled`). Whether enough is selected is seen in
four ways: in the values it holds, in the binding of its variable, in what it says and in its text.
All of them agree as long as the values belong to the argument (`Item.views_agree`), and so at every
point (`Item.views_agree_of_handled`).
-/

set_option autoImplicit false
set_option relaxedAutoImplicit false

namespace CardQuery

/-! ### Quotation marks -/

namespace Text.Quoted

theorem mark_mem_quote (text : String) : '"' ∈ (quote text).toList := by
  simp [quote]

/-- Values are written with quotation marks. -/
theorem mark_mem_quoteAll {texts : List String} (hpresent : texts ≠ []) :
    '"' ∈ (quoteAll texts).toList := by
  cases texts with
  | nil => exact absurd rfl hpresent
  | cons first rest =>
    cases rest with
    | nil => simpa [quoteAll] using mark_mem_quote first
    | cons second others => simp [quoteAll, mark_mem_quote]

end Text.Quoted

theorem Choice.mark_mem_text {choice : Choice} (hpresent : choice ≠ .among []) (wildcard : String) :
    '"' ∈ (choice.text wildcard).toList := by
  cases choice with
  | any => exact Text.Quoted.mark_mem_quote wildcard
  | among values => exact Text.Quoted.mark_mem_quoteAll fun hnone ↦ hpresent (congrArg _ hnone)

namespace Editor

/-! ### Edits that fit -/

/-- An item with values of the kind takes the edit. -/
def ItemEdit.Fits : ItemEdit → ValueKind → Prop
  | setNegated _, _ | setDisabled _, _ | clear, _ => True
  | enterText _, kind => kind = .text
  | selectValues _, kind => kind = .list
  | selectSides _ _, kind => kind = .sourced

/-- An edit is refused exactly if it does not fit the kind of the values. -/
theorem ItemEdit.apply_eq_error_iff {item : Item} {edit : ItemEdit} {error : EditError} :
    edit.apply item = .error error ↔
      ¬ edit.Fits item.current.kind ∧ error = ⟨item.keyword, item.current.kind⟩ := by
  cases edit with
  | setNegated | setDisabled | clear => simp [apply, Fits]
  | enterText text =>
    cases hcurrent : item.current <;>
      simp [apply, Fits, Item.enterText, Item.mismatch, hcurrent, CurrentValues.kind, eq_comm]
  | selectValues values =>
    cases hcurrent : item.current <;>
      simp [apply, Fits, Item.selectValues, Item.mismatch, hcurrent, CurrentValues.kind, eq_comm]
  | selectSides values origins =>
    by_cases hkind : item.current.kind = .sourced <;>
      simp [apply, Fits, Item.selectSides, Item.mismatch, hkind, eq_comm]

namespace Item

/-! ### Bindings and texts -/

variable {item : Item} {selection : Selection}

/-- The variable of the item is bound to these values. -/
def IsBoundTo (item : Item) (selection : Selection) : Prop :=
  item.bindings.lookup item.variableName = some (some selection)

theorem lookup_bindings (item : Item) :
    item.bindings.lookup item.variableName =
      if item.current.kind = .flag then none else some item.current.selection? := by
  unfold bindings
  split
  · exact Bindings.lookup_empty _
  · rw [Bindings.lookup_insert, if_pos rfl]

theorem isBoundTo_iff : item.IsBoundTo selection ↔ item.current.selection? = some selection := by
  rw [IsBoundTo, lookup_bindings]
  split
  · rename_i hflag
    rw [CurrentValues.kind_eq_flag_iff.mp hflag]
    simp [CurrentValues.selection?]
  · exact Option.some_inj

/-- Values that an argument takes are written with quotation marks. -/
theorem mark_mem_text_of_fits {argument : Argument} (hfits : selection.Fits argument) :
    '"' ∈ selection.text.toList := by
  cases selection with
  | listed values =>
    have hpresent : values ≠ [] := by
      cases argument with
      | text => exact List.ne_nil_of_length_eq_add_one hfits
      | list domain => exact hfits
      | absent | sourced => exact hfits.elim
    exact Text.Quoted.mark_mem_quoteAll hpresent
  | sourced values origins =>
    cases argument with
    | sourced domain originDomain => simp [Selection.text, Choice.mark_mem_text hfits.1]
    | absent | text | list => exact hfits.elim

theorem plainText_of_unbound (hunbound : ∀ selection, ¬ item.IsBoundTo selection) :
    item.plainText =
      if item.IsBare then item.keyword else item.keyword ++ " in " ++ item.variableName := by
  have hopen : item.current.selection? = none :=
    Option.eq_none_iff_forall_ne_some.mpr fun selection hselection ↦
      hunbound selection (isBoundTo_iff.mpr hselection)
  split
  · exact plainText_of_isBare ‹item.IsBare›
  · exact plainText_of_open ‹¬ item.IsBare› hopen

/-- Without quotation marks in names, the marks in the text are those of values. -/
theorem mark_mem_plainText_iff (hsuited : item.Suited) (hkeyword : '"' ∉ item.keyword.toList)
    (hvariable : '"' ∉ item.variableName.toList) :
    '"' ∈ item.plainText.toList ↔ ∃ selection, item.IsBoundTo selection := by
  constructor
  · intro hmark
    by_contra hunbound
    rw [plainText_of_unbound (not_exists.mp hunbound)] at hmark
    split at hmark
    · exact hkeyword hmark
    · simp [hkeyword, hvariable] at hmark
  · rintro ⟨selection, hbound⟩
    have hselection := isBoundTo_iff.mp hbound
    have hmark := mark_mem_text_of_fits (hsuited.fits hselection)
    rw [plainText_of_selection? hselection]
    simp [hmark]

/-- A text as it stands in an item that is negated or is not. -/
def signed (negated : Bool) (plain : String) : String :=
  if negated then "NOT (" ++ plain ++ ")" else plain

theorem text_of_enabled (henabled : item.disabled = false) :
    item.text = signed item.negated item.plainText := by
  rw [text, henabled]
  rfl

theorem mark_mem_signed_iff (negated : Bool) (plain : String) :
    '"' ∈ (signed negated plain).toList ↔ '"' ∈ plain.toList := by
  cases negated <;> simp [signed]

theorem filter?_eq_none_iff :
    item.filter? = none ↔ item.disabled = true ∨ item.current.IsEmpty := by
  unfold filter?
  split <;> simp_all

/-! ### What the views of an item have in common -/

/-- The views of an item that takes the argument agree on whether enough is selected in it. -/
structure ViewsAgree (argument : Argument) (item : Item) : Prop where
  /-- The item is empty if it takes something and its variable is bound to nothing. -/
  empty : item.current.IsEmpty ↔
    argument ≠ .absent ∧ item.bindings.lookup item.variableName = some none
  /-- The item binds its own variable, unless it takes nothing. -/
  names : item.bindings.names = if argument = .absent then [] else [item.variableName]
  filter : item.filter? = none ↔ item.disabled = true ∨ item.current.IsEmpty
  /-- The text of an enabled item shows the values that its variable is bound to. -/
  shown : item.disabled = false → ∀ selection, item.IsBoundTo selection →
    item.text = signed item.negated (item.keyword ++ " in " ++ selection.text)
  /-- Where nothing is bound, the text shows the variable at most. -/
  unshown : item.disabled = false → (∀ selection, ¬ item.IsBoundTo selection) →
    item.text = signed item.negated
      (if argument = .absent ∨ item.current.LacksBothSides then item.keyword
        else item.keyword ++ " in " ++ item.variableName)
  /-- Values are seen in the text by their quotation marks, if the names around them have none. -/
  marks : item.disabled = false → '"' ∉ item.keyword.toList → '"' ∉ item.variableName.toList →
    ('"' ∈ item.text.toList ↔ ∃ selection, item.IsBoundTo selection)

/-- The views of an item agree if what is selected in it belongs to its argument. -/
theorem views_agree (hsuited : item.Suited) : item.ViewsAgree item.shape := by
  have hflag : item.current.kind = .flag ↔ item.shape = .absent :=
    CurrentValues.kind_eq_flag_iff.trans hsuited.eq_flag_iff
  refine ⟨?_, ?_, filter?_eq_none_iff, fun henabled selection hbound ↦ ?_,
    fun henabled hunbound ↦ ?_, fun henabled hkeyword hvariable ↦ ?_⟩
  · rw [lookup_bindings, CurrentValues.isEmpty_iff, ne_eq, hsuited.eq_flag_iff,
      if_congr hflag rfl rfl]
    by_cases habsent : item.shape = .absent <;> simp [habsent]
  · rw [Bindings.names, entries_bindings, if_congr hflag rfl rfl]
    split <;> rfl
  · rw [text_of_enabled henabled, plainText_of_selection? (isBoundTo_iff.mp hbound)]
  · rw [text_of_enabled henabled, plainText_of_unbound hunbound]
    exact congrArg (signed item.negated) (if_congr (or_congr_left hsuited.eq_flag_iff) rfl rfl)
  · rw [text_of_enabled henabled, mark_mem_signed_iff]
    exact mark_mem_plainText_iff hsuited hkeyword hvariable

/-! ### Items that are handled -/

/-- The item has just been made, of a keyword or of a leaf that may be negated. -/
inductive Made (argument : Argument) : Item → Prop where
  | ofKeyword {keyword : Keyword} (hargument : keyword.argument = argument) (supply : Supply) :
    Made argument (Item.ofKeyword keyword supply).1
  | ofLeaf {entry : Leaf} (hargument : entry.argument = some argument) {negated : Bool}
    {supply rest : Supply} {item : Item}
    (hmade : Item.ofFilter (negateIf negated (.leaf entry)) supply = (.ok item, rest)) :
    Made argument item

/-- What can be done to an item: it is edited, or joins the tree on a pool. -/
inductive Handling where
  | edit (edit : ItemEdit)
  | join (target : PoolId) (pool : NamePool)

/-- The item after that. A refused edit leaves it as it is. -/
def handle (item : Item) : Handling → Item
  | .edit edit => (edit.apply item).toOption.getD item
  | .join target pool => (item.join target pool).1

/-- The item after one thing has been done to it after the other. -/
def handled (item : Item) (handlings : List Handling) : Item := handlings.foldl handle item

variable {argument : Argument}

theorem seed_of_ofLeaf {negated : Bool} {entry : Leaf} {supply rest : Supply}
    (hmade : Item.ofFilter (negateIf negated (.leaf entry)) supply = (.ok item, rest)) :
    ∃ seed, Seed.ofLeaf negated entry = .ok seed ∧ item = (Item.ofSeed seed supply).1 := by
  have hsame : Seed.ofFilter (negateIf negated (.leaf entry)) = Seed.ofLeaf negated entry := by
    cases negated <;> rfl
  rw [Item.ofFilter, hsame] at hmade
  cases hseed : Seed.ofLeaf negated entry with
  | error error => simp [hseed] at hmade
  | ok seed =>
    simp only [hseed, Prod.mk.injEq, Except.ok.injEq] at hmade
    exact ⟨seed, rfl, hmade.1.symm⟩

theorem shape_of_made (hmade : item.Made argument) : item.shape = argument := by
  cases hmade with
  | ofKeyword hargument supply => exact hargument
  | ofLeaf hargument hmade =>
    obtain ⟨seed, hseed, rfl⟩ := seed_of_ofLeaf hmade
    obtain ⟨shape, current, hshape, -, rfl⟩ := Seed.ofLeaf_eq_ok_iff.mp hseed
    exact Option.some.inj (hshape.symm.trans hargument)

/-- What is selected in a new item belongs to its argument. -/
theorem suited_of_made (hmade : item.Made argument) : item.Suited := by
  cases hmade with
  | ofKeyword hargument supply => exact CurrentValues.suits_ofArgument _
  | ofLeaf hargument hmade =>
    obtain ⟨seed, hseed, rfl⟩ := seed_of_ofLeaf hmade
    exact Seed.suited_of_ofLeaf hseed

theorem handle_of_applied {edit : ItemEdit} {edited : Item} (hedit : edit.apply item = .ok edited) :
    item.handle (.edit edit) = edited := by
  simp [handle, hedit, Except.toOption]

theorem handle_of_refused {edit : ItemEdit} {error : EditError}
    (hedit : edit.apply item = .error error) : item.handle (.edit edit) = item := by
  simp [handle, hedit, Except.toOption]

/-- What is done last is done to the item as everything before has left it. -/
theorem handled_append (item : Item) (handlings : List Handling) (last : Handling) :
    item.handled (handlings ++ [last]) = (item.handled handlings).handle last := by
  simp only [handled, List.foldl_append, List.foldl_cons, List.foldl_nil]

/-- What is done to an item changes neither its argument nor that its values belong to it. -/
theorem suited_handle (hsuited : item.Suited) (handling : Handling) :
    (item.handle handling).shape = item.shape ∧ (item.handle handling).Suited := by
  cases handling with
  | edit edit =>
    cases hedit : edit.apply item with
    | error error =>
      rw [handle_of_refused hedit]
      exact ⟨rfl, hsuited⟩
    | ok edited =>
      rw [handle_of_applied hedit]
      exact ⟨(ItemEdit.keeps_of_apply hedit).shape, ItemEdit.suited_of_apply hsuited hedit⟩
  | join target pool =>
    simp only [handle, Item.join]
    split <;> exact ⟨rfl, hsuited⟩

theorem suited_handled (hsuited : item.Suited) (handlings : List Handling) :
    (item.handled handlings).shape = item.shape ∧ (item.handled handlings).Suited := by
  induction handlings generalizing item with
  | nil => exact ⟨rfl, hsuited⟩
  | cons first rest ih =>
    obtain ⟨hshape, hfirst⟩ := suited_handle hsuited first
    obtain ⟨hsame, hrest⟩ := ih hfirst
    exact ⟨hsame.trans hshape, hrest⟩

/-- An item that is made for an argument takes that argument and holds values of its kind after
everything that is done to it: one text at most, and sides that are open or list something. Its
views agree then. An edit is refused exactly if it does not fit that kind, with the keyword and the
kind, and a refused edit leaves the item and every workspace around it as they are. -/
theorem views_agree_of_handled {made now : Item} (hmade : made.Made argument)
    {handlings : List Handling} (hnow : made.handled handlings = now) :
    now.shape = argument ∧ now.current.kind = argument.kind ∧
      now.current.kind = made.current.kind ∧
      (∀ entries, now.current = .text entries → entries.length ≤ 1) ∧
      (∀ values origins, now.current = .sourced values origins →
        values ≠ some [] ∧ origins ≠ some []) ∧
      now.ViewsAgree argument ∧
      ∀ edit : ItemEdit,
        (∀ error, edit.apply now = .error error ↔
          ¬ edit.Fits argument.kind ∧ error = ⟨now.keyword, argument.kind⟩) ∧
        (¬ edit.Fits argument.kind → made.handled (handlings ++ [.edit edit]) = now ∧
          ∀ (workspace : Workspace) (tree : String) (root : Element),
            workspace.item? tree now.id = .ok (root, now) →
              workspace.perform (.editItem tree now.id edit) =
                (.error (.edit ⟨now.keyword, argument.kind⟩), workspace)) := by
  obtain ⟨hshape, hsuited⟩ := suited_handled (suited_of_made hmade) handlings
  rw [hnow, shape_of_made hmade] at hshape
  rw [hnow] at hsuited
  have hsuits : now.current.Suits argument := hshape ▸ hsuited
  have hmadeSuits : made.current.Suits argument := shape_of_made hmade ▸ suited_of_made hmade
  refine ⟨hshape, hsuits.kind_eq, hsuits.kind_eq.trans hmadeSuits.kind_eq.symm,
    fun entries htext ↦ ?_, fun values origins hsides ↦ ?_, hshape ▸ views_agree hsuited,
    fun edit ↦ ?_⟩
  · rw [htext] at hsuits
    cases hsuits
    assumption
  · rw [hsides] at hsuits
    cases hsuits
    exact ⟨‹_›, ‹_›⟩
  have hedit : ∀ error, edit.apply now = .error error ↔
      ¬ edit.Fits argument.kind ∧ error = ⟨now.keyword, argument.kind⟩ := by
    rw [← hsuits.kind_eq]
    exact fun error ↦ ItemEdit.apply_eq_error_iff
  refine ⟨hedit, fun hfits ↦ ?_⟩
  have hrefused := (hedit _).mpr ⟨hfits, rfl⟩
  refine ⟨?_, fun workspace tree root hitem ↦ ?_⟩
  · rw [handled_append, hnow, handle_of_refused hrefused]
  · simp [Workspace.perform, Workspace.proceed, hitem, hrefused]

/-- A number of copies of which the origins let everything through. -/
def copiesAnywhere : Leaf :=
  ⟨"CardCount", "Card Count", some (.sourced ["1", "2"] ["Core"]), some "$count",
    some (.sourced (.among ["2"]) (.among [Choice.originWildcard]))⟩

/-- Free text is refused. Origins are given, but none at first, and the item moves to a tree that
has its variable already. -/
def copiesMoved : List Handling :=
  [.edit (.enterText "two"), .edit (.selectSides (some ["2"]) (some [])),
    .join ⟨1⟩ ⟨[], ["$count"], 0⟩, .edit (.selectSides (some ["2"]) (some ["Core"]))]

theorem views_agree_of_copiesMoved :
    ∃ made rest now,
      Item.ofFilter (negateIf true (.leaf copiesAnywhere)) ⟨⟨0⟩, .empty, 0⟩ = (.ok made, rest) ∧
        made.handled copiesMoved = now ∧
        now.shape = .sourced ["1", "2"] ["Core"] ∧ now.current.kind = .sourced ∧
        now.ViewsAgree (.sourced ["1", "2"] ["Core"]) ∧
        made.current.IsEmpty ∧ made.text = "NOT (CardCount in $count)" ∧
        ¬ now.current.IsEmpty ∧ now.text = "NOT (CardCount in \"2\" FROM \"Core\")" ∧
        (ItemEdit.enterText "two").apply now = .error ⟨"CardCount", .sourced⟩ := by
  obtain ⟨made, rest, now, hmade, hnow, hkeyword, hviews⟩ : ∃ made rest now,
      Item.ofFilter (negateIf true (.leaf copiesAnywhere)) ⟨⟨0⟩, .empty, 0⟩ = (.ok made, rest) ∧
        made.handled copiesMoved = now ∧ now.keyword = "CardCount" ∧
        made.current.IsEmpty ∧ made.text = "NOT (CardCount in $count)" ∧
        ¬ now.current.IsEmpty ∧ now.text = "NOT (CardCount in \"2\" FROM \"Core\")" :=
    ⟨_, _, _, rfl, rfl, rfl, by decide, by decide, by decide, by decide⟩
  obtain ⟨hshape, hkind, -, -, -, hagree, hedits⟩ := views_agree_of_handled (.ofLeaf rfl hmade) hnow
  have hrefused :=
    ((hedits (.enterText "two")).1 _).mpr ⟨by simp [ItemEdit.Fits, Argument.kind], rfl⟩
  rw [hkeyword] at hrefused
  exact ⟨made, rest, now, hmade, hnow, hshape, hkind, hagree, hviews.1, hviews.2.1, hviews.2.2.1,
    hviews.2.2.2, hrefused⟩

end Item

end Editor

end CardQuery
