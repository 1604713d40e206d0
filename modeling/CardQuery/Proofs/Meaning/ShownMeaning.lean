import CardQuery.Proofs.Editor.KnownItems
import CardQuery.Proofs.Meaning.Reopened
import CardQuery.Proofs.Printing.ShownHeads

/-!
What the text of a tree means. The values of an item come to a query by two ways: they are bound to
its variable, or they are written in the text, read and built again. What a tree shows, pruned, is
in every reading what it says with its values (`read_prune_shown?`), as long as the values of its
items are read again as they are. So where the text of an element of a furnished workspace can be
read and built, both ways lead to the same leaves and truths (`Workspace.boundFilter?_of_ofText`).
A keyword that is not one word of the language may be read as something else, and a side that lists
wildcards only is read as one that lets everything through
(`Workspace.not_boundFilter?_of_ofText`).
-/

set_option autoImplicit false
set_option relaxedAutoImplicit false

namespace CardQuery

theorem Leaf.isUsable_congr {entry other : Leaf} (hsame : entry.anonymous = other.anonymous) :
    entry.isUsable = other.isUsable := by
  change entry.anonymous.isUsable = other.anonymous.isUsable
  rw [hsame]

namespace Editor

/-- Both sides are selected, and one of them lists nothing but wildcards. -/
def CurrentValues.ListsWildcardsOnly : CurrentValues → Prop
  | sourced (some values) (some origins) =>
    (∀ value ∈ values, value = Choice.valueWildcard) ∨
      ∀ origin ∈ origins, origin = Choice.originWildcard
  | _ => False

/-! ### Items -/

theorem CurrentValues.reread_of_not_listsWildcardsOnly {current : CurrentValues}
    {selection : Selection} (hsides : ¬ current.ListsWildcardsOnly)
    (hselection : current.selection? = some selection) : selection.reread = selection := by
  cases binds_of_selection? hselection with
  | text | list => rfl
  | sourced values origins =>
    simp only [ListsWildcardsOnly, not_or] at hsides
    obtain ⟨hvalue, horigin⟩ := hsides
    push Not at hvalue horigin
    rw [Selection.reread, Choice.reread, Choice.reread,
      Choice.ofLiterals_eq_among_iff.mpr ⟨rfl, hvalue⟩,
      Choice.ofLiterals_eq_among_iff.mpr ⟨rfl, horigin⟩]

/-- The leaf that an item shows is its own, but for the variable. -/
theorem Item.anonymous_shownLeaf {item : Item} (hrereads : item.Rereads) :
    item.shownLeaf.anonymous = item.ownLeaf.anonymous := by
  cases hselection : item.current.selection? with
  | some selection =>
    simp [shownLeaf, ownLeaf, Leaf.anonymous, hselection, hrereads.reread selection hselection]
  | none =>
    rw [shownLeaf_of_open hselection, ownLeaf, hselection]
    rfl

theorem Item.isUsable_ownLeaf_of_isEmpty {item : Item} (hsuited : item.Suited)
    (hempty : item.current.IsEmpty) : item.ownLeaf.isUsable = false := by
  obtain ⟨hflag, hnone⟩ := CurrentValues.isEmpty_iff.mp hempty
  have hshape : item.shape ≠ .absent := mt hsuited.eq_flag_iff.mpr hflag
  rw [ownLeaf, hnone, leaf]
  cases hargument : item.shape with
  | absent => exact absurd hargument hshape
  | text | list | sourced => rfl

/-- What an item shows, pruned, is read as what it says with its values. -/
theorem Item.read_prune_shown? {α : Type} (reading : Reading α) {item : Item}
    (hreread : item.disabled = false → item.Rereads) :
    (item.shown?.bind fun filter ↦ filter.prune.map reading.read) =
      item.ownFilter?.map reading.read := by
  unfold shown? ownFilter?
  cases hdisabled : item.disabled with
  | true => rfl
  | false =>
    have hsame := Item.anonymous_shownLeaf (hreread hdisabled)
    have husable := Leaf.isUsable_congr hsame
    simp only [Bool.false_eq_true, if_false, false_or, Option.bind_some,
      reading.read_prune_negateIf, Filter.prune]
    by_cases hunset : item.current.IsEmpty
    · rw [if_pos hunset, husable,
        Item.isUsable_ownLeaf_of_isEmpty (hreread hdisabled).suited hunset]
      rfl
    · have hvalue : reading.leaf item.shownLeaf = reading.leaf item.ownLeaf := by
        rw [← reading.leaf_anonymous, hsame, reading.leaf_anonymous]
      rw [if_neg hunset, husable, Item.isUsable_ownLeaf hunset (hreread hdisabled), if_pos rfl,
        Option.map_some, Option.map_some, Option.map_some, reading.read_negateIf]
      exact congrArg (fun value ↦ some (reading.negateIf item.negated value)) hvalue

/-- Items of keywords of the registry are regular if their heads mean keywords. -/
theorem Item.regular_of_means {registry : Registry} {subject : Subject} {item : Item}
    (hword : Lexer.IsWord item.keyword) (hfurnished : item.leaf.Furnished registry)
    (hmeans : item.head.Means registry subject) : item.Regular registry subject := by
  obtain ⟨keyword, hlookup, hname, hdescription, hargument⟩ := hfurnished.keyword
  obtain ⟨other, hnames, -⟩ := hmeans
  rw [Grammar.names_iff_lookup] at hnames
  have hsame : registry.lookup item.keyword = some keyword :=
    (congrArg registry.lookup hname).trans hlookup
  obtain rfl : keyword = other := Option.some.inj (hsame.symm.trans hnames.1)
  have hitem : item.keyword = keyword.name := hname
  exact ⟨keyword, hlookup, hnames.2, hitem ▸ hword, hname, hdescription, Option.some.inj hargument⟩

/-! ### Elements -/

/-- What an element shows, pruned, is read as what it says with its values, if the values of its
visible items are read again as they are. -/
theorem Element.read_prune_shown? {α : Type} (reading : Reading α) {element : Element}
    (hreread : ∀ item ∈ element.visibleItems, item.Rereads) :
    (element.shown?.bind fun filter ↦ filter.prune.map reading.read) =
      element.ownFilter?.map reading.read := by
  induction element with
  | hitem entry =>
    rw [shown?_item, ownFilter?_item]
    exact Item.read_prune_shown? reading fun henabled ↦ hreread entry (by simp [henabled])
  | hbox frame children ih =>
    rw [shown?_box, ownFilter?_box, reading.follows_prune.frame_filter?,
      reading.read_frame_filter?, List.map_map, List.map_map]
    cases hdisabled : frame.disabled with
    | true => rfl
    | false =>
      have hchildren : children.map ((fun part : Option Filter ↦
            part.bind fun filter ↦ filter.prune.map reading.read) ∘ shown?) =
          children.map (Option.map reading.read ∘ ownFilter?) := by
        refine List.map_congr_left fun child hchild ↦ ih child hchild fun item hitem ↦ ?_
        refine hreread item ?_
        rw [visibleItems_box, hdisabled]
        exact List.mem_flatMap_of_mem hchild hitem
      rw [hchildren]

namespace Workspace

variable {registry : Registry} {subject : Subject} {workspace : Workspace} {element : Element}
  {again : Filter}

/-- What the text of an element is read as, if it is read at all, is what the element shows. -/
theorem Furnished.shown?_of_ofText (hfurnished : Furnished registry workspace)
    (helement : workspace.Has element)
    (hwords : ∀ item ∈ element.visibleItems, Lexer.IsWord item.keyword)
    (hread : Filter.ofText registry subject element.text = .ok again) :
    ∃ shown, element.shown? = some shown ∧ again = .wrapped shown := by
  have hleaf : ∀ item ∈ element.visibleItems, item.leaf.Furnished registry := fun item hitem ↦
    hfurnished.leaf item (helement.items_subset (element.visibleItems_subset hitem))
  have hvariables : ∀ item ∈ element.visibleItems, Lexer.IsVariable item.variableName :=
    fun item hitem ↦ (hleaf item hitem).isVariable _ rfl
  have hsuited : ∀ item ∈ element.visibleItems, item.Suited := fun item hitem ↦
    hfurnished.suited item (helement.items_subset (element.visibleItems_subset hitem))
  have hmeans := Element.means_of_ofText hsuited hwords hvariables hread
  have hshows := Element.shows_of_visible
    (fun item hitem ↦ Item.regular_of_means (hwords item hitem) (hleaf item hitem)
      (hmeans item hitem))
    hsuited hvariables
    (fun item hitem ↦ item.not_lacksBothSides_of_means (hsuited item hitem)
      (hleaf item hitem).known (hmeans item hitem))
  cases hshown : element.shown? with
  | none =>
    -- Nothing is shown in an empty text, and that is no filter.
    rw [hshown] at hshows
    obtain ⟨inner, -, hderives⟩ := Grammar.derives_of_ofTokens hread
    have hempty : element.text = "" := hshows
    rw [hempty] at hderives
    exact absurd Lexer.symbolsOf_nil hderives.ne_nil
  | some shown =>
    rw [hshown] at hshows
    have hsame := (Writes.chain .or hshows).ofText
    exact ⟨shown, rfl, (Except.ok.inj (hsame.symm.trans hread)).symm⟩

/-- In a furnished workspace, the text of an element is read and built again on any pool. The
keywords of its visible items are words, and no side of theirs lists nothing but wildcards while
both are selected. Then the tree that is built says something with its values exactly if the element
does. Both have the same leaves in the same order, up to variables, with the same values, and are
as true as each other wherever leaves are true by keyword and values. -/
theorem boundFilter?_of_ofText {otherSubject : Subject} {supply rest : Supply} {rebuilt : Element}
    (hfurnished : Furnished registry workspace) (helement : workspace.Has element)
    (hwords : ∀ item ∈ element.visibleItems, Lexer.IsWord item.keyword)
    (hwildcards : ∀ item ∈ element.visibleItems, ¬ item.current.ListsWildcardsOnly)
    (hread : Filter.ofText registry subject element.text = .ok again)
    (hbuild : Element.ofFilter otherSubject (some again) supply = (.ok rebuilt, rest)) :
    (rebuilt.boundFilter? = none ↔ element.boundFilter? = none) ∧
      ∀ rebound bound, rebuilt.boundFilter? = some rebound → element.boundFilter? = some bound →
        rebound.leaves.map Leaf.anonymous = bound.leaves.map Leaf.anonymous ∧
        ∀ interpret, rebound.truth interpret = bound.truth interpret := by
  obtain ⟨shown, hshown, rfl⟩ := hfurnished.shown?_of_ofText helement hwords hread
  have hrereads : ∀ item ∈ element.visibleItems, item.Rereads := fun item hitem ↦
    ⟨hfurnished.suited item (helement.items_subset (element.visibleItems_subset hitem)),
      fun _ ↦ CurrentValues.reread_of_not_listsWildcardsOnly (hwildcards item hitem)⟩
  obtain ⟨tree, htree, hmember⟩ := helement
  have hnames := (hfurnished.tidy.names_nodup htree).sublist
    ((Element.items_sublist hmember).map Item.variableName)
  refine Reading.same_of_read fun reading ↦ ?_
  have hpruned := Element.read_prune_shown? reading hrereads
  rw [hshown, Option.bind_some] at hpruned
  rw [Element.boundFilter?_eq_ownFilter? hnames, ← hpruned]
  exact reading.read_boundFilter? hbuild

/-- Nested boxes with a two-sided item say the same in their text as with their values. -/
theorem boundFilter?_of_ofText_noVampires :
    ∃ root again rebuilt rest rebound bound, (empty.run noVampires).Has root ∧
      Filter.ofText Registry.builtin .card root.text = .ok again ∧
      Element.ofFilterAlone .card (some again) ⟨1⟩ 0 = (.ok rebuilt, rest) ∧
      rebuilt.boundFilter? = some rebound ∧ root.boundFilter? = some bound ∧
      rebound.leaves.map Leaf.anonymous = bound.leaves.map Leaf.anonymous ∧
      ∀ interpret, rebound.truth interpret = bound.truth interpret := by
  obtain ⟨tree, htrees⟩ : ∃ tree, (empty.run noVampires).trees = [tree] :=
    List.length_eq_one_iff.mp (by decide +kernel)
  have hseen : (empty.run noVampires).trees.map (fun tree ↦
      (tree.2.shown?, tree.2.boundFilter?.isSome, tree.2.visibleItems.map Item.current)) =
        [(some shownNoVampires, true,
          [.list ["Vampire"], .sourced (some ["2"]) (some ["My Deck"]), .list ["Imbued"]])] := by
    decide +kernel
  rw [htrees, List.map_singleton, List.singleton_inj, Prod.mk.injEq, Prod.mk.injEq] at hseen
  obtain ⟨hshown, hsaid, hcurrents⟩ := hseen
  have hfurnished : Furnished Registry.builtin (empty.run noVampires) :=
    Furnished.empty.run (by simp [noVampires, Command.filter?])
      (by simpa [noVampires, Command.keyword?] using
        ⟨⟨"CardType", rfl⟩, ⟨"CardCount", rfl⟩, ⟨"CardType", rfl⟩⟩)
  have hroot : (empty.run noVampires).Has tree.2 :=
    ⟨tree, by simp [htrees], tree.2.mem_all_self⟩
  have hregular : ∀ item ∈ tree.2.items, item.Regular Registry.builtin .card := fun item hitem ↦
    regular_of_noVampires item (hroot.items_subset hitem)
  have hcurrent : ∀ item ∈ tree.2.visibleItems, item.current = .list ["Vampire"] ∨
      item.current = .sourced (some ["2"]) (some ["My Deck"]) ∨
        item.current = .list ["Imbued"] := by
    intro item hitem
    have hmember := List.mem_map_of_mem (f := Item.current) hitem
    rw [hcurrents] at hmember
    simpa using hmember
  have hread : Filter.ofText Registry.builtin .card tree.2.text =
      .ok (.wrapped shownNoVampires) := by
    have hshows := Element.shows hregular
      (fun item hitem ↦ hfurnished.suited item (hroot.items_subset hitem))
      (fun item hitem ↦ (hfurnished.leaf item (hroot.items_subset hitem)).isVariable _ rfl)
      fun item hitem ↦ by
        rcases hcurrent item hitem with heq | heq | heq <;> simp [heq, CurrentValues.LacksBothSides]
    rw [hshown] at hshows
    exact (Writes.chain .or hshows).ofText
  obtain ⟨rebuilt, rest, hbuild⟩ : ∃ rebuilt rest,
      Element.ofFilterAlone .card (some (.wrapped shownNoVampires)) ⟨1⟩ 0 = (.ok rebuilt, rest) :=
    ⟨_, _, rfl⟩
  have hwords : ∀ item ∈ tree.2.visibleItems, Lexer.IsWord item.keyword := by
    intro item hitem
    obtain ⟨keyword, -, -, hword, hname, -⟩ := hregular item (tree.2.visibleItems_subset hitem)
    exact hname ▸ hword
  have hwildcards : ∀ item ∈ tree.2.visibleItems, ¬ item.current.ListsWildcardsOnly := by
    intro item hitem
    rcases hcurrent item hitem with heq | heq | heq <;>
      simp [heq, CurrentValues.ListsWildcardsOnly, Choice.valueWildcard, Choice.originWildcard]
  obtain ⟨hnone, hsame⟩ :=
    boundFilter?_of_ofText hfurnished hroot hwords hwildcards hread hbuild
  obtain ⟨bound, hbound⟩ := Option.isSome_iff_exists.mp hsaid
  obtain ⟨rebound, hrebound⟩ : ∃ rebound, rebuilt.boundFilter? = some rebound :=
    Option.ne_none_iff_exists'.mp fun hempty ↦ by simpa [hbound] using hnone.mp hempty
  exact ⟨tree.2, _, rebuilt, rest, rebound, bound, hroot, hread, hbuild, hrebound, hbound,
    hsame rebound bound hrebound hbound⟩

/-- Any number of copies in one deck, selected by the wildcard. -/
def anyCopiesInDeck : List Command :=
  [.newBox "main" .card, .addItem "main" ⟨0⟩ countKeyword,
    .editItem "main" ⟨1⟩ (.selectSides (some ["-1"]) (some ["My Deck"]))]

def flagKeyword (name : String) : Keyword := ⟨name, name, "", [.card], .absent, "flag", none⟩

/-- Keywords of which one is written like a filter of the others. -/
def registryOfAlternatives : Registry :=
  ⟨⟨none, none⟩, [flagKeyword "A", flagKeyword "B", flagKeyword "A OR B"]⟩

/-- An item of the keyword that is written like a filter. -/
def alternativeItem : List Command :=
  [.newBox "main" .card, .addItem "main" ⟨0⟩ (flagKeyword "A OR B")]

/-- Of all keywords, only `A` is true. -/
def onlyA (keyword : String) (_ : Option Selection) : Truth :=
  if keyword = "A" then .yes else .no

/-- What a text is read as may say something else than the element: if a side lists wildcards only,
and if a keyword is not one word. -/
theorem not_boundFilter?_of_ofText :
    (∃ root again rebuilt rest, Registry.builtin.fault = none ∧
      Furnished Registry.builtin (empty.run anyCopiesInDeck) ∧
      (empty.run anyCopiesInDeck).Has root ∧
      Filter.ofText Registry.builtin .card root.text = .ok again ∧
      Element.ofFilterAlone .card (some again) ⟨1⟩ 0 = (.ok rebuilt, rest) ∧
      root.boundFilter? ≠ none ∧ rebuilt.boundFilter? = none) ∧
    ∃ root again rebuilt rest rebound bound, registryOfAlternatives.fault = none ∧
      Furnished registryOfAlternatives (empty.run alternativeItem) ∧
      (empty.run alternativeItem).Has root ∧
      Filter.ofText registryOfAlternatives .card root.text = .ok again ∧
      Element.ofFilterAlone .card (some again) ⟨1⟩ 0 = (.ok rebuilt, rest) ∧
      rebuilt.boundFilter? = some rebound ∧ root.boundFilter? = some bound ∧
      ∃ interpret, rebound.truth interpret = .yes ∧ bound.truth interpret = .no := by
  constructor
  · obtain ⟨root, htrees, htext, hbound⟩ : ∃ root,
        (empty.run anyCopiesInDeck).trees = [("main", root)] ∧
          root.text = "CardCount in \"-1\" FROM \"My Deck\"" ∧ root.boundFilter? ≠ none :=
      ⟨_, rfl, by rfl, by decide⟩
    have hfurnished : Furnished Registry.builtin (empty.run anyCopiesInDeck) :=
      Furnished.empty.run (by simp [anyCopiesInDeck, Command.filter?])
        (by simpa [anyCopiesInDeck, Command.keyword?] using ⟨"CardCount", rfl⟩)
    have hline : root.text = countKeyword.name ++ " in " ++
        (Selection.sourced (.among ["-1"]) (.among ["My Deck"])).text := by
      rw [htext]
      decide
    have hfits : (Selection.sourced (.among ["-1"]) (.among ["My Deck"])).Fits
        countKeyword.argument := ⟨by decide, by decide⟩
    have hfound : Grammar.Names Registry.builtin .card countKeyword.name countKeyword :=
      Grammar.names_iff_lookupFor.mpr rfl
    have hread := ofText_fitting hfound isWord_countKeyword hfits
    rw [← hline] at hread
    exact ⟨root, _, _, _, Registry.fault_builtin, hfurnished,
      ⟨("main", root), by simp [htrees], root.mem_all_self⟩, hread, rfl, hbound, by rfl⟩
  · obtain ⟨root, bound, htrees, htext, hbound, hfalse⟩ : ∃ root bound,
        (empty.run alternativeItem).trees = [("main", root)] ∧ root.text = "A OR B" ∧
          root.boundFilter? = some bound ∧ bound.truth onlyA = .no :=
      ⟨_, _, rfl, by rfl, by rfl, by decide⟩
    have hfurnished : Furnished registryOfAlternatives (empty.run alternativeItem) :=
      Furnished.empty.run (by simp [alternativeItem, Command.filter?])
        (by simpa [alternativeItem, Command.keyword?] using ⟨"A OR B", rfl⟩)
    have hwrites : ∀ {name : String}, Lexer.IsWord name →
        registryOfAlternatives.lookupFor .card name = some (flagKeyword name) →
        Writes registryOfAlternatives .card .term name
          (.leaf (Grammar.leafOf (flagKeyword name) none none)) := fun hword hfound ↦
      ⟨_, .primary (.part (.bare (Grammar.names_iff_lookupFor.mpr hfound) rfl)), hword.spells⟩
    have hwordA : Lexer.IsWord "A" :=
      Lexer.isWord_of_symbol rfl (by decide) (by decide) (by simp) (by decide)
    have hwordB : Lexer.IsWord "B" :=
      Lexer.isWord_of_symbol rfl (by decide) (by decide) (by simp) (by decide)
    have hread := (((hwrites hwordA rfl).chain .or).grow (hwrites hwordB rfl)).ofText
    have hline : "A" ++ separator .or ++ "B" = root.text := by
      rw [htext]
      decide
    rw [hline] at hread
    exact ⟨root, _, _, _, _, bound, by decide, hfurnished,
      ⟨("main", root), by simp [htrees], root.mem_all_self⟩, hread, rfl, by rfl, hbound, onlyA,
      by decide, hfalse⟩

end Workspace

end Editor

end CardQuery
