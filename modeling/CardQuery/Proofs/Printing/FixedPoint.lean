import CardQuery.Proofs.Editor.BuildNames
import CardQuery.Proofs.Editor.KnownItems
import CardQuery.Proofs.Lexing.LetterCase
import CardQuery.Proofs.Printing.Reshown

/-!
The text of a tree is a fixed point. A tree that has been built from a text is flat, its items are
of keywords that are written as words, their values are read again as they are, and only unset items
have wished for variables. So its own text is read and built, and gives the same boxes and the same
items with the same variables and values (`rebuilt_of_text`). The one thing that is lost is a side
that is selected while the other one is open: the text shows the variable in its place, and the item
that is made of it has no side left to show.
-/

set_option autoImplicit false
set_option relaxedAutoImplicit false

namespace CardQuery

variable {registry : Registry} {subject : Subject} {text : String} {whole : Filter}

/-! ### Leaves that have been read -/

namespace Grammar

variable {word : List Symbol} {entry : Leaf}

/-- The keyword of a part is found by its name, and written as one word like the name that the part
was read with. -/
theorem Part.exists_keyword (hpart : Part registry subject word entry) {characters : List Char}
    (hinside : word ⊆ Lexer.symbolsOf characters) :
    ∃ keyword, registry.lookup keyword.name = some keyword ∧ keyword.AppliesTo subject ∧
      Lexer.IsWord keyword.name ∧
      entry = leafOf keyword entry.variableName entry.selection := by
  obtain ⟨name, keyword, hmember, hname, hentry⟩ := hpart.names
  have hlookup := hname.lookup_name
  obtain ⟨before, after, -, -, hsame, happlies⟩ := hname
  exact ⟨keyword, hlookup, happlies, Lexer.isWord_of_foldCase (hinside hmember) hsame, hentry⟩

end Grammar

namespace Editor

/-! ### Items of a text -/

/-- A seed of a text wishes for no variable if its values are set. -/
theorem wish_of_offers (hread : Filter.ofText registry subject text = .ok whole) {seed : Seed}
    (hoffers : Offers whole seed) (hset : ¬ seed.current.IsEmpty) : seed.wish = none := by
  obtain ⟨negated, entry, hentry, hseed⟩ := hoffers
  obtain ⟨part, hpart, -⟩ := Grammar.exists_part_of_ofText hread hentry
  obtain ⟨argument, current, -, rfl, hheld⟩ := Seed.holds_of_ofLeaf hseed
  rcases hpart.assigned with ⟨hnone, -⟩ | ⟨name, -, hselection, hargument⟩
  · exact hnone
  · have husable : entry.isUsable = false := by
      unfold Leaf.isUsable
      split <;> simp_all
    rw [husable, if_neg Bool.false_ne_true] at hheld
    exact absurd hheld hset

/-- What the item shows can be read again, and means the item. -/
structure Item.Legible (registry : Registry) (subject : Subject) (item : Item) : Prop where
  regular : item.Regular registry subject
  isVariable : Lexer.IsVariable item.variableName
  rereads : item.Rereads

theorem Item.Sown.legible (hread : Filter.ofText registry subject text = .ok whole) {seed : Seed}
    (hoffers : Offers whole seed) {item : Item} (hsown : item.Sown seed) :
    item.Legible registry subject where
  regular := by
    obtain ⟨entry, hentry, hname, hdescription, hargument⟩ := hsown.exists_leaf hoffers
    obtain ⟨part, hpart, hinside⟩ := Grammar.exists_part_of_ofText hread hentry
    obtain ⟨keyword, hlookup, happlies, hword, heq⟩ := hpart.exists_keyword hinside
    rw [heq] at hname hdescription hargument
    exact ⟨keyword, hlookup, happlies, hword, hname, hdescription,
      (Option.some.inj hargument).symm⟩
  isVariable := by
    rcases hsown.variableName with hwished | ⟨number, hnumbered⟩
    · obtain ⟨entry, hentry, hwish⟩ := hoffers.wish
      exact isVariable_of_ofText hread hentry (hwish.symm.trans hwished)
    · rw [hnumbered]
      exact isVariable_numbered number
  rereads := hsown.rereads hoffers

theorem Element.legible_of_build (hread : Filter.ofText registry subject text = .ok whole)
    {supply rest : Supply} {element : Element}
    (hbuild : ofFilter subject (some whole) supply = (.ok element, rest)) :
    ∀ item ∈ element.items, item.Legible registry subject := by
  intro item hitem
  obtain ⟨seed, hoffers, hsown⟩ := sown_of_build hbuild item hitem
  exact hsown.legible hread (offersOf_some.mp hoffers)

/-! ### Pools of their own -/

namespace Element

variable {filter again : Filter} {outline : Outline} {poolId : PoolId} {nextId : Nat}
  {element : Element} {rest : Supply}

/-- The variables of what is drawn again are those of the unset items. -/
theorem mem_variableNames_of_redrawn (hagain : Outline.Whole again element.redrawn)
    {name : String} :
    name ∈ again.variableNames ↔
      ∃ entry ∈ element.items, entry.current.IsEmpty ∧ entry.variableName = name := by
  rw [hagain.mem_variableNames, seeds_redrawn]
  simp [Item.reseed]

/-- The pool of what is drawn again follows the pool of the tree that it is drawn of. -/
theorem follows_reservedPool (hwhole : Outline.Whole filter outline)
    (hdrawn : ofOutline subject outline ⟨poolId, reservedPool (some filter), nextId⟩ =
      (element, rest))
    (hagain : Outline.Whole again element.redrawn)
    (hwishes : ∀ seed ∈ outline.seeds, ¬ seed.current.IsEmpty → seed.wish = none) :
    (reservedPool (some filter)).Follows (reservedPool (some again)) where
  reserved := by
    intro name hname
    rw [reserved_reservedPool] at hname ⊢
    obtain ⟨seed, hseed, hwish⟩ := hwhole.mem_variableNames.mp hname
    have hreserved : name ∈ (reservedPool (some filter)).reserved := by
      rwa [reserved_reservedPool]
    have hitem := exists_item_of_wish subject ⟨poolId, reservedPool (some filter), nextId⟩ rfl hseed
      hwish hreserved
    rw [hdrawn] at hitem
    obtain ⟨entry, hentry, rfl, own, hown, hgranted, hsame⟩ := hitem
    refine (mem_variableNames_of_redrawn hagain).mpr ⟨entry, hentry, ?_, rfl⟩
    rw [hsame]
    by_contra hset
    simp [hwishes own hown hset] at hgranted
  claimed := fun _ ↦ Iff.rfl
  counter_le := Nat.le_refl _
  used number _ hlt := absurd hlt (Nat.not_lt_zero number)

/-- A tree with a pool of its own is drawn again with the same content, once it is settled. -/
theorem content_of_redrawn (hwhole : Outline.Whole filter outline)
    (hdrawn : ofOutline subject outline ⟨poolId, reservedPool (some filter), nextId⟩ =
      (element, rest))
    (hagain : Outline.Whole again element.redrawn)
    (hwishes : ∀ seed ∈ outline.seeds, ¬ seed.current.IsEmpty → seed.wish = none)
    (otherPool : PoolId) (otherNext : Nat) :
    (ofOutline subject element.redrawn
        ⟨otherPool, reservedPool (some again), otherNext⟩).1.content =
      element.settled.content := by
  have hnames : (element.items.map Item.variableName).Nodup := by
    have hall := (ofOutline_drawn subject outline
      ⟨poolId, reservedPool (some filter), nextId⟩).names.nodup
    rwa [hdrawn, Node.names_nodes] at hall
  have hfree : ∀ entry ∈ element.items, ¬ entry.current.IsEmpty →
      entry.variableName ∉ (reservedPool (some again)).reserved := by
    intro entry hentry hset hreserved
    rw [reserved_reservedPool, mem_variableNames_of_redrawn hagain] at hreserved
    obtain ⟨other, hother, hunset, hsame⟩ := hreserved
    obtain rfl := List.inj_on_of_nodup_map hnames hother hentry hsame
    exact hset hunset
  have hcontent := ofOutline_redrawn subject outline
    ⟨poolId, reservedPool (some filter), nextId⟩
    ⟨otherPool, reservedPool (some again), otherNext⟩
    (follows_reservedPool hwhole hdrawn hagain hwishes) hwishes (by rwa [hdrawn])
  rw [hdrawn] at hcontent
  exact hcontent.1

/-! ### Reading and building again -/

/-- A text has been read and built, and no item of the tree lacks both of its sides. Then the text
of the tree is read and built too, and gives the same tree with the same variables and values, but
for the sides that are selected while the other one is open. If there are none, it gives the same
text. -/
theorem rebuilt_of_text (hread : Filter.ofText registry subject text = .ok filter)
    (hbuild : ofFilterAlone subject (some filter) poolId nextId = (.ok element, rest))
    (hsides : ∀ entry ∈ element.items, ¬ entry.current.LacksBothSides) :
    ∃ again, Filter.ofText registry subject element.text = .ok again ∧
      ∀ otherPool otherNext, ∃ rebuilt otherRest,
        ofFilterAlone subject (some again) otherPool otherNext = (.ok rebuilt, otherRest) ∧
        rebuilt.content = element.settled.content ∧ rebuilt.bindings = element.bindings ∧
        rebuilt.text = element.settled.text ∧
        ((∀ entry ∈ element.items, ¬ entry.current.IsHalfSet) →
          rebuilt.content = element.content ∧ rebuilt.text = element.text) := by
  have hitems := legible_of_build hread hbuild
  -- The tree is flat, so what it shows has its own outline.
  obtain ⟨outline, houtline, hdrawn⟩ := ofFilter_eq_ok hbuild
  have hwhole := Outline.whole_of_complete houtline
  have hwishes : ∀ seed ∈ outline.seeds, ¬ seed.current.IsEmpty → seed.wish = none :=
    fun seed hseed ↦ wish_of_offers hread (hwhole.offers seed hseed)
  have hflat : FlatRoot element := by
    have hroot : FlatRoot
        (ofOutline subject outline ⟨poolId, reservedPool (some filter), nextId⟩).1 :=
      flatRoot_of_whole hwhole _
    rwa [hdrawn] at hroot
  obtain ⟨shown, hshown, hcomplete⟩ := hflat.ofFilter_shown
    fun entry hentry ↦ (hitems entry hentry).rereads
  -- What it shows is what its text is read as.
  have hwrites := Element.shows (fun entry hentry ↦ (hitems entry hentry).regular)
    (fun entry hentry ↦ (hitems entry hentry).rereads.suited)
    (fun entry hentry ↦ (hitems entry hentry).isVariable)
    fun entry hentry ↦ hsides entry (element.visibleItems_subset hentry)
  rw [hshown] at hwrites
  have hagain : Outline.ofFilter (.wrapped shown) = .complete element.redrawn := by
    rw [Outline.ofFilter, hcomplete]
  refine ⟨.wrapped shown, (Writes.chain .or hwrites).ofText, fun otherPool otherNext ↦ ?_⟩
  have hcontent := content_of_redrawn hwhole hdrawn (Outline.whole_of_complete hagain) hwishes
    otherPool otherNext
  refine ⟨_, _, by simp only [ofFilterAlone, ofFilter, hagain]; rfl, hcontent,
    (bindings_congr hcontent).trans element.bindings_settled, text_congr hcontent,
    fun hhalf ↦ ?_⟩
  rw [settled_eq_self hhalf] at hcontent
  exact ⟨hcontent, text_congr hcontent⟩

/-- A value, or another one that is left to a variable. -/
def vampiresOrOthers : Filter :=
  .wrapped (.join (.leaf (Grammar.leafOf typeKeyword none (some (.listed ["Vampire"])))) .or
    (.leaf (Grammar.leafOf typeKeyword (some "$var0") none)))

theorem ofText_vampiresOrOthers :
    Filter.ofText Registry.builtin .card "CardType in \"Vampire\" OR CardType in $var0" =
      .ok vampiresOrOthers := by
  have hfound : Grammar.Names Registry.builtin .card typeKeyword.name typeKeyword :=
    Grammar.names_iff_lookupFor.mpr rfl
  have hfits : (Selection.listed ["Vampire"]).Fits typeKeyword.argument := List.cons_ne_nil _ _
  have hline : "CardType in \"Vampire\" OR CardType in $var0" =
      typeKeyword.name ++ " in " ++ (Selection.listed ["Vampire"]).text ++ separator .or ++
        (typeKeyword.name ++ " in " ++ NamePool.numbered 0) := by decide
  have hfirst := writes_fitting hfound isWord_typeKeyword hfits
  have hsecond := writes_variable hfound isWord_typeKeyword (by decide) (isVariable_numbered 0)
  rw [hline]
  exact ((hfirst.term.chain .or).grow hsecond.term).ofText

theorem rebuilt_of_vampiresOrOthers :
    ∃ element rest again rebuilt otherRest,
      ofFilterAlone .card (some vampiresOrOthers) ⟨0⟩ 0 = (.ok element, rest) ∧
      element.items.map Item.variableName = ["$var1", "$var0"] ∧
      Filter.ofText Registry.builtin .card element.text = .ok again ∧
      ofFilterAlone .card (some again) ⟨0⟩ 0 = (.ok rebuilt, otherRest) ∧
      rebuilt.content = element.content ∧ rebuilt.bindings = element.bindings ∧
      rebuilt.text = element.text := by
  obtain ⟨element, rest, hbuild, hcurrent, hnames⟩ : ∃ element rest,
      ofFilterAlone .card (some vampiresOrOthers) ⟨0⟩ 0 = (.ok element, rest) ∧
        element.items.map Item.current = [.list ["Vampire"], .list []] ∧
        element.items.map Item.variableName = ["$var1", "$var0"] :=
    ⟨_, _, rfl, rfl, by decide +kernel⟩
  have hlist : ∀ entry ∈ element.items, ∃ values, entry.current = .list values := by
    intro entry hentry
    have hmember := List.mem_map_of_mem (f := Item.current) hentry
    rw [hcurrent, List.mem_pair] at hmember
    rcases hmember with heq | heq <;> exact ⟨_, heq⟩
  have hsides : ∀ entry ∈ element.items, ¬ entry.current.LacksBothSides := by
    intro entry hentry
    obtain ⟨values, heq⟩ := hlist entry hentry
    simp [heq, CurrentValues.LacksBothSides]
  obtain ⟨again, hread, hagain⟩ := rebuilt_of_text ofText_vampiresOrOthers hbuild hsides
  obtain ⟨rebuilt, otherRest, hrebuilt, -, hbindings, -, hwhole⟩ := hagain ⟨0⟩ 0
  obtain ⟨hcontent, htext⟩ := hwhole fun entry hentry ↦ by
    obtain ⟨values, heq⟩ := hlist entry hentry
    simp [heq, CurrentValues.IsHalfSet]
  exact ⟨element, rest, again, rebuilt, otherRest, hbuild, hnames, hread, hrebuilt, hcontent,
    hbindings, htext⟩

/-- Where one side of two is selected alone, the text of the tree that is built again is another. -/
theorem not_text_of_singleCopies :
    ∃ filter element rest again rebuilt otherRest,
      Filter.ofText Registry.builtin .card "CardCount in \"1\" FROM \"\"" = .ok filter ∧
      ofFilterAlone .card (some filter) ⟨0⟩ 0 = (.ok element, rest) ∧
      (∀ entry ∈ element.items, ¬ entry.current.LacksBothSides) ∧
      Filter.ofText Registry.builtin .card element.text = .ok again ∧
      ofFilterAlone .card (some again) ⟨0⟩ 0 = (.ok rebuilt, otherRest) ∧
      element.text = "CardCount in $var0" ∧ rebuilt.text = "CardCount" := by
  have hline : "CardCount in $var0" = countKeyword.name ++ " in " ++ NamePool.numbered 0 := by
    decide
  have hfound : Grammar.Names Registry.builtin .card countKeyword.name countKeyword :=
    Grammar.names_iff_lookupFor.mpr rfl
  have hwrites := writes_variable hfound isWord_countKeyword (by decide) (isVariable_numbered 0)
  obtain ⟨element, rest, hbuild, hsides, htext⟩ : ∃ element rest,
      ofFilterAlone .card (some singleCopies) ⟨0⟩ 0 = (.ok element, rest) ∧
        (∀ entry ∈ element.items, ¬ entry.current.LacksBothSides) ∧
        element.text = "CardCount in $var0" :=
    ⟨_, _, rfl, by decide, by decide +kernel⟩
  obtain ⟨rebuilt, otherRest, hrebuilt, hother⟩ : ∃ rebuilt otherRest,
      ofFilterAlone .card (some (.wrapped (.leaf (Grammar.leafOf countKeyword
        (some (NamePool.numbered 0)) none)))) ⟨0⟩ 0 = (.ok rebuilt, otherRest) ∧
        rebuilt.text = "CardCount" :=
    ⟨_, _, rfl, rfl⟩
  refine ⟨singleCopies, element, rest, _, rebuilt, otherRest, ofText_singleCopies, hbuild, hsides,
    ?_, hrebuilt, htext, hother⟩
  rw [htext, hline]
  exact (hwrites.term.chain .or).ofText

end Element

end Editor

end CardQuery
