import CardQuery.Proofs.Printing.FixedPoint
import CardQuery.Proofs.Printing.ShownHeads

/-!
Which trees have a text that can be read. The text of a tree that has been built from a text is
never empty, since nothing in the tree is hidden. It is read under the same registry unless an item
has neither of its two sides selected: such an item is shown as its keyword alone, and the keyword
asks for values. What is read is what the tree shows, so it is built again
(`ofText_text_iff_of_build`).
-/

set_option autoImplicit false
set_option relaxedAutoImplicit false

namespace CardQuery.Editor.Element

variable {registry : Registry} {subject : Subject} {filter : Filter} {supply rest : Supply}
  {element : Element}

theorem text_ne_empty {visible : Item} (hvisible : visible ∈ element.visibleItems)
    (hsuited : ∀ item ∈ element.visibleItems, item.Suited)
    (hwords : ∀ item ∈ element.visibleItems, Lexer.IsWord item.keyword)
    (hvariables : ∀ item ∈ element.visibleItems, Lexer.IsVariable item.variableName) :
    element.text ≠ "" := by
  intro hempty
  have hheads := hasHeads hsuited hwords hvariables
  rw [hempty] at hheads
  exact List.not_mem_nil (List.map_eq_nil_iff.mp hheads.eq_nil ▸ hvisible)

/-- The text of a built tree writes what the tree shows, and that has the outline of the tree. -/
theorem exists_shown_of_build {text : String}
    (hread : Filter.ofText registry subject text = .ok filter)
    (hbuild : ofFilter subject (some filter) supply = (.ok element, rest))
    (hsides : ∀ item ∈ element.items, ¬ item.current.LacksBothSides) :
    ∃ shown, Filter.ofText registry subject element.text = .ok (.wrapped shown) ∧
      Outline.ofFilter (.wrapped shown) = .complete element.redrawn := by
  have hitems := legible_of_build hread hbuild
  obtain ⟨shown, hshown, hcomplete⟩ := (flatRoot_of_build hbuild).ofFilter_shown
    fun item hitem ↦ (hitems item hitem).rereads
  have hwrites := Element.shows (fun item hitem ↦ (hitems item hitem).regular)
    (fun item hitem ↦ (hitems item hitem).rereads.suited)
    (fun item hitem ↦ (hitems item hitem).isVariable)
    fun item hitem ↦ hsides item (element.visibleItems_subset hitem)
  rw [hshown] at hwrites
  exact ⟨shown, (Writes.chain .or hwrites).ofText, by rw [Outline.ofFilter, hcomplete]⟩

/-- A text has been read, and built on any pool. Then the text of the tree is not empty; it is read
under the same registry and for the same subject exactly if no item lacks both of its sides; and
what it is read as is built, on any pool. -/
theorem ofText_text_iff_of_build {text : String}
    (hread : Filter.ofText registry subject text = .ok filter)
    (hbuild : ofFilter subject (some filter) supply = (.ok element, rest)) :
    element.text ≠ "" ∧
      ((∃ again, Filter.ofText registry subject element.text = .ok again) ↔
        ∀ item ∈ element.items, ¬ item.current.LacksBothSides) ∧
      ∀ again, Filter.ofText registry subject element.text = .ok again →
        ∀ otherSubject otherSupply, ∃ rebuilt otherRest,
          ofFilter otherSubject (some again) otherSupply = (.ok rebuilt, otherRest) := by
  have hitems := legible_of_build hread hbuild
  obtain ⟨hvisible, hpresent⟩ := (flatRoot_of_build hbuild).visibleItems_eq
  have hsuited : ∀ item ∈ element.visibleItems, item.Suited := by
    rw [hvisible]
    exact fun item hitem ↦ (hitems item hitem).rereads.suited
  have hwords : ∀ item ∈ element.visibleItems, Lexer.IsWord item.keyword := by
    rw [hvisible]
    intro item hitem
    obtain ⟨keyword, -, -, hword, hname, -⟩ := (hitems item hitem).regular
    exact hname ▸ hword
  have hvariables : ∀ item ∈ element.visibleItems, Lexer.IsVariable item.variableName := by
    rw [hvisible]
    exact fun item hitem ↦ (hitems item hitem).isVariable
  have hsides : ∀ again, Filter.ofText registry subject element.text = .ok again →
      ∀ item ∈ element.items, ¬ item.current.LacksBothSides := by
    intro again hagain item hitem
    have hmeans := means_of_ofText hsuited hwords hvariables hagain item (hvisible ▸ hitem)
    exact item.not_lacksBothSides_of_means (hitems item hitem).rereads.suited
      (known_of_build hread hbuild item hitem) hmeans
  refine ⟨?_, ⟨fun ⟨again, hagain⟩ ↦ hsides again hagain, fun hshown ↦ ?_⟩,
    fun again hagain otherSubject otherSupply ↦ ?_⟩
  · obtain ⟨item, hitem⟩ := List.exists_mem_of_ne_nil _ hpresent
    exact text_ne_empty (hvisible ▸ hitem) hsuited hwords hvariables
  · obtain ⟨shown, hagain, -⟩ := exists_shown_of_build hread hbuild hshown
    exact ⟨_, hagain⟩
  · obtain ⟨shown, hsame, houtline⟩ :=
      exists_shown_of_build hread hbuild (hsides again hagain)
    obtain rfl := Except.ok.inj (hsame.symm.trans hagain)
    exact ⟨_, _, by simp only [ofFilter, houtline]; rfl⟩

/-- A value or a variable: the text of the tree is read, and built. -/
theorem ofText_text_of_vampiresOrOthers :
    ∃ element rest again rebuilt otherRest,
      ofFilterAlone .card (some vampiresOrOthers) ⟨0⟩ 0 = (.ok element, rest) ∧
      element.text ≠ "" ∧
      Filter.ofText Registry.builtin .card element.text = .ok again ∧
      ofFilterAlone .card (some again) ⟨1⟩ 0 = (.ok rebuilt, otherRest) := by
  obtain ⟨element, rest, hbuild, hsides⟩ : ∃ element rest,
      ofFilterAlone .card (some vampiresOrOthers) ⟨0⟩ 0 = (.ok element, rest) ∧
        ∀ item ∈ element.items, ¬ item.current.LacksBothSides :=
    ⟨_, _, rfl, by decide⟩
  obtain ⟨hpresent, hreads, hbuilds⟩ := ofText_text_iff_of_build ofText_vampiresOrOthers hbuild
  obtain ⟨again, hagain⟩ := hreads.mpr hsides
  obtain ⟨rebuilt, otherRest, hrebuilt⟩ :=
    hbuilds again hagain .card ⟨⟨1⟩, reservedPool (some again), 0⟩
  exact ⟨element, rest, again, rebuilt, otherRest, hbuild, hpresent, hagain, hrebuilt⟩

/-- Wildcards on both sides. -/
def anyCopies : Filter :=
  .wrapped (.leaf (Grammar.leafOf countKeyword none (some (.sourced .any .any))))

/-- Where both sides let everything through, the item is shown as its keyword alone, and that is no
filter. -/
theorem not_ofText_text_of_anyCopies :
    ∃ filter element rest,
      Filter.ofText Registry.builtin .card "CardCount in \"-1\" FROM \"\"" = .ok filter ∧
      ofFilterAlone .card (some filter) ⟨0⟩ 0 = (.ok element, rest) ∧
      element.text = "CardCount" ∧
      ∀ again, Filter.ofText Registry.builtin .card element.text ≠ .ok again := by
  have hline : "CardCount in \"-1\" FROM \"\"" = countKeyword.name ++ " in " ++
      (Selection.sourced (.among ["-1"]) (.among [""])).text := by decide
  have hfits : (Selection.sourced (.among ["-1"]) (.among [""])).Fits countKeyword.argument :=
    ⟨by decide, by decide⟩
  have hread : Filter.ofText Registry.builtin .card "CardCount in \"-1\" FROM \"\"" =
      .ok anyCopies := by
    rw [hline]
    exact ofText_fitting (Grammar.names_iff_lookupFor.mpr rfl) isWord_countKeyword hfits
  refine ⟨anyCopies, _, _, hread, rfl, by rfl, fun again hagain ↦ ?_⟩
  obtain ⟨inner, -, hderives⟩ := Grammar.derives_of_ofTokens hagain
  have hsymbols : Grammar.symbols (Token.scan "CardCount") = [.word "CardCount"] :=
    isWord_countKeyword
  obtain ⟨keyword, hname, habsent⟩ := (hsymbols ▸ hderives.means_of_mem) ⟨"CardCount", false⟩
    (List.mem_singleton_self _)
  rw [Grammar.names_iff_lookupFor] at hname
  obtain rfl : countKeyword = keyword := Option.some.inj hname
  cases habsent rfl

end CardQuery.Editor.Element
