import CardQuery.Registry

/-!
The registry that is used when no other is at hand: the keywords of a card collection.
-/

set_option autoImplicit false
set_option relaxedAutoImplicit false

namespace CardQuery.Registry

def cardTypes : List String :=
  ["Action", "Action Modifier", "Ally", "Combat", "Conviction", "Equipment", "Event", "Imbued",
    "Master", "Political Action", "Power", "Reaction", "Retainer", "Vampire"]

def clans : List String :=
  ["Assamite", "Brujah", "Followers of Set", "Gangrel", "Giovanni", "Lasombra", "Malkavian",
    "Nosferatu", "Ravnos", "Toreador", "Tremere", "Tzimisce", "Ventrue"]

def disciplines : List String :=
  ["Animalism", "Auspex", "Celerity", "Chimerstry", "Dementation", "Dominate", "Fortitude",
    "Necromancy", "Obfuscate", "Potence", "Presence", "Protean", "Quietus", "Serpentis",
    "Thaumaturgy", "Vicissitude"]

def sects : List String := ["Anarch", "Camarilla", "Independent", "Laibon", "Sabbat"]

/-- Counts on offer; the last one stands for every count. -/
def counts : List String := ["1", "2", "3", "4", "5", "-1"]

/-- The keywords of a card collection, in the order in which they are listed. -/
def builtinKeywords : List Keyword :=
  [⟨"CardType", "Card Type", "Cards of the given types.", [.card, .cardSet],
      .list cardTypes, "card_type", none⟩,
    ⟨"Clan", "Clan", "Cards requiring or belonging to the given clans.", [.card, .cardSet],
      .list clans, "clan", none⟩,
    ⟨"Discipline", "Discipline", "Cards requiring or granting the given disciplines.",
      [.card, .cardSet], .list disciplines, "discipline", none⟩,
    ⟨"Sect", "Sect", "Crypt cards of the given sects.", [.card, .cardSet],
      .list sects, "sect", none⟩,
    ⟨"CardText", "Card Text", "Cards whose text contains the given string.", [.card, .cardSet],
      .text, "card_text", none⟩,
    ⟨"CardName", "Card Name", "Cards whose name contains the given string.", [.card, .cardSet],
      .text, "card_name", none⟩,
    ⟨"Unique", "Unique", "Unique cards.", [.card, .cardSet], .absent, "is_unique", none⟩,
    ⟨"CardCount", "Card Count",
      "Cards with the given number of copies in the given card sets. " ++
        "-1 matches any count, an empty card set matches all sets.",
      [.card], .sourced counts [], "card_count", some "card_set_name"⟩,
    ⟨"CardSetName", "Card Set Name", "Card sets whose name contains the given string.",
      [.cardSet], .text, "name", none⟩,
    ⟨"CardSetInUse", "Card Set In Use", "Card sets marked as in use.", [.cardSet], .absent,
      "in_use", none⟩]

def builtin : Registry :=
  ⟨⟨some "physical_card", some "physical_card_set"⟩, builtinKeywords⟩

theorem fault_builtin : builtin.fault = none := by decide

end CardQuery.Registry
