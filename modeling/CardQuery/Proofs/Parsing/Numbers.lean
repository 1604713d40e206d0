import CardQuery.Proofs.Lexing.Numerals
import CardQuery.Proofs.Parsing.Acceptance

/-!
Numbers as values. Only a value can be a number, and the value that it is, is a text: the one that
is written for it. So wherever a number stands, the quoted literal of that text could stand as well,
and the filter that is read would be the same (`ofTokens_number_iff`). Together with what numerals
are read as, this says what becomes of any numeral in a filter (`read_numeral`).
-/

set_option autoImplicit false
set_option relaxedAutoImplicit false

namespace CardQuery

open Text

/-- Nothing is dropped from a body without backslashes. -/
theorem Text.Quoted.read_eq_self {body : List Char} (hplain : '\\' ∉ body) :
    read body = body := by
  induction body with
  | nil => rfl
  | cons character rest ih =>
    rw [List.mem_cons, not_or] at hplain
    have hcharacter : character ≠ '\\' := fun heq ↦ hplain.1 heq.symm
    rw [read.eq_3 _ _ (fun _ _ heq _ ↦ hcharacter heq) (fun heq _ ↦ hcharacter heq), ih hplain.2]

namespace Grammar

/-- The text that is written for a number. -/
def numberText (value : Int) : String := String.ofList (Decimal.write value)

theorem unquote_numberText (value : Int) :
    Quoted.unquote (numberText value) = numberText value := by
  have hplain : '\\' ∉ Decimal.write value := by
    intro hmember
    have hdigits : ∀ number, '\\' ∉ Decimal.digits number := fun number hdigit ↦
      absurd (Decimal.isDigit_of_mem_digits hdigit) (by decide)
    cases value with
    | ofNat number => exact hdigits _ hmember
    | negSucc number =>
      rcases List.mem_cons.mp hmember with hsign | hdigit
      · cases hsign
      · exact hdigits _ hdigit
  rw [Quoted.unquote, numberText, String.toList_ofList, Quoted.read_eq_self hplain]

/-! ### Numbers put as literals -/

/-- The symbol, or the literal of its text if it is a number. -/
def asLiteral : Symbol → Symbol
  | .number value => .quoted (numberText value)
  | other => other

/-- The rows are the same, but for numbers that stand in one as literals of their texts. -/
def Alike (word other : List Symbol) : Prop := word.map asLiteral = other.map asLiteral

variable {registry : Registry} {subject : Subject} {symbol other : Symbol}
  {word left right others : List Symbol}

/-- The symbol is neither a number nor a literal. -/
def IsPlain (symbol : Symbol) : Prop := asLiteral symbol = symbol ∧ ∀ raw, symbol ≠ .quoted raw

theorem eq_of_isPlain (hplain : IsPlain symbol) (halike : asLiteral other = asLiteral symbol) :
    other = symbol := by
  rw [hplain.1] at halike
  cases other with
  | number value => exact absurd halike.symm (hplain.2 _)
  | _ => exact halike

theorem alike_cons (hplain : IsPlain symbol) :
    Alike others (symbol :: word) ↔ ∃ rest, others = symbol :: rest ∧ Alike rest word := by
  constructor
  · intro halike
    obtain ⟨first, rest, rfl, hfirst, hrest⟩ := List.map_eq_cons_iff.mp halike
    exact ⟨rest, by rw [eq_of_isPlain hplain hfirst], hrest⟩
  · rintro ⟨rest, rfl, hrest⟩
    exact congrArg (_ :: ·) hrest

theorem exists_of_alike_append (halike : Alike others (left ++ right)) :
    ∃ front back, others = front ++ back ∧ Alike front left ∧ Alike back right := by
  rw [Alike, List.map_append, List.map_eq_append_iff] at halike
  exact halike

theorem eq_nil_of_alike (halike : Alike others []) : others = [] :=
  List.map_eq_nil_iff.mp halike

/-- A chain around a plain symbol. -/
theorem exists_of_alike_between (hplain : IsPlain symbol)
    (halike : Alike others (left ++ symbol :: right)) :
    ∃ front back, others = front ++ symbol :: back ∧ Alike front left ∧ Alike back right := by
  obtain ⟨front, behind, rfl, hfront, hbehind⟩ := exists_of_alike_append halike
  obtain ⟨back, rfl, hback⟩ := (alike_cons hplain).mp hbehind
  exact ⟨front, back, rfl, hfront, hback⟩

theorem isPlain_word (text : String) : IsPlain (.word text) := ⟨rfl, by simp⟩

theorem eq_of_alike_words {texts : List String} (halike : Alike others (texts.map .word)) :
    others = texts.map .word := by
  induction texts generalizing others with
  | nil => exact eq_nil_of_alike halike
  | cons text texts ih =>
    obtain ⟨rest, rfl, hrest⟩ := (alike_cons (isPlain_word text)).mp halike
    rw [ih hrest, List.map_cons]

/-- What is alike to a single literal or number is one with the same text. -/
theorem literal_of_alike_quoted {raw : String} (halike : Alike others [.quoted raw]) :
    Literal others (Quoted.unquote raw) := by
  obtain ⟨first, rest, rfl, hfirst, hrest⟩ := List.map_eq_cons_iff.mp halike
  obtain rfl := eq_nil_of_alike hrest
  cases first with
  | number value =>
    obtain rfl : numberText value = raw := Symbol.quoted.inj hfirst
    rw [unquote_numberText]
    exact .number value
  | quoted text =>
    obtain rfl : text = raw := Symbol.quoted.inj hfirst
    exact .quoted text
  | _ => cases hfirst

theorem Literal.alike {text : String} (hliteral : Literal word text)
    (halike : Alike others word) : Literal others text := by
  cases hliteral with
  | quoted raw => exact literal_of_alike_quoted halike
  | number value =>
    have hquoted : Alike others [.quoted (numberText value)] := halike
    have hothers := literal_of_alike_quoted hquoted
    rwa [unquote_numberText] at hothers
  | words first texts =>
    have hwords : Alike others ((first :: texts).map .word) := halike
    rw [eq_of_alike_words hwords]
    exact .words first texts

theorem Values.alike {texts : List String} (hvalues : Values word texts)
    (halike : Alike others word) : Values others texts := by
  induction hvalues generalizing others with
  | single hliteral => exact .single (hliteral.alike halike)
  | more hliteral _ ih =>
    obtain ⟨front, back, rfl, hfront, hback⟩ :=
      exists_of_alike_between ⟨rfl, by simp⟩ halike
    exact .more (hliteral.alike hfront) (ih hback)

/-- A keyword in front of `in` and what is assigned to it. -/
theorem exists_of_alike_assigned {name : String}
    (halike : Alike others (.word name :: .within :: word)) :
    ∃ rest, others = .word name :: .within :: rest ∧ Alike rest word := by
  obtain ⟨behind, rfl, hbehind⟩ := (alike_cons (isPlain_word name)).mp halike
  obtain ⟨rest, rfl, hrest⟩ := (alike_cons ⟨rfl, by simp⟩).mp hbehind
  exact ⟨rest, rfl, hrest⟩

theorem Part.alike {entry : Leaf} (hpart : Part registry subject word entry)
    (halike : Alike others word) : Part registry subject others entry := by
  cases hpart with
  | bare hname hargument =>
    obtain ⟨rest, rfl, hrest⟩ := (alike_cons (isPlain_word _)).mp halike
    obtain rfl := eq_nil_of_alike hrest
    exact .bare hname hargument
  | variableName hname hargument name =>
    obtain ⟨rest, rfl, hrest⟩ := exists_of_alike_assigned halike
    obtain ⟨behind, rfl, hbehind⟩ := (alike_cons ⟨rfl, by simp⟩).mp hrest
    obtain rfl := eq_nil_of_alike hbehind
    exact .variableName hname hargument name
  | text hname hargument hliteral =>
    obtain ⟨rest, rfl, hrest⟩ := exists_of_alike_assigned halike
    exact .text hname hargument (hliteral.alike hrest)
  | list hname hargument hvalues =>
    obtain ⟨rest, rfl, hrest⟩ := exists_of_alike_assigned halike
    exact .list hname hargument (hvalues.alike hrest)
  | sourced hname hargument hvalues horigins =>
    obtain ⟨rest, rfl, hrest⟩ := exists_of_alike_assigned halike
    obtain ⟨front, back, rfl, hfront, hback⟩ := exists_of_alike_between ⟨rfl, by simp⟩ hrest
    exact .sourced hname hargument (hvalues.alike hfront) (horigins.alike hback)

/-- Rows that are alike derive the same filters. -/
theorem Derives.alike {level : Level} {filter : Filter}
    (hderives : Derives registry subject level word filter) (halike : Alike others word) :
    Derives registry subject level others filter := by
  induction hderives generalizing others with
  | conjunction _ ih => exact .conjunction (ih halike)
  | term _ ih => exact .term (ih halike)
  | primary _ ih => exact .primary (ih halike)
  | part hpart => exact .part (hpart.alike halike)
  | or _ _ hleft hright =>
    obtain ⟨front, back, rfl, hfront, hback⟩ := exists_of_alike_between ⟨rfl, by simp⟩ halike
    exact .or (hleft hfront) (hright hback)
  | and _ _ hleft hright =>
    obtain ⟨front, back, rfl, hfront, hback⟩ := exists_of_alike_between ⟨rfl, by simp⟩ halike
    exact .and (hleft hfront) (hright hback)
  | not _ ih =>
    obtain ⟨rest, rfl, hrest⟩ := (alike_cons ⟨rfl, by simp⟩).mp halike
    exact .not (ih hrest)
  | group _ ih =>
    obtain ⟨behind, rfl, hbehind⟩ := (alike_cons ⟨rfl, by simp⟩).mp halike
    obtain ⟨inner, back, rfl, hinner, hback⟩ := exists_of_alike_between ⟨rfl, by simp⟩ hbehind
    obtain rfl := eq_nil_of_alike hback
    exact .group (ih hinner)

/-- Tokens whose symbols are alike are read as the same filter. -/
theorem ofTokens_of_alike {first second : List Token} {filter : Filter}
    (halike : Alike (second.map Token.symbol) (first.map Token.symbol))
    (hread : Filter.ofTokens registry subject first = .ok filter) :
    Filter.ofTokens registry subject second = .ok filter := by
  obtain ⟨inner, rfl, hderives⟩ := derives_of_ofTokens hread
  exact ofTokens_of_derives (hderives.alike halike)

/-- Wherever a number stands, it is read as the literal of the text that is written for it. -/
theorem ofTokens_number_iff {before after : List Token} {value : Int} {span : Span}
    {filter : Filter} :
    Filter.ofTokens registry subject (before ++ ⟨.number value, span⟩ :: after) = .ok filter ↔
      Filter.ofTokens registry subject
        (before ++ ⟨.quoted (numberText value), span⟩ :: after) = .ok filter := by
  have halike : Alike
      ((before ++ ⟨.quoted (numberText value), span⟩ :: after).map Token.symbol)
      ((before ++ ⟨.number value, span⟩ :: after).map Token.symbol) := by
    simp [Alike, asLiteral]
  exact ⟨ofTokens_of_alike halike, ofTokens_of_alike halike.symm⟩

end Grammar

/-! ### Numerals in filters -/

namespace Token

open Text.Decimal (Spelling)

/-- A numeral of any length, with anything but a digit behind it, is the first token of a text: it
is a number exactly if its value fits into 64 bits, and otherwise illegal. As a value the number is
the canonical spelling of the numeral, wherever it stands in a filter, and that spelling is read as
the same number again. -/
theorem read_numeral (spelling : Spelling) (rest : String)
    (hrest : ∀ other ∈ rest.toList.head?, isDigit other = false) :
    scan (spelling.text ++ rest) =
        ⟨if -2 ^ 63 ≤ spelling.value ∧ spelling.value ≤ 2 ^ 63 - 1 then .number spelling.value
            else .illegal, ⟨0, spelling.text.utf8ByteSize⟩⟩ ::
          (scan rest).map (·.shift spelling.text.utf8ByteSize) ∧
      (-2 ^ 63 ≤ spelling.value ∧ spelling.value ≤ 2 ^ 63 - 1 →
        Parser.runLiteral (scan (spelling.text ++ rest)) =
            .read spelling.canonical.text
              ((scan rest).map (·.shift spelling.text.utf8ByteSize)) ∧
          (∀ registry subject before span after filter,
            Filter.ofTokens registry subject
                (before ++ ⟨.number spelling.value, span⟩ :: after) = .ok filter ↔
              Filter.ofTokens registry subject
                (before ++ ⟨.quoted spelling.canonical.text, span⟩ :: after) = .ok filter) ∧
          scan spelling.canonical.text =
            [⟨.number spelling.value, ⟨0, spelling.canonical.text.utf8ByteSize⟩⟩]) := by
  have hscan := scan_spelling spelling hrest
  have htext : Grammar.numberText spelling.value = spelling.canonical.text :=
    congrArg String.ofList spelling.write_value
  refine ⟨hscan, fun hrange ↦ ⟨?_, ?_, ?_⟩⟩
  · rw [hscan, if_pos hrange, ← htext]
    rfl
  · intro registry subject before span after filter
    rw [← htext]
    exact Grammar.ofTokens_number_iff
  · have hagain := @scan_spelling spelling.canonical "" (by simp)
    have hend : scan "" = [] := scanFrom_nil 0
    rwa [String.append_empty, spelling.value_canonical, if_pos hrange, hend, List.map_nil] at hagain

/-- The least number of 64 bits, with two zeros in front. -/
def leastNumber : Spelling :=
  ⟨true, "009223372036854775808".toList, by decide, List.all_eq_true.mp (by decide)⟩

theorem read_numeral_leastNumber :
    (∀ other ∈ "FROM 1".toList.head?, isDigit other = false) ∧
      (-2 ^ 63 ≤ leastNumber.value ∧ leastNumber.value ≤ 2 ^ 63 - 1) ∧
      leastNumber.canonical.text = "-9223372036854775808" ∧
      scan "-009223372036854775808FROM 1" =
        [⟨.number (-9223372036854775808), ⟨0, 22⟩⟩, ⟨.origin, ⟨22, 26⟩⟩, ⟨.number 1, ⟨27, 28⟩⟩] ∧
      Parser.runLiteral (scan "-009223372036854775808FROM 1") =
        .read "-9223372036854775808" [⟨.origin, ⟨22, 26⟩⟩, ⟨.number 1, ⟨27, 28⟩⟩] ∧
      scan "-9223372036854775808" = [⟨.number (-9223372036854775808), ⟨0, 20⟩⟩] := by
  have hrest : ∀ other ∈ "FROM 1".toList.head?, isDigit other = false := by
    have hhead : "FROM 1".toList.head? = some 'F' := by decide
    rw [hhead]
    rintro other ⟨⟩
    rfl
  have hvalue : leastNumber.value = -9223372036854775808 := by decide
  have hrange : -2 ^ 63 ≤ leastNumber.value ∧ leastNumber.value ≤ 2 ^ 63 - 1 := by
    rw [hvalue]
    decide
  have htext : leastNumber.text = "-009223372036854775808" := by decide
  have hcanonical : leastNumber.canonical.text = "-9223372036854775808" := by decide
  have hlater : (scan "FROM 1").map (·.shift 22) =
      [⟨.origin, ⟨22, 26⟩⟩, ⟨.number 1, ⟨27, 28⟩⟩] := by decide +kernel
  obtain ⟨hscan, hnumber⟩ := read_numeral leastNumber "FROM 1" hrest
  obtain ⟨hliteral, -, hagain⟩ := hnumber hrange
  have hsize : leastNumber.text.utf8ByteSize = 22 := by decide
  rw [hsize, hlater] at hscan hliteral
  rw [if_pos hrange] at hscan
  rw [htext] at hscan hliteral
  rw [hcanonical] at hliteral hagain
  rw [hvalue] at hscan hagain
  exact ⟨hrest, hrange, hcanonical, hscan, hliteral, hagain⟩

end Token

end CardQuery
