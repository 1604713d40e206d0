import CardQuery.Json
import CardQuery.Text.CharClass

/-!
Reading JSON. The text is first cut into marks: brackets, punctuation, strings and the other
scalars. The marks then drive a machine whose state is what may come next together with the
containers that are still open, so nesting costs no recursion. A text is read only if it is one
value and blanks around it.
-/

set_option autoImplicit false
set_option relaxedAutoImplicit false

namespace CardQuery

open Text

namespace Json

/-! ### Strings -/

def hexDigit? (character : Char) : Option Nat :=
  let code := character.toNat
  if Nat.ble 0x30 code && Nat.ble code 0x39 then some (code - 0x30)
  else if Nat.ble 0x41 code && Nat.ble code 0x46 then some (code - 0x41 + 10)
  else if Nat.ble 0x61 code && Nat.ble code 0x66 then some (code - 0x61 + 10)
  else none

/-- The number of four hexadecimal digits. -/
def codeUnit? (first second third fourth : Char) : Option Nat := do
  return (((← hexDigit? first) * 16 + (← hexDigit? second)) * 16 + (← hexDigit? third)) * 16 +
    (← hexDigit? fourth)

/-- What a backslash before the character stands for. -/
def escape? : Char → Option Char
  | '"' => some '"'
  | '\\' => some '\\'
  | '/' => some '/'
  | 'b' => some '\x08'
  | 'f' => some '\x0c'
  | 'n' => some '\n'
  | 'r' => some '\r'
  | 't' => some '\t'
  | _ => none

/-- The codes of a string up to its closing quote, and the text after that quote. A code is that of
a character, or of half a pair of surrogates. -/
def codes? : List Char → Option (List Nat × List Char)
  | [] => none
  | '\\' :: 'u' :: first :: second :: third :: fourth :: rest => do
    let code ← codeUnit? first second third fourth
    let (codes, after) ← codes? rest
    return (code :: codes, after)
  | '\\' :: character :: rest => do
    let meant ← escape? character
    let (codes, after) ← codes? rest
    return (meant.toNat :: codes, after)
  | character :: rest =>
    if character = '"' then some ([], rest)
    else if character.toNat < 0x20 ∨ character = '\\' then none
    else (codes? rest).map fun (codes, after) ↦ (character.toNat :: codes, after)

def isLeading (code : Nat) : Bool := Nat.ble 0xd800 code && Nat.ble code 0xdbff

def isTrailing (code : Nat) : Bool := Nat.ble 0xdc00 code && Nat.ble code 0xdfff

/-- The text of a string of codes; each pair of surrogates is one character, and half a pair alone
is none. -/
def textOfCodes : List Nat → Option (List Char)
  | [] => some []
  | [code] => if isLeading code || isTrailing code then none else some [Char.ofNat code]
  | code :: next :: rest =>
    if isLeading code then
      if isTrailing next then
        (textOfCodes rest).map
          (Char.ofNat (0x10000 + (code - 0xd800) * 0x400 + (next - 0xdc00)) :: ·)
      else none
    else if isTrailing code then none
    else (textOfCodes (next :: rest)).map (Char.ofNat code :: ·)

/-! ### Numbers -/

/-- The digits at the front of a text, of which there has to be one, and the text after them. -/
def digits? (text : List Char) : Option (List Char × List Char) :=
  let row := text.takeWhile isDigit
  if row = [] then none else some (row, text.dropWhile isDigit)

/-- The digits before the point: zero alone, or digits that do not begin with it. -/
def whole? (text : List Char) : Option (List Char × List Char) := do
  let (row, after) ← digits? text
  if row.length = 1 ∨ row.head? ≠ some '0' then some (row, after) else none

/-- The digits after the point, if there is one. -/
def fraction? : List Char → Option (List Char × List Char)
  | '.' :: rest => digits? rest
  | rest => some ([], rest)

/-- The exponent, if there is one, and otherwise zero. -/
def exponent? : List Char → Option (Int × List Char)
  | mark :: rest =>
    if mark = 'e' ∨ mark = 'E' then
      match rest with
      | '-' :: rest => (digits? rest).map fun (row, after) ↦ (-(Decimal.value row : Int), after)
      | '+' :: rest => (digits? rest).map fun (row, after) ↦ ((Decimal.value row : Int), after)
      | rest => (digits? rest).map fun (row, after) ↦ ((Decimal.value row : Int), after)
    else some (0, mark :: rest)
  | [] => some (0, [])

/-- The numeral after a possible minus sign, and the text after it. -/
def numeral? (negative : Bool) (text : List Char) : Option (Numeral × List Char) := do
  let (whole, afterWhole) ← whole? text
  let (fraction, afterFraction) ← fraction? afterWhole
  let (exponent, rest) ← exponent? afterFraction
  return (⟨negative, Decimal.value (whole ++ fraction), exponent - fraction.length⟩, rest)

/-! ### Marks -/

inductive Mark where
  | openArray
  | closeArray
  | openObject
  | closeObject
  | colon
  | comma
  | string (content : Option String)
  | scalar (value : Json)

def isSpace (character : Char) : Bool :=
  character == ' ' || character == '\t' || character == '\n' || character == '\r'

/-- The text after a word that has to come next. -/
def after? (word text : List Char) : Option (List Char) :=
  if word.isPrefixOf text then some (text.drop word.length) else none

def punctuation? : Char → Option Mark
  | '[' => some .openArray
  | ']' => some .closeArray
  | '\x7b' => some .openObject
  | '\x7d' => some .closeObject
  | ':' => some .colon
  | ',' => some .comma
  | _ => none

/-- The word that a character begins: its other letters, and the value it stands for. -/
def word? : Char → Option (List Char × Json)
  | 'n' => some (['u', 'l', 'l'], .null)
  | 't' => some (['r', 'u', 'e'], .boolean true)
  | 'f' => some (['a', 'l', 's', 'e'], .boolean false)
  | _ => none

/-- The number that a character begins. -/
def number? (character : Char) (rest : List Char) : Option (Numeral × List Char) :=
  if character = '-' then numeral? true rest else numeral? false (character :: rest)

/-- The mark that a character begins in front of the rest of the text, and what follows it. -/
def mark? (character : Char) (rest : List Char) : Option (Mark × List Char) :=
  match punctuation? character with
  | some mark => some (mark, rest)
  | none =>
    if character = '"' then
      (codes? rest).map fun (codes, after) ↦
        (.string ((textOfCodes codes).map String.ofList), after)
    else
      match word? character with
      | some (letters, value) => (after? letters rest).map fun after ↦ (.scalar value, after)
      | none => (number? character rest).map fun (value, after) ↦ (.scalar (.number value), after)

/-! ### Every mark takes up text -/

theorem length_codes? {text : List Char} {codes : List Nat} {after : List Char}
    (hcodes : codes? text = some (codes, after)) : after.length < text.length := by
  fun_induction codes? text generalizing codes after with
  | case1 => simp at hcodes
  | case2 first second third fourth rest ih =>
    simp only [bind, Option.bind_eq_some_iff, pure, Option.some.injEq, Prod.mk.injEq] at hcodes
    obtain ⟨-, -, ⟨inner, tail⟩, hinner, -, rfl⟩ := hcodes
    have := ih hinner
    simp only [List.length_cons]
    omega
  | case3 character rest _ ih =>
    simp only [bind, Option.bind_eq_some_iff, pure, Option.some.injEq, Prod.mk.injEq] at hcodes
    obtain ⟨-, -, ⟨inner, tail⟩, hinner, -, rfl⟩ := hcodes
    have := ih hinner
    simp only [List.length_cons]
    omega
  | case4 => simp_all
  | case5 => simp at hcodes
  | case6 character rest _ _ _ _ ih =>
    obtain ⟨⟨inner, tail⟩, hinner, heq⟩ := Option.map_eq_some_iff.mp hcodes
    simp only [Prod.mk.injEq] at heq
    obtain ⟨-, rfl⟩ := heq
    have := ih hinner
    simp only [List.length_cons]
    omega

theorem length_digits? {text row after : List Char} (hdigits : digits? text = some (row, after)) :
    after.length < text.length := by
  simp only [digits?, Option.ite_none_left_eq_some, Option.some.injEq, Prod.mk.injEq] at hdigits
  obtain ⟨hrow, rfl, rfl⟩ := hdigits
  have hsplit := congrArg List.length (List.takeWhile_append_dropWhile (p := isDigit) (l := text))
  have hpositive := List.length_pos_iff.mpr hrow
  simp only [List.length_append] at hsplit
  omega

theorem length_whole? {text row after : List Char} (hwhole : whole? text = some (row, after)) :
    after.length < text.length := by
  simp only [whole?, bind, Option.bind_eq_some_iff, Option.ite_none_right_eq_some,
    Option.some.injEq, Prod.mk.injEq] at hwhole
  obtain ⟨⟨found, rest⟩, hdigits, -, -, rfl⟩ := hwhole
  exact length_digits? hdigits

theorem length_fraction? {text row after : List Char}
    (hfraction : fraction? text = some (row, after)) : after.length ≤ text.length := by
  unfold fraction? at hfraction
  split at hfraction
  · have := length_digits? hfraction
    simp only [List.length_cons]
    omega
  · simp_all

theorem length_exponent? {text after : List Char} {exponent : Int}
    (hexponent : exponent? text = some (exponent, after)) : after.length ≤ text.length := by
  unfold exponent? at hexponent
  split at hexponent
  · split at hexponent
    · split at hexponent
      all_goals
        obtain ⟨⟨row, tail⟩, hdigits, heq⟩ := Option.map_eq_some_iff.mp hexponent
        have := length_digits? hdigits
        simp only [Prod.mk.injEq] at heq
        obtain ⟨-, rfl⟩ := heq
        simp only [List.length_cons]
        omega
    · simp only [Option.some.injEq, Prod.mk.injEq] at hexponent
      simp [← hexponent.2]
  · simp_all

theorem length_numeral? {negative : Bool} {text after : List Char} {value : Numeral}
    (hnumeral : numeral? negative text = some (value, after)) : after.length < text.length := by
  simp only [numeral?, bind, Option.bind_eq_some_iff, pure, Option.some.injEq,
    Prod.mk.injEq] at hnumeral
  obtain ⟨⟨whole, afterWhole⟩, hwhole, ⟨fraction, afterFraction⟩, hfraction,
    ⟨exponent, rest⟩, hexponent, -, rfl⟩ := hnumeral
  exact Nat.lt_of_le_of_lt (length_exponent? hexponent)
    (Nat.lt_of_le_of_lt (length_fraction? hfraction) (length_whole? hwhole))

theorem length_after? {word text after : List Char} (hafter : after? word text = some after) :
    after.length ≤ text.length := by
  simp only [after?, Option.ite_none_right_eq_some, Option.some.injEq] at hafter
  simp [← hafter.2]

theorem length_number? {character : Char} {rest after : List Char} {value : Numeral}
    (hnumber : number? character rest = some (value, after)) :
    after.length < (character :: rest).length := by
  unfold number? at hnumber
  split at hnumber
  · exact Nat.lt_succ_of_lt (length_numeral? hnumber)
  · exact length_numeral? hnumber

theorem length_mark? {character : Char} {rest after : List Char} {mark : Mark}
    (hmark : mark? character rest = some (mark, after)) :
    after.length < (character :: rest).length := by
  unfold mark? at hmark
  split at hmark
  · simp only [Option.some.injEq, Prod.mk.injEq] at hmark
    simp [← hmark.2]
  · split at hmark
    · obtain ⟨⟨codes, tail⟩, hcodes, heq⟩ := Option.map_eq_some_iff.mp hmark
      injection heq with _ htail
      exact htail ▸ Nat.lt_succ_of_lt (length_codes? hcodes)
    · split at hmark
      · obtain ⟨tail, hword, heq⟩ := Option.map_eq_some_iff.mp hmark
        injection heq with _ htail
        exact htail ▸ Nat.lt_succ_of_le (length_after? hword)
      · obtain ⟨⟨value, tail⟩, hnumber, heq⟩ := Option.map_eq_some_iff.mp hmark
        injection heq with _ htail
        exact htail ▸ length_number? hnumber

/-- The marks of a text, if it consists of marks and blanks. -/
def marks? : List Char → Option (List Mark)
  | [] => some []
  | character :: rest =>
    if isSpace character then marks? rest
    else
      match _hmark : mark? character rest with
      | none => none
      | some (mark, after) => (marks? after).map (mark :: ·)
termination_by text => text.length
decreasing_by
  · simp
  · exact length_mark? _hmark

/-! ### The machine -/

/-- A container that is still open: what it holds so far, last first, and in an object the key
whose value is being read. -/
inductive Frame where
  | array (done : List Json)
  | object (done : List (Option String × Json)) (key : Option String)

/-- What may come next, inside the open containers. -/
inductive State where
  | value (frames : List Frame)
  | firstElement (frames : List Frame)
  | firstKey (frames : List Frame)
  | key (done : List (Option String × Json)) (frames : List Frame)
  | colon (key : Option String) (done : List (Option String × Json)) (frames : List Frame)
  | complete (value : Json) (frames : List Frame)

/-- The state after a mark that begins a value. -/
def begin? (frames : List Frame) : Mark → Option State
  | .openArray => some (.firstElement frames)
  | .openObject => some (.firstKey frames)
  | .string content => some (.complete (.string content) frames)
  | .scalar value => some (.complete value frames)
  | _ => none

def step? : State → Mark → Option State
  | .value frames, mark => begin? frames mark
  | .firstElement frames, .closeArray => some (.complete (.array []) frames)
  | .firstElement frames, mark => begin? (.array [] :: frames) mark
  | .firstKey frames, .closeObject => some (.complete (.object []) frames)
  | .firstKey frames, .string key => some (.colon key [] frames)
  | .key done frames, .string key => some (.colon key done frames)
  | .colon key done frames, .colon => some (.value (.object done key :: frames))
  | .complete value (.array done :: frames), .comma =>
    some (.value (.array (value :: done) :: frames))
  | .complete value (.array done :: frames), .closeArray =>
    some (.complete (.array (value :: done).reverse) frames)
  | .complete value (.object done key :: frames), .comma =>
    some (.key ((key, value) :: done) frames)
  | .complete value (.object done key :: frames), .closeObject =>
    some (.complete (.object ((key, value) :: done).reverse) frames)
  | _, _ => none

def State.result? : State → Option Json
  | .complete json [] => some json
  | _ => none

/-- The value that a text is. -/
def read? (text : String) : Option Json := do
  let marks ← marks? text.toList
  let last ← marks.foldlM step? (.value [])
  last.result?

end Json

end CardQuery
