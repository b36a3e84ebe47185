import CodeExecution.Library.Utf16Slices
import CodeExecution.Library.Utf8

/-! JSON texts, written and read: strings are sequences of UTF-16 code units, and numbers are integers. -/

/-- A JSON value, whose objects keep the order of their members. -/
inductive Json where
  | null
  | bool (value : Bool)
  | number (value : Int)
  | string (units : List UInt16)
  | array (items : List Json)
  | object (members : List (List UInt16 × Json))

namespace Json

/-! ## Strings -/

/-- Four hexadecimal digits in lower case. -/
def hexDigits (number : Nat) : List Char :=
  [Nat.digitChar (number / 0x1000 % 16), Nat.digitChar (number / 0x100 % 16),
    Nat.digitChar (number / 0x10 % 16), Nat.digitChar (number % 16)]

/-- A code unit that is not half of a pair, as it stands inside quotation marks. -/
def escapeUnit (unit : UInt16) : List Char :=
  if unit.toNat = 0x08 then ['\\', 'b']
  else if unit.toNat = 0x09 then ['\\', 't']
  else if unit.toNat = 0x0A then ['\\', 'n']
  else if unit.toNat = 0x0C then ['\\', 'f']
  else if unit.toNat = 0x0D then ['\\', 'r']
  else if unit.toNat = 0x22 then ['\\', '"']
  else if unit.toNat = 0x5C then ['\\', '\\']
  -- Control characters and lone surrogates are spelled out.
  else if unit.toNat < 0x20 ∨ Utf16.isWellFormed [unit] = false then
    '\\' :: 'u' :: hexDigits unit.toNat
  else [Char.ofNat unit.toNat]

/-- The character that a pair of surrogates stands for. -/
def pairChar (high low : UInt16) : Char :=
  Char.ofNat (0x10000 + (high.toNat - 0xD800) * 0x400 + (low.toNat - 0xDC00))

/-- A string between its quotation marks. -/
def quoteUnits : List UInt16 → List Char
  | [] => []
  | [unit] => escapeUnit unit
  | high :: low :: rest =>
    if Utf16.isHigh high && Utf16.isLow low then pairChar high low :: quoteUnits rest
    else escapeUnit high ++ quoteUnits (low :: rest)

/-- The value of a hexadecimal digit in either case. -/
def hexValue (digit : Char) : Option Nat :=
  if '0' ≤ digit ∧ digit ≤ '9' then some (digit.toNat - '0'.toNat)
  else if 'a' ≤ digit ∧ digit ≤ 'f' then some (digit.toNat - 'a'.toNat + 10)
  else if 'A' ≤ digit ∧ digit ≤ 'F' then some (digit.toNat - 'A'.toNat + 10)
  else none

/-- The code unit behind a backslash and one letter. -/
def unescape (letter : Char) : Option UInt16 :=
  if letter = 'b' then some 0x08
  else if letter = 't' then some 0x09
  else if letter = 'n' then some 0x0A
  else if letter = 'f' then some 0x0C
  else if letter = 'r' then some 0x0D
  else if letter = '"' then some 0x22
  else if letter = '\\' then some 0x5C
  else if letter = '/' then some 0x2F
  else none

/-- Units in front of what has been read. -/
def prepend (units : List UInt16) (read : List UInt16 × List Char) : List UInt16 × List Char :=
  (units ++ read.1, read.2)

/-- The string up to the next quotation mark, and the text behind that. -/
def unquote : List Char → Option (List UInt16 × List Char)
  | [] => none
  | first :: rest =>
    if first = '"' then some ([], rest)
    else if first = '\\' then
      match rest with
      | letter :: rest =>
        if letter = 'u' then
          match rest with
          | a :: b :: c :: d :: rest =>
            match hexValue a, hexValue b, hexValue c, hexValue d with
            | some a, some b, some c, some d =>
              (unquote rest).map (prepend [UInt16.ofNat (a * 0x1000 + b * 0x100 + c * 0x10 + d)])
            | _, _, _, _ => none
          | _ => none
        else
          match unescape letter with
          | some unit => (unquote rest).map (prepend [unit])
          | none => none
      | [] => none
    -- Control characters have to be escaped.
    else if first.toNat < 0x20 then none
    else (unquote rest).map (prepend (Utf16.encodeChar first))

/-! ## Texts -/

mutual

/-- `JSON.stringify` without indentation. -/
def stringify : Json → List Char
  | .null => ['n', 'u', 'l', 'l']
  | .bool true => ['t', 'r', 'u', 'e']
  | .bool false => ['f', 'a', 'l', 's', 'e']
  | .number value =>
    if value < 0 then '-' :: Nat.toDigits 10 value.natAbs else Nat.toDigits 10 value.natAbs
  | .string units => '"' :: (quoteUnits units ++ ['"'])
  | .array items => '[' :: stringifyItems items
  | .object members => '{' :: stringifyMembers members

/-- The items of an array, up to its end. -/
def stringifyItems : List Json → List Char
  | [] => [']']
  | [item] => stringify item ++ [']']
  | item :: rest => stringify item ++ ',' :: stringifyItems rest

/-- The members of an object, up to its end. -/
def stringifyMembers : List (List UInt16 × Json) → List Char
  | [] => ['}']
  | [(key, value)] => '"' :: (quoteUnits key ++ '"' :: ':' :: (stringify value ++ ['}']))
  | (key, value) :: rest =>
    '"' :: (quoteUnits key ++ '"' :: ':' :: (stringify value ++ ',' :: stringifyMembers rest))

end

/-- The four characters that may stand between tokens. -/
def isWhitespace (character : Char) : Bool :=
  character = ' ' || character = '\t' || character = '\n' || character = '\r'

/-- The text from the next token on. -/
def skip (text : List Char) : List Char := text.dropWhile isWhitespace

/-- The integer that a text begins with. -/
def readNumber (text : List Char) : Option (Json × List Char) :=
  let unsigned := if text.head? = some '-' then text.tail else text
  let digits := unsigned.takeWhile Char.isDigit
  let rest := unsigned.dropWhile Char.isDigit
  -- Leading zeros are not allowed, and fractions and exponents are no integers.
  if digits = [] ∨ (digits.head? = some '0' ∧ 1 < digits.length) ∨
      rest.head? = some '.' ∨ rest.head? = some 'e' ∨ rest.head? = some 'E' then none
  else
    let magnitude : Int := Nat.ofDigitChars 10 digits 0
    some (.number (if text.head? = some '-' then -magnitude else magnitude), rest)

/-- A word that stands for a value. -/
def readWord (word : List Char) (value : Json) (text : List Char) : Option (Json × List Char) :=
  if word.isPrefixOf text then some (value, text.drop word.length) else none

mutual

/-- The value that a text begins with, and the text behind it. -/
def readValue : Nat → List Char → Option (Json × List Char)
  | 0, _ => none
  | fuel + 1, text =>
    match skip text with
    | [] => none
    | first :: rest =>
      if first = '"' then (unquote rest).map fun read => (.string read.1, read.2)
      else if first = '[' then
        if (skip rest).head? = some ']' then some (.array [], (skip rest).tail)
        else (readItems fuel rest).map fun read => (.array read.1, read.2)
      else if first = '{' then
        if (skip rest).head? = some '}' then some (.object [], (skip rest).tail)
        else (readMembers fuel rest).map fun read => (.object read.1, read.2)
      else if first = 'n' then readWord ['n', 'u', 'l', 'l'] .null (first :: rest)
      else if first = 't' then readWord ['t', 'r', 'u', 'e'] (.bool true) (first :: rest)
      else if first = 'f' then readWord ['f', 'a', 'l', 's', 'e'] (.bool false) (first :: rest)
      else readNumber (first :: rest)

/-- One item of an array or more, up to its end. -/
def readItems : Nat → List Char → Option (List Json × List Char)
  | 0, _ => none
  | fuel + 1, text =>
    match readValue fuel text with
    | none => none
    | some (item, rest) =>
      match skip rest with
      | [] => none
      | next :: rest =>
        if next = ']' then some ([item], rest)
        else if next = ',' then (readItems fuel rest).map fun read => (item :: read.1, read.2)
        else none

/-- One member of an object or more, up to its end. -/
def readMembers : Nat → List Char → Option (List (List UInt16 × Json) × List Char)
  | 0, _ => none
  | fuel + 1, text =>
    match skip text with
    | [] => none
    | first :: rest =>
      if first = '"' then
        match unquote rest with
        | none => none
        | some (key, rest) =>
          match skip rest with
          | [] => none
          | colon :: rest =>
            if colon = ':' then
              match readValue fuel rest with
              | none => none
              | some (value, rest) =>
                match skip rest with
                | [] => none
                | next :: rest =>
                  if next = '}' then some ([(key, value)], rest)
                  else if next = ',' then
                    (readMembers fuel rest).map fun read => ((key, value) :: read.1, read.2)
                  else none
            else none
      else none

end

/-- `JSON.parse`, which fails where a text is not all of one value. -/
def parse (text : List Char) : Option Json :=
  match readValue (text.length + 1) text with
  | some (value, rest) => if skip rest = [] then some value else none
  | none => none

/-- The value of an object's member, which is the last one with that name. -/
def get? (json : Json) (name : String) : Option Json :=
  match json with
  | .object members =>
    (members.reverse.find? fun member => member.1 = Utf16.encode name.toList).map Prod.snd
  | _ => none

/-- The member that a field is written as, if it is defined. -/
def memberOf (field : String × Option Json) : Option (List UInt16 × Json) :=
  field.2.map fun value => (Utf16.encode field.1.toList, value)

@[simp] theorem memberOf_none (name : String) : memberOf (name, none) = none := rfl

@[simp] theorem memberOf_some (name : String) (value : Json) :
    memberOf (name, some value) = some (Utf16.encode name.toList, value) := rfl

/-- An object with its fields in order, where fields that are undefined are left out. -/
def ofFields (fields : List (String × Option Json)) : Json := .object (fields.filterMap memberOf)

/-- A member with another value, if it has the name. -/
def reassign (name : String) (value : Json) (member : List UInt16 × Json) : List UInt16 × Json :=
  if member.1 = Utf16.encode name.toList then (member.1, value) else member

/-- `{ ...json, name: value }`, which keeps the place of a member that is there. -/
def assign (json : Json) (name : String) (value : Json) : Json :=
  match json with
  | .object members =>
    if members.any fun member => member.1 = Utf16.encode name.toList then
      .object (members.map (reassign name value))
    else .object (members ++ [(Utf16.encode name.toList, value)])
  | _ => .object [(Utf16.encode name.toList, value)]

/-! ## Fields -/

/-- Different names are different sequences of units. -/
theorem encode_name_inj {name other : String} :
    Utf16.encode name.toList = Utf16.encode other.toList ↔ name = other := by
  refine ⟨fun same => String.toList_injective (Utf16.encode_injective same), ?_⟩
  rintro rfl
  rfl

/-- A field is read where it is defined, if no other has its name. -/
theorem get?_ofFields {fields : List (String × Option Json)} (distinct : (fields.map Prod.fst).Nodup)
    (name : String) :
    (ofFields fields).get? name = (fields.find? fun field => field.1 = name).bind Prod.snd := by
  unfold ofFields get?
  -- The induction is on the fields; the last member of a name is the only one.
  induction fields with
  | nil => rfl
  | cons field rest ih =>
    obtain ⟨own, value⟩ := field
    rw [List.map_cons, List.nodup_cons] at distinct
    have earlier := ih distinct.2
    by_cases same : own = name
    · subst same
      have absent : rest.find? (fun field => field.1 = own) = none := by
        rw [List.find?_eq_none]
        intro other member
        simp only [decide_eq_true_eq]
        rintro rfl
        exact distinct.1 (List.mem_map.mpr ⟨other, member, rfl⟩)
      rw [absent, Option.bind_none, Option.map_eq_none_iff] at earlier
      cases value with
      | none => simpa [List.filterMap_cons] using earlier
      | some value => simp [List.find?_append, earlier]
    · cases value with
      | none => simpa [List.filterMap_cons, same] using earlier
      | some value =>
        simpa [List.filterMap_cons, List.find?_append, encode_name_inj, same] using earlier

/-- Fields with other names are left alone. -/
theorem map_reassign {fields : List (String × Option Json)} {name : String}
    (absent : name ∉ fields.map Prod.fst) (value : Json) :
    (fields.filterMap memberOf).map (reassign name value) = fields.filterMap memberOf := by
  conv_rhs => rw [← List.map_id (fields.filterMap memberOf)]
  -- A member with the name would have been a field with it.
  refine List.map_congr_left fun member found => if_neg ?_
  obtain ⟨field, listed, spelled⟩ := List.mem_filterMap.mp found
  obtain ⟨_, _, rfl⟩ := Option.map_eq_some_iff.mp spelled
  rw [encode_name_inj]
  rintro rfl
  exact absent (List.mem_map_of_mem listed)

/-- A field that is defined is set in its place, if no other has its name. -/
theorem assign_ofFields {front back : List (String × Option Json)} {name : String}
    (absentFront : name ∉ front.map Prod.fst) (absentBack : name ∉ back.map Prod.fst)
    (before after : Json) :
    (ofFields (front ++ (name, some before) :: back)).assign name after =
      ofFields (front ++ (name, some after) :: back) := by
  simp only [ofFields, assign, List.filterMap_append, List.filterMap_cons, memberOf_some]
  rw [if_pos (by simp), List.map_append, List.map_cons, map_reassign absentFront,
    map_reassign absentBack, reassign, if_pos rfl]

/-! ## Reading what was written inside quotation marks -/

/-- A digit is read back as its value. -/
theorem hexValue_digitChar {value : Nat} (small : value < 16) :
    hexValue (Nat.digitChar value) = some value := by
  have all : ∀ value < 16, hexValue (Nat.digitChar value) = some value := by decide
  exact all value small

/-- Four digits are read back as the unit that they spell. -/
theorem unquote_hexDigits {number : Nat} (small : number < 0x10000) (rest : List Char) :
    unquote ('\\' :: 'u' :: (hexDigits number ++ rest)) =
      (unquote rest).map (prepend [UInt16.ofNat number]) := by
  have digit : ∀ part, hexValue (Nat.digitChar (part % 16)) = some (part % 16) :=
    fun part => hexValue_digitChar (Nat.mod_lt _ (by decide))
  -- The four digits make up the number again.
  have whole : number / 0x1000 % 16 * 0x1000 + number / 0x100 % 16 * 0x100 +
      number / 0x10 % 16 * 0x10 + number % 16 = number := by omega
  simp only [hexDigits, List.cons_append, List.nil_append]
  rw [unquote, if_neg (by decide), if_pos rfl, if_pos rfl]
  simp only [digit, whole]

/-- A letter behind a backslash is read back as the unit that it stands for. -/
theorem unquote_letter {letter : Char} {unit : UInt16} (other : letter ≠ 'u')
    (stands : unescape letter = some unit) (rest : List Char) :
    unquote ('\\' :: letter :: rest) = (unquote rest).map (prepend [unit]) := by
  rw [unquote.eq_def]
  simp only [if_neg (show '\\' ≠ '"' by decide), if_true, if_neg other, stands]

/-- A character that needs no escape is read back as its units. -/
theorem unquote_plain {character : Char} (large : 0x20 ≤ character.toNat) (unquoted : character ≠ '"')
    (unescaped : character ≠ '\\') (rest : List Char) :
    unquote (character :: rest) = (unquote rest).map (prepend (Utf16.encodeChar character)) := by
  rw [unquote.eq_def]
  simp only [if_neg unquoted, if_neg unescaped, if_neg (Nat.not_lt.mpr large)]

/-- A unit that is no surrogate is the one unit of its character. -/
theorem encodeChar_ofNat {unit : UInt16} (ordinary : Utf16.isWellFormed [unit] = true) :
    Utf16.encodeChar (Char.ofNat unit.toNat) = [unit] ∧
      (Char.ofNat unit.toNat).toNat = unit.toNat := by
  simp only [Utf16.isWellFormed, Utf16.isHigh, Utf16.isLow, Bool.and_eq_true, Bool.not_eq_true',
    decide_eq_false_iff_not] at ordinary
  have small := unit.toNat_lt
  -- Below 65536, all but the surrogates are characters.
  have valid : unit.toNat.isValidChar := by unfold Nat.isValidChar; omega
  have number := Utf8.toNat_ofNat_of_valid valid
  exact ⟨by rw [Utf16.encodeChar, number, if_pos small, UInt16.ofNat_toNat], number⟩

/-- A pair of surrogates is the pair of its character, which lies beyond the first plane. -/
theorem encodeChar_pairChar {high low : UInt16} (isHigh : Utf16.isHigh high = true)
    (isLow : Utf16.isLow low = true) :
    Utf16.encodeChar (pairChar high low) = [high, low] ∧ 0x10000 ≤ (pairChar high low).toNat := by
  simp only [Utf16.isHigh, Utf16.isLow, decide_eq_true_eq] at isHigh isLow
  -- Each half carries ten bits of the code point.
  let codePoint := 0x10000 + (high.toNat - 0xD800) * 0x400 + (low.toNat - 0xDC00)
  have valid : codePoint.isValidChar := by unfold Nat.isValidChar; omega
  have number : (pairChar high low).toNat = codePoint := Utf8.toNat_ofNat_of_valid valid
  have first : 0xD800 + (codePoint - 0x10000) / 0x400 = high.toNat := by omega
  have second : 0xDC00 + (codePoint - 0x10000) % 0x400 = low.toNat := by omega
  refine ⟨?_, by omega⟩
  rw [Utf16.encodeChar, number, if_neg (by omega), first, second, UInt16.ofNat_toNat,
    UInt16.ofNat_toNat]

/-- A unit is read back, however it is escaped. -/
theorem unquote_escapeUnit (unit : UInt16) (rest : List Char) :
    unquote (escapeUnit unit ++ rest) = (unquote rest).map (prepend [unit]) := by
  have same : ∀ number, unit.toNat = number → unit = UInt16.ofNat number := by
    intro number equal
    rw [← equal, UInt16.ofNat_toNat]
  -- Seven units have letters of their own, and some are spelled out.
  unfold escapeUnit
  split
  · next equal => rw [same _ equal]; exact unquote_letter (by decide) rfl rest
  split
  · next equal => rw [same _ equal]; exact unquote_letter (by decide) rfl rest
  split
  · next equal => rw [same _ equal]; exact unquote_letter (by decide) rfl rest
  split
  · next equal => rw [same _ equal]; exact unquote_letter (by decide) rfl rest
  split
  · next equal => rw [same _ equal]; exact unquote_letter (by decide) rfl rest
  split
  · next equal => rw [same _ equal]; exact unquote_letter (by decide) rfl rest
  split
  · next equal => rw [same _ equal]; exact unquote_letter (by decide) rfl rest
  split
  · rw [List.cons_append, List.cons_append, unquote_hexDigits unit.toNat_lt, UInt16.ofNat_toNat]
  · next unquoted unescaped plain =>
    rw [not_or, Nat.not_lt, Bool.not_eq_false] at plain
    obtain ⟨encodes, number⟩ := encodeChar_ofNat plain.2
    have other : ∀ character : Char, unit.toNat ≠ character.toNat →
        Char.ofNat unit.toNat ≠ character := by
      intro character differs equal
      rw [← number, equal] at differs
      exact differs rfl
    rw [List.singleton_append, unquote_plain (by omega) (other '"' unquoted) (other '\\' unescaped),
      encodes]

/-- A string is read back up to the quotation mark that ends it. -/
theorem unquote_quoteUnits (units : List UInt16) (rest : List Char) :
    unquote (quoteUnits units ++ '"' :: rest) = some (units, rest) := by
  have ends : unquote ('"' :: rest) = some ([], rest) := by
    rw [unquote.eq_def]
    simp only [if_true]
  -- The induction follows the pairs, each of which is one character.
  induction units using quoteUnits.induct with
  | case1 => exact ends
  | case2 unit =>
    rw [quoteUnits, unquote_escapeUnit, ends]
    rfl
  | case3 high low later pair ih =>
    obtain ⟨isHigh, isLow⟩ := Bool.and_eq_true_iff.mp pair
    obtain ⟨encodes, large⟩ := encodeChar_pairChar isHigh isLow
    have other : ∀ character : Char, character.toNat < 0x10000 → pairChar high low ≠ character := by
      intro character small equal
      rw [equal] at large
      omega
    rw [quoteUnits, if_pos pair, List.cons_append, unquote_plain (by omega)
      (other '"' (by decide)) (other '\\' (by decide)), ih, encodes]
    rfl
  | case4 high low later unpaired ih =>
    rw [quoteUnits, if_neg unpaired, List.append_assoc, unquote_escapeUnit, ih]
    rfl

/-! ## Reading numbers -/

/-- A text that does not go on with a number. -/
def Delimits (text : List Char) : Prop :=
  ∀ first, text.head? = some first → first = ',' ∨ first = ']' ∨ first = '}'

/-- Only zero has a decimal text that begins with a zero. -/
theorem toDigits_head (number : Nat) (zero : (Nat.toDigits 10 number).head? = some '0') :
    (Nat.toDigits 10 number).length = 1 := by
  -- The induction takes off the last digit.
  induction number using Nat.strong_induction_on with
  | _ number ih =>
    by_cases small : number < 10
    · rw [Nat.toDigits_of_lt_base small]
      rfl
    · have tens : 0 < number / 10 := Nat.div_pos (by omega) (by decide)
      rw [Nat.toDigits_of_base_le (by decide) (by omega)] at zero ⊢
      have filled : Nat.toDigits 10 (number / 10) ≠ [] := Nat.toDigits_ne_nil
      rw [List.head?_append_of_ne_nil _ filled] at zero
      have single := ih (number / 10) (by omega) zero
      -- A single digit that is a zero stands for zero.
      obtain ⟨digit, only⟩ := List.length_eq_one_iff.mp single
      rw [only] at zero
      obtain rfl : digit = '0' := by simpa using zero
      have value := Nat.ofDigitChars_ten_toDigits (n := number / 10)
      rw [only] at value
      have none : number / 10 = 0 := value.symm
      omega

/-- Digits end where the number does. -/
theorem span_digits {digits rest : List Char} (numeric : ∀ digit ∈ digits, digit.isDigit = true)
    (delimits : Delimits rest) : (digits ++ rest).takeWhile Char.isDigit = digits ∧
      (digits ++ rest).dropWhile Char.isDigit = rest := by
  -- What delimits a number is no digit.
  have stops : rest.takeWhile Char.isDigit = [] ∧ rest.dropWhile Char.isDigit = rest := by
    cases rest with
    | nil => exact ⟨rfl, rfl⟩
    | cons first later =>
      rcases delimits first rfl with rfl | rfl | rfl <;> exact ⟨rfl, rfl⟩
  rw [List.takeWhile_append_of_pos numeric, List.dropWhile_append_of_pos numeric, stops.1, stops.2,
    List.append_nil]
  exact ⟨rfl, rfl⟩

/-- A number is read back up to what delimits it. -/
theorem readNumber_stringify (value : Int) {rest : List Char} (delimits : Delimits rest) :
    readNumber (stringify (.number value) ++ rest) = some (.number value, rest) := by
  have numeric : ∀ digit ∈ Nat.toDigits 10 value.natAbs, digit.isDigit = true :=
    fun _ => Nat.isDigit_of_mem_toDigits (by decide) (by decide)
  have filled : Nat.toDigits 10 value.natAbs ≠ [] := Nat.toDigits_ne_nil
  obtain ⟨taken, dropped⟩ := span_digits numeric delimits
  -- Decimal digits have no leading zero, and no fraction or exponent follows them.
  have shaped : ¬ (Nat.toDigits 10 value.natAbs = [] ∨
      ((Nat.toDigits 10 value.natAbs).head? = some '0' ∧ 1 < (Nat.toDigits 10 value.natAbs).length) ∨
      rest.head? = some '.' ∨ rest.head? = some 'e' ∨ rest.head? = some 'E') := by
    rintro (empty | ⟨zero, long⟩ | follows | follows | follows)
    · exact filled empty
    · rw [toDigits_head _ zero] at long
      omega
    all_goals
      rcases delimits _ follows with impossible | impossible | impossible <;>
        exact absurd impossible (by decide)
  unfold readNumber stringify
  -- The sign is read first, the digits behind it in the same way.
  by_cases negative : value < 0
  · rw [if_pos negative]
    simp only [List.cons_append, List.head?_cons, List.tail_cons, if_true, taken, dropped, if_neg shaped,
      Nat.ofDigitChars_ten_toDigits]
    rw [show -((value.natAbs : Nat) : Int) = value by omega]
  · have unsigned : (Nat.toDigits 10 value.natAbs ++ rest).head? ≠ some '-' := by
      rw [List.head?_append_of_ne_nil _ filled]
      intro minus
      have digit := numeric '-' (List.mem_of_mem_head? minus)
      exact absurd digit (by decide)
    rw [if_neg negative]
    simp only [if_neg unsigned, taken, dropped, if_neg shaped, Nat.ofDigitChars_ten_toDigits]
    rw [show ((value.natAbs : Nat) : Int) = value by omega]

/-! ## Reading values -/

/-- A token is not skipped. -/
theorem skip_token {first : Char} (token : isWhitespace first = false) (rest : List Char) :
    skip (first :: rest) = first :: rest := by
  rw [skip, List.dropWhile_cons, if_neg (by simp [token])]

/-- A number begins with a character of its own. -/
theorem stringify_number (value : Int) : ∃ first rest, stringify (.number value) = first :: rest ∧
    (first = '-' ∨ first.isDigit = true) := by
  -- A negative number begins with its sign, and any other one with a digit.
  unfold stringify
  split
  · exact ⟨'-', _, rfl, .inl rfl⟩
  · obtain ⟨first, rest, digits⟩ := List.exists_cons_of_ne_nil
      (Nat.toDigits_ne_nil (n := value.natAbs) (b := 10))
    refine ⟨first, rest, digits, .inr ?_⟩
    exact Nat.isDigit_of_mem_toDigits (by decide) (by decide)
      (digits ▸ List.mem_cons_self : first ∈ Nat.toDigits 10 value.natAbs)

/-- No other value begins so. -/
theorem readValue_number (fuel : Nat) {first : Char} (own : first = '-' ∨ first.isDigit = true)
    (rest : List Char) : readValue (fuel + 1) (first :: rest) = readNumber (first :: rest) := by
  -- The first character of a number starts no other form.
  have other : ∀ character : Char, character ≠ '-' → character.isDigit = false → first ≠ character := by
    rintro character unsigned notDigit rfl
    rcases own with same | digit
    · exact unsigned same
    · rw [notDigit] at digit
      exact absurd digit (by decide)
  have token : isWhitespace first = false := by
    simp [isWhitespace, other ' ', other '\t', other '\n', other '\r']
  rw [readValue, skip_token token]
  simp only [if_neg (other '"' (by decide) (by decide)), if_neg (other '[' (by decide) (by decide)),
    if_neg (other '\x7b' (by decide) (by decide)), if_neg (other 'n' (by decide) (by decide)),
    if_neg (other 't' (by decide) (by decide)), if_neg (other 'f' (by decide) (by decide))]

/-- The items of an array are written one behind the other. -/
theorem stringifyItems_cons (item : Json) (items : List Json) :
    stringifyItems (item :: items) =
      stringify item ++ (if items = [] then [']'] else ',' :: stringifyItems items) := by
  cases items <;> simp [stringifyItems]

/-- So are the members of an object. -/
theorem stringifyMembers_cons (key : List UInt16) (value : Json) (members : List (List UInt16 × Json)) :
    stringifyMembers ((key, value) :: members) =
      '"' :: (quoteUnits key ++ '"' :: ':' :: (stringify value ++
        (if members = [] then ['\x7d'] else ',' :: stringifyMembers members))) := by
  cases members <;> simp [stringifyMembers]

/-- What a value begins with. -/
theorem stringify_head (json : Json) : ∃ first rest, stringify json = first :: rest ∧
    isWhitespace first = false ∧ first ≠ ']' := by
  -- All forms but numbers and booleans start with a fixed character.
  cases json with
  | null | string _ | array _ | object _ =>
    rw [stringify]
    exact ⟨_, _, rfl, by decide, by decide⟩
  | bool value => cases value <;> (rw [stringify]; exact ⟨_, _, rfl, by decide, by decide⟩)
  | number value =>
    obtain ⟨first, rest, same, own⟩ := stringify_number value
    refine ⟨first, rest, same, ?_, ?_⟩
    · rcases own with rfl | digit
      · decide
      · simp only [isWhitespace, Bool.or_eq_false_iff, decide_eq_false_iff_not]
        refine ⟨⟨⟨?_, ?_⟩, ?_⟩, ?_⟩ <;> (rintro rfl; exact absurd digit (by decide))
    · rintro rfl
      rcases own with impossible | impossible <;> exact absurd impossible (by decide)

/-- Values are read back with so much fuel, up to what delimits them. -/
def ReadsValues (fuel : Nat) : Prop :=
  ∀ json rest, (stringify json).length ≤ fuel → Delimits rest →
    readValue fuel (stringify json ++ rest) = some (json, rest)

/-- Items are read back with so much fuel, up to the end of their array. -/
def ReadsItems (fuel : Nat) : Prop :=
  ∀ item items rest, (stringifyItems (item :: items)).length ≤ fuel →
    readItems fuel (stringifyItems (item :: items) ++ rest) = some (item :: items, rest)

/-- Members are read back with so much fuel, up to the end of their object. -/
def ReadsMembers (fuel : Nat) : Prop :=
  ∀ key value members rest, (stringifyMembers ((key, value) :: members)).length ≤ fuel →
    readMembers fuel (stringifyMembers ((key, value) :: members) ++ rest) =
      some ((key, value) :: members, rest)

/-- A value is read back by what reads the items and the members inside it. -/
theorem ReadsValues.succ {fuel : Nat} (readsItems : ReadsItems fuel) (readsMembers : ReadsMembers fuel) :
    ReadsValues (fuel + 1) := by
  intro json rest enough delimits
  cases json with
  | null => rw [stringify]; rfl
  | bool value => cases value <;> (rw [stringify]; rfl)
  | number value =>
    obtain ⟨first, tail, same, own⟩ := stringify_number value
    rw [same, List.cons_append, readValue_number fuel own, ← List.cons_append, ← same,
      readNumber_stringify value delimits]
  | string units =>
    rw [stringify, List.cons_append, List.append_assoc, List.singleton_append, readValue,
      skip_token (by decide)]
    simp only [if_true, unquote_quoteUnits, Option.map_some]
  | array items =>
    rw [stringify, List.length_cons] at enough
    rw [stringify, List.cons_append, readValue, skip_token (by decide)]
    simp only [if_neg (show '[' ≠ '"' by decide), if_true]
    cases items with
    | nil =>
      rw [stringifyItems, List.singleton_append, skip_token (by decide)]
      rfl
    | cons item items =>
      -- An item does not begin with the end of the array.
      obtain ⟨first, tail, begins, token, other⟩ := stringify_head item
      have goes : (skip (stringifyItems (item :: items) ++ rest)).head? ≠ some ']' := by
        rw [stringifyItems_cons, begins, List.cons_append, List.cons_append, skip_token token]
        simpa using other
      rw [if_neg goes, readsItems item items rest (by omega)]
      rfl
  | object members =>
    rw [stringify, List.length_cons] at enough
    rw [stringify, List.cons_append, readValue, skip_token (by decide)]
    simp only [if_neg (show '\x7b' ≠ '"' by decide), if_neg (show '\x7b' ≠ '[' by decide), if_true]
    cases members with
    | nil =>
      rw [stringifyMembers, List.singleton_append, skip_token (by decide)]
      rfl
    | cons member members =>
      obtain ⟨key, value⟩ := member
      have goes : (skip (stringifyMembers ((key, value) :: members) ++ rest)).head? ≠
          some '\x7d' := by
        rw [stringifyMembers_cons, List.cons_append, skip_token (by decide)]
        simp
      rw [if_neg goes, readsMembers key value members rest (by omega)]
      rfl

/-- Items are read back one by one. -/
theorem ReadsItems.succ {fuel : Nat} (readsValues : ReadsValues fuel) (readsItems : ReadsItems fuel) :
    ReadsItems (fuel + 1) := by
  intro item items rest enough
  rw [stringifyItems_cons, List.length_append] at enough
  rw [stringifyItems_cons, List.append_assoc, readItems]
  -- A bracket ends the array behind its last item, a comma leads to the next one.
  cases items with
  | nil =>
    simp only [if_true, List.length_singleton] at enough
    have own := readsValues item (']' :: rest) (by omega) (by simp [Delimits])
    simp only [if_true, List.singleton_append, own, skip_token (show isWhitespace ']' = false by decide)]
  | cons next items =>
    simp only [reduceCtorEq, if_false, List.length_cons] at enough
    have own := readsValues item (',' :: (stringifyItems (next :: items) ++ rest)) (by omega)
      (by simp [Delimits])
    have later := readsItems next items rest (by omega)
    simp only [reduceCtorEq, if_false, List.cons_append, own,
      skip_token (show isWhitespace ',' = false by decide), if_neg (show ',' ≠ ']' by decide), if_true, later,
      Option.map_some]

/-- So are members, each with its key. -/
theorem ReadsMembers.succ {fuel : Nat} (readsValues : ReadsValues fuel)
    (readsMembers : ReadsMembers fuel) : ReadsMembers (fuel + 1) := by
  intro key value members rest enough
  rw [stringifyMembers_cons] at enough
  simp only [List.length_cons, List.length_append] at enough
  rw [stringifyMembers_cons, List.cons_append, List.append_assoc, List.cons_append, List.cons_append,
    List.append_assoc, readMembers, skip_token (by decide)]
  simp only [if_true, unquote_quoteUnits, skip_token (show isWhitespace ':' = false by decide)]
  -- A brace ends the object behind its last member, a comma leads to the next one.
  cases members with
  | nil =>
    simp only [if_true, List.length_singleton] at enough
    have own := readsValues value ('\x7d' :: rest) (by omega) (by simp [Delimits])
    simp only [if_true, List.singleton_append, own,
      skip_token (show isWhitespace '\x7d' = false by decide)]
  | cons next members =>
    obtain ⟨nextKey, nextValue⟩ := next
    simp only [reduceCtorEq, if_false, List.length_cons] at enough
    have own := readsValues value (',' :: (stringifyMembers ((nextKey, nextValue) :: members) ++ rest))
      (by omega) (by simp [Delimits])
    have later := readsMembers nextKey nextValue members rest (by omega)
    simp only [reduceCtorEq, if_false, List.cons_append, own,
      skip_token (show isWhitespace ',' = false by decide), if_neg (show ',' ≠ '\x7d' by decide), if_true,
      later, Option.map_some]

/-- Fuel for every character is enough, because each call reads one at least. -/
theorem reads (fuel : Nat) : ReadsValues fuel ∧ ReadsItems fuel ∧ ReadsMembers fuel := by
  induction fuel with
  | zero =>
    -- No text is empty.
    refine ⟨?_, ?_, ?_⟩
    · intro json rest enough
      obtain ⟨first, tail, begins, _⟩ := stringify_head json
      simp [begins] at enough
    · intro item items rest enough
      obtain ⟨first, tail, begins, _⟩ := stringify_head item
      simp [stringifyItems_cons, begins] at enough
    · intro key value members rest enough
      simp [stringifyMembers_cons] at enough
  | succ fuel ih =>
    obtain ⟨values, items, members⟩ := ih
    exact ⟨.succ items members, .succ values items, .succ values members⟩

/-- Every value is read back from its text. -/
@[simp] theorem parse_stringify (json : Json) : parse (stringify json) = some json := by
  have read := (reads ((stringify json).length + 1)).1 json [] (Nat.le_succ _) (by simp [Delimits])
  rw [List.append_nil] at read
  rw [parse, read]
  rfl

end Json
