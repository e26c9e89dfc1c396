import AudienceScope.Json.Reader

/-!
Scanning what was printed. The text of a value is scanned as the tree of the value, whatever white
space the layout puts between its parts, if the value stays within the nesting limit and all its
numbers are integers within their range. Escaped text is read back character by character, and an
integer by its digits; a number ends before whatever may follow a value. Main statements:
`scansBack_of_bounded` and `readPage_print`.
-/

set_option autoImplicit false

namespace AudienceScope.Json

open Text (isDigit digitValue hexValue?)

theorem skipGap_append {gap : List Char} (allGap : ∀ c ∈ gap, isGap c = true)
    (chars : List Char) : skipGap (gap ++ chars) = skipGap chars :=
  List.dropWhile_append_of_pos allGap

theorem skipGap_cons {c : Char} (starts : isGap c = false) (rest : List Char) :
    skipGap (c :: rest) = c :: rest :=
  List.dropWhile_cons_of_neg (Bool.eq_false_iff.mp starts)

/-- Nothing but white space stands between the parts of a value. -/
structure Layout.IsBlank (layout : Layout) : Prop where
  pad : ∀ level, ∀ c ∈ layout.pad level, isGap c = true
  gap : ∀ c ∈ layout.gap, isGap c = true

theorem Layout.isBlank_compact : Layout.compact.IsBlank where
  pad _ _ member := absurd member List.not_mem_nil
  gap _ member := absurd member List.not_mem_nil

theorem Layout.isBlank_indented : Layout.indented.IsBlank where
  pad level c member := by
    rcases List.mem_cons.mp member with rfl | blank
    · rfl
    · rw [List.eq_of_mem_replicate blank]
      rfl
  gap c member := by
    rw [List.mem_singleton.mp member]
    rfl

theorem hexValue?_hexDigit {value : Nat} (small : value < 16) :
    hexValue? (hexDigit value) = some value := by
  have all : ∀ value < 16, hexValue? (hexDigit value) = some value := by decide
  exact all value small

theorem hexUnit_control {value : Nat} (control : value < 32) (rest : List Char) :
    hexUnit ('0' :: '0' :: hexDigit (value / 16) :: hexDigit (value % 16) :: rest) = .ok value := by
  have zero : hexValue? '0' = some 0 := rfl
  have high := hexValue?_hexDigit (show value / 16 < 16 by omega)
  have low := hexValue?_hexDigit (show value % 16 < 16 by omega)
  have unit : ((0 * 16 + 0) * 16 + value / 16) * 16 + value % 16 = value := by omega
  simp only [hexUnit, zero, high, low, unit]

theorem readQuoted_control {c : Char} (control : c.toNat < 32) (rest : List Char) :
    readQuoted ('\\' :: 'u' :: '0' :: '0' :: hexDigit (c.toNat / 16) :: hexDigit (c.toNat % 16) ::
        rest) =
      (readQuoted rest).map fun (read, left) => (c :: read, left) := by
  have notTrailing : isTrailingUnit c.toNat = false := by
    rw [isTrailingUnit, decide_eq_false (by omega), Bool.false_and]
  have notLeading : isLeadingUnit c.toNat = false := by
    rw [isLeadingUnit, decide_eq_false (by omega), Bool.false_and]
  rw [readQuoted]
  simp only [hexUnit_control control, notTrailing, notLeading, Char.ofNat_toNat]
  rfl

theorem readQuoted_plain {c : Char} (notQuote : c ≠ '"') (notBackslash : c ≠ '\\')
    (printable : ¬ c.toNat < 32) (rest : List Char) :
    readQuoted (c :: rest) = (readQuoted rest).map fun (read, left) => (c :: read, left) := by
  rw [readQuoted.eq_def]
  split
  · rename_i same
    cases same
  · rename_i same
    exact absurd (List.cons.inj same).1 notQuote
  · rename_i same
    exact absurd (List.cons.inj same).1 notBackslash
  · rename_i same
    exact absurd (List.cons.inj same).1 notBackslash
  · rename_i same
    exact absurd (List.cons.inj same).1 notBackslash
  · rename_i same
    obtain ⟨rfl, rfl⟩ := List.cons.inj same
    rw [if_neg printable]

theorem readQuoted_escapeChar (c : Char) (rest : List Char) :
    readQuoted (escapeChar c ++ rest) =
      (readQuoted rest).map fun (read, left) => (c :: read, left) := by
  unfold escapeChar
  split
  · rename_i quote
    subst quote
    rfl
  rename_i notQuote
  split
  · rename_i backslash
    subst backslash
    rfl
  rename_i notBackslash
  split
  · rename_i backspace
    subst backspace
    rfl
  split
  · rename_i formFeed
    subst formFeed
    rfl
  split
  · rename_i lineFeed
    subst lineFeed
    rfl
  split
  · rename_i carriageReturn
    subst carriageReturn
    rfl
  split
  · rename_i tab
    subst tab
    rfl
  split
  · rename_i control
    exact readQuoted_control control rest
  · rename_i printable
    exact readQuoted_plain notQuote notBackslash printable rest

theorem readQuoted_append (text rest : List Char) :
    readQuoted (text.flatMap escapeChar ++ '"' :: rest) = .ok (text, rest) := by
  induction text with
  | nil => rfl
  | cons c text ih =>
      rw [List.flatMap_cons, List.append_assoc, readQuoted_escapeChar, ih]
      rfl

theorem scanQuoted_append (text rest : List Char) :
    scanQuoted (text.flatMap escapeChar ++ '"' :: rest) = (.ok text, some rest) := by
  rw [scanQuoted, readQuoted_append]

theorem isDigit_eq (c : Char) : isDigit c = c.isDigit := by
  rw [Bool.eq_iff_iff, isDigit, Bool.and_eq_true, decide_eq_true_iff, decide_eq_true_iff,
    Char.isDigit, Bool.and_eq_true, decide_eq_true_iff, decide_eq_true_iff]
  rfl

/-- No number goes on into this text. -/
def EndsNumber (rest : List Char) : Prop :=
  ∀ c ∈ rest.head?, isDigit c = false ∧ c ≠ '.' ∧ c ≠ 'e' ∧ c ≠ 'E'

theorem isDigit_of_mem_toDigits {value : Nat} {c : Char} (member : c ∈ Nat.toDigits 10 value) :
    isDigit c = true := by
  rw [isDigit_eq]
  exact Nat.isDigit_of_mem_toDigits (by decide) (by decide) member

theorem toDigits_eq_cons (value : Nat) :
    ∃ first digits, Nat.toDigits 10 value = first :: digits ∧ isDigit first = true := by
  cases written : Nat.toDigits 10 value with
  | nil => exact absurd written Nat.toDigits_ne_nil
  | cons first digits =>
      have member : first ∈ Nat.toDigits 10 value := by
        rw [written]
        exact List.mem_cons_self
      exact ⟨first, digits, rfl, isDigit_of_mem_toDigits member⟩

theorem head_toDigits_ne_zero {value : Nat} (positive : 0 < value) {digits : List Char} :
    Nat.toDigits 10 value ≠ '0' :: digits := by
  induction value using Nat.strongRecOn generalizing digits with
  | ind value ih =>
      rw [Nat.toDigits_eq_if (by decide)]
      split
      · intro same
        have zero : value = 0 := Nat.digitChar_eq_zero.mp (List.cons.inj same).1
        omega
      · intro same
        obtain ⟨first, others, written, _⟩ := toDigits_eq_cons (value / 10)
        rw [written] at same
        rw [(List.cons.inj same).1] at written
        exact ih (value / 10) (by omega) (by omega) written

theorem foldl_digitValue_toDigits (value : Nat) :
    ((Nat.toDigits 10 value).map digitValue).foldl (fun sum digit => sum * 10 + digit) 0 =
      value := by
  have read := @Nat.ofDigitChars_ten_toDigits value
  rw [Nat.ofDigitChars_eq_foldl] at read
  rw [List.foldl_map]
  simpa only [Nat.mul_comm, digitValue] using read

theorem spanDigits_append {digits rest : List Char} (all : ∀ c ∈ digits, isDigit c = true)
    (ends : EndsNumber rest) :
    spanDigits (digits ++ rest) = (digits.map digitValue, rest) := by
  have taken : rest.takeWhile isDigit = [] ∧ rest.dropWhile isDigit = rest := by
    cases rest with
    | nil => exact ⟨rfl, rfl⟩
    | cons c rest =>
        have stops : ¬ isDigit c = true := Bool.eq_false_iff.mp (ends c rfl).1
        exact ⟨List.takeWhile_cons_of_neg stops, List.dropWhile_cons_of_neg stops⟩
  rw [spanDigits, List.takeWhile_append_of_pos all, List.dropWhile_append_of_pos all, taken.1,
    taken.2, List.append_nil]

theorem readWhole_toDigits (value : Nat) {rest : List Char} (ends : EndsNumber rest) :
    readWhole (Nat.toDigits 10 value ++ rest) =
      .ok ((Nat.toDigits 10 value).map digitValue, rest) := by
  obtain rfl | positive := Nat.eq_zero_or_pos value
  · cases rest with
    | nil => rfl
    | cons c rest =>
        have stops : isDigit c = false := (ends c rfl).1
        simp [readWhole, stops, digitValue]
  · obtain ⟨first, digits, written, digit⟩ := toDigits_eq_cons value
    have notZero : first ≠ '0' := by
      rintro rfl
      exact head_toDigits_ne_zero positive written
    have all : ∀ c ∈ first :: digits, isDigit c = true := by
      intro c member
      exact isDigit_of_mem_toDigits (written ▸ member)
    rw [written, readWhole.eq_def]
    split
    · rename_i same
      exact absurd (List.cons.inj same).1 notZero
    · rw [List.cons_append, someDigits, if_pos digit, ← List.cons_append,
        spanDigits_append all ends]

theorem readFraction_of_ends {rest : List Char} (ends : EndsNumber rest) :
    readFraction rest = .ok (none, rest) := by
  unfold readFraction
  split
  · exact absurd rfl (ends '.' rfl).2.1
  · rfl

theorem readExponent_of_ends {rest : List Char} (ends : EndsNumber rest) :
    readExponent rest = .ok (none, rest) := by
  cases rest with
  | nil => rfl
  | cons c rest =>
      obtain ⟨_, _, notSmall, notLarge⟩ := ends c rfl
      rw [readExponent.eq_def]
      simp only
      rw [if_neg (not_or.mpr ⟨notSmall, notLarge⟩)]

def integerLiteral (value : Int) : DecimalLiteral :=
  ⟨decide (value < 0), (Nat.toDigits 10 value.natAbs).map digitValue, none, none⟩

theorem readLiteral_integerText (value : Int) {rest : List Char} (ends : EndsNumber rest) :
    readLiteral (integerText value ++ rest) = .ok (integerLiteral value, rest) := by
  cases value with
  | ofNat value =>
      obtain ⟨first, digits, written, digit⟩ := toDigits_eq_cons value
      have notSign : first ≠ '-' := by
        rintro rfl
        exact absurd digit (by decide)
      have whole := readWhole_toDigits value ends
      rw [written, List.cons_append] at whole
      rw [integerText, written, List.cons_append, readLiteral, whole]
      · simp only [readFraction_of_ends ends, readExponent_of_ends ends]
        simp [integerLiteral, written]
      · intro unsigned same
        exact notSign (List.cons.inj same).1
  | negSucc value =>
      rw [integerText, List.cons_append, readLiteral]
      simp only [readWhole_toDigits _ ends, readFraction_of_ends ends, readExponent_of_ends ends]
      simp [integerLiteral, Int.negSucc_lt_zero]

theorem numberOf_integerLiteral {value : Int} (least : leastInteger ≤ value)
    (greatest : value ≤ greatestInteger) :
    numberOf (integerLiteral value) = .ok (.integer value) := by
  have magnitude := foldl_digitValue_toDigits value.natAbs
  have signed : (if decide (value < 0) = true then -(value.natAbs : Int) else value.natAbs) =
      value := by
    split <;> rename_i sign <;> simp at sign <;> omega
  have notMinusZero : ¬ (decide (value < 0) = true ∧ value.natAbs = 0) := by
    simp
    omega
  rw [numberOf, integerLiteral]
  simp only [magnitude, signed]
  rw [if_pos ⟨trivial, trivial, notMinusZero, least, greatest⟩]

theorem scanNumber_integerText {value : Int} (least : leastInteger ≤ value)
    (greatest : value ≤ greatestInteger) {rest : List Char} (ends : EndsNumber rest) :
    scanNumber (integerText value ++ rest) = (.number (.integer value), some rest) := by
  rw [scanNumber, readLiteral_integerText value ends]
  simp only [numberOf_integerLiteral least greatest]

def StartsNumber (c : Char) : Prop := c = '-' ∨ isDigit c = true

theorem integerText_eq_cons (value : Int) :
    ∃ first chars, integerText value = first :: chars ∧ StartsNumber first := by
  cases value with
  | ofNat value =>
      obtain ⟨first, digits, written, digit⟩ := toDigits_eq_cons value
      exact ⟨first, digits, written, .inr digit⟩
  | negSucc value => exact ⟨'-', _, rfl, .inl rfl⟩

theorem StartsNumber.ne {c other : Char} (starts : StartsNumber c)
    (otherwise : other ≠ '-' ∧ isDigit other = false) : c ≠ other := by
  rintro rfl
  rcases starts with sign | digit
  · exact otherwise.1 sign
  · rw [otherwise.2] at digit
    cases digit

theorem StartsNumber.isGap_eq_false {c : Char} (starts : StartsNumber c) : isGap c = false := by
  have notBlank : c ≠ ' ' := starts.ne (by decide)
  have notLineFeed : c ≠ '\n' := starts.ne (by decide)
  have notTab : c ≠ '\t' := starts.ne (by decide)
  have notReturn : c ≠ '\r' := starts.ne (by decide)
  simp [isGap, notBlank, notLineFeed, notTab, notReturn]

mutual

/-- Whether a value inside `level` lists and objects stays within the nesting limit, and all its
numbers are integers within their range. -/
def IsBounded : (level : Nat) → Json → Prop
  | _, .number (.integer value) => leastInteger ≤ value ∧ value ≤ greatestInteger
  | _, .number (.binary _) => False
  | level, .list items => level < nestingLimit ∧ AreBounded (level + 1) items
  | level, .object members => level < nestingLimit ∧ MembersAreBounded (level + 1) members
  | _, _ => True

def AreBounded : (level : Nat) → List Json → Prop
  | _, [] => True
  | level, item :: rest => IsBounded level item ∧ AreBounded level rest

def MembersAreBounded : (level : Nat) → List (String × Json) → Prop
  | _, [] => True
  | level, (_, value) :: rest => IsBounded level value ∧ MembersAreBounded level rest

end

/-! ### Steps of scanning -/

theorem scanValue_scalar {chars : List Char} {c : Char} {tail : List Char}
    (starts : skipGap chars = c :: tail) (notList : c ≠ '[') (notObject : c ≠ '\x7b')
    (fuel level : Nat) : scanValue (fuel + 1) level chars = scanScalar (c :: tail) := by
  rw [scanValue, starts]
  split
  · rename_i same
    exact absurd (List.cons.inj same).1 notList
  · rename_i same
    exact absurd (List.cons.inj same).1 notObject
  · rfl

theorem scanValue_list {chars rest left : List Char} {fuel level : Nat} {items : List Tree}
    {ending : ListEnd} (starts : skipGap chars = '[' :: rest)
    (scanned : scanItems fuel (level + 1) rest = (items, ending, some left)) :
    scanValue (fuel + 1) level chars =
      (.list (decide (nestingLimit ≤ level)) items ending, some left) := by
  rw [scanValue, starts]
  simp only [scanned]

theorem scanValue_object {chars rest left : List Char} {fuel level : Nat}
    {members : List (Key × Tree)} {ending : ObjectEnd} (starts : skipGap chars = '\x7b' :: rest)
    (scanned : scanMembers fuel (level + 1) rest = (members, ending, some left)) :
    scanValue (fuel + 1) level chars =
      (.object (decide (nestingLimit ≤ level)) members ending, some left) := by
  rw [scanValue, starts]
  simp only [scanned]

theorem scanItems_nil {chars rest : List Char} (closes : skipGap chars = ']' :: rest)
    (fuel level : Nat) : scanItems (fuel + 1) level chars = ([], .closed, some rest) := by
  rw [scanItems, closes]
  rfl

theorem scanItems_cons {chars tail : List Char} {c : Char} (starts : skipGap chars = c :: tail)
    (notEnd : c ≠ ']') (fuel level : Nat) :
    scanItems (fuel + 1) level chars = scanItem fuel level (c :: tail) := by
  rw [scanItems, starts]
  split
  · rename_i same
    cases same
  · rename_i same
    exact absurd (List.cons.inj same).1 notEnd
  · rfl

theorem scanMembers_nil {chars rest : List Char} (closes : skipGap chars = '\x7d' :: rest)
    (fuel level : Nat) : scanMembers (fuel + 1) level chars = ([], .closed, some rest) := by
  rw [scanMembers, closes]
  rfl

theorem scanMembers_cons {chars rest : List Char} (starts : skipGap chars = '"' :: rest)
    (fuel level : Nat) : scanMembers (fuel + 1) level chars = scanMember fuel level rest := by
  rw [scanMembers, starts]
  rfl

theorem scanItem_last {chars afterItem rest : List Char} {fuel level : Nat} {item : Tree}
    (scanned : scanValue fuel level chars = (item, some afterItem))
    (closes : skipGap afterItem = ']' :: rest) :
    scanItem (fuel + 1) level chars = ([item], .closed, some rest) := by
  rw [scanItem, scanned]
  simp only [closes]

theorem scanItem_next {chars afterItem afterComma tail : List Char} {c : Char} {fuel level : Nat}
    {item : Tree} {items : List Tree} {ending : ListEnd} {left : Option (List Char)}
    (scanned : scanValue fuel level chars = (item, some afterItem))
    (goesOn : skipGap afterItem = ',' :: afterComma) (next : skipGap afterComma = c :: tail)
    (notEnd : c ≠ ']') (others : scanItem fuel level (c :: tail) = (items, ending, left)) :
    scanItem (fuel + 1) level chars = (item :: items, ending, left) := by
  rw [scanItem, scanned]
  simp only [goesOn, next]
  split
  · rename_i same
    exact absurd (List.cons.inj same).1 notEnd
  · simp only [others]

theorem scanMember_last {chars afterColon afterValue rest name : List Char} {fuel level : Nat}
    {value : Tree} (named : scanQuoted chars = (.ok name, some (':' :: afterColon)))
    (scanned : scanValue fuel level afterColon = (value, some afterValue))
    (closes : skipGap afterValue = '\x7d' :: rest) :
    scanMember (fuel + 1) level chars =
      ([(.name (String.ofList name), value)], .closed, some rest) := by
  have colon : skipGap (':' :: afterColon) = ':' :: afterColon := skipGap_cons rfl afterColon
  rw [scanMember, named]
  simp only [colon, scanned, closes]

theorem scanMember_next {chars afterColon afterValue afterComma rest name : List Char}
    {fuel level : Nat} {value : Tree} {members : List (Key × Tree)} {ending : ObjectEnd}
    {left : Option (List Char)} (named : scanQuoted chars = (.ok name, some (':' :: afterColon)))
    (scanned : scanValue fuel level afterColon = (value, some afterValue))
    (goesOn : skipGap afterValue = ',' :: afterComma) (next : skipGap afterComma = '"' :: rest)
    (others : scanMember fuel level rest = (members, ending, left)) :
    scanMember (fuel + 1) level chars =
      ((.name (String.ofList name), value) :: members, ending, left) := by
  have colon : skipGap (':' :: afterColon) = ':' :: afterColon := skipGap_cons rfl afterColon
  rw [scanMember, named]
  simp only [colon, scanned, goesOn, next, others]

section Written

variable (layout : Layout)

def itemsText (level : Nat) : List Json → List Char → List Char
  | [], rest => rest
  | item :: items, rest => write layout level item (writeItems layout level items rest)

def membersText (level : Nat) : List (String × Json) → List Char → List Char
  | [], rest => rest
  | (name, value) :: members, rest =>
    name.toList.flatMap escapeChar ++ '"' :: ':' :: (layout.gap ++
      write layout level value (writeMembers layout level members rest))

mutual

theorem length_le_write (level : Nat) : (value : Json) → (rest : List Char) →
    rest.length ≤ (write layout level value rest).length
  | .null, rest => by simp only [write, List.length_cons]; omega
  | .boolean true, rest => by simp only [write, List.length_cons]; omega
  | .boolean false, rest => by simp only [write, List.length_cons]; omega
  | .number value, rest => by simp only [write, List.length_append]; omega
  | .text value, rest => by
      simp only [write, quote, List.length_cons, List.length_append]
      omega
  | .list [], rest => by simp only [write, List.length_cons]; omega
  | .list (item :: items), rest => by
      have first := length_le_write (level + 1) item
        (writeItems layout (level + 1) items (layout.pad level ++ ']' :: rest))
      have others := length_le_writeItems (level + 1) items (layout.pad level ++ ']' :: rest)
      simp only [write, List.length_cons, List.length_append] at first others ⊢
      omega
  | .object [], rest => by simp only [write, List.length_cons]; omega
  | .object ((name, value) :: members), rest => by
      have first := length_le_write (level + 1) value
        (writeMembers layout (level + 1) members (layout.pad level ++ '\x7d' :: rest))
      have others := length_le_writeMembers (level + 1) members (layout.pad level ++ '\x7d' :: rest)
      simp only [write, quote, List.length_cons, List.length_append] at first others ⊢
      omega

theorem length_le_writeItems (level : Nat) : (items : List Json) → (rest : List Char) →
    rest.length ≤ (writeItems layout level items rest).length
  | [], rest => Nat.le_refl _
  | item :: items, rest => by
      have first := length_le_write level item (writeItems layout level items rest)
      have others := length_le_writeItems level items rest
      simp only [writeItems, List.length_cons, List.length_append]
      omega

theorem length_le_writeMembers (level : Nat) : (members : List (String × Json)) →
    (rest : List Char) → rest.length ≤ (writeMembers layout level members rest).length
  | [], rest => Nat.le_refl _
  | (name, value) :: members, rest => by
      have first := length_le_write level value (writeMembers layout level members rest)
      have others := length_le_writeMembers level members rest
      simp only [writeMembers, quote, List.length_cons, List.length_append]
      omega

end

theorem write_eq_cons {value : Json} {level : Nat} (bounded : value.IsBounded level)
    (rest : List Char) :
    ∃ c tail, write layout level value rest = c :: tail ∧ isGap c = false ∧ c ≠ ']' := by
  cases value with
  | null => exact ⟨_, _, by rw [write], by decide, by decide⟩
  | boolean value => cases value <;> exact ⟨_, _, by rw [write], by decide, by decide⟩
  | number value =>
      cases value with
      | binary value => exact bounded.elim
      | integer value =>
          obtain ⟨first, chars, written, starts⟩ := integerText_eq_cons value
          refine ⟨first, chars ++ rest, ?_, starts.isGap_eq_false, starts.ne (by decide)⟩
          rw [write, numberText, written, List.cons_append]
  | text value => exact ⟨_, _, by rw [write, quote], by decide, by decide⟩
  | list items => cases items <;> exact ⟨_, _, by rw [write], by decide, by decide⟩
  | object members => cases members <;> exact ⟨_, _, by rw [write], by decide, by decide⟩

theorem skipGap_write {value : Json} {level : Nat} (bounded : value.IsBounded level)
    {gap : List Char} (allGap : ∀ c ∈ gap, isGap c = true) (rest : List Char) :
    skipGap (gap ++ write layout level value rest) = write layout level value rest := by
  obtain ⟨c, tail, written, starts, _⟩ := write_eq_cons layout bounded rest
  rw [skipGap_append allGap, written, skipGap_cons starts]

theorem scanScalar_integerText {value : Int} (least : leastInteger ≤ value)
    (greatest : value ≤ greatestInteger) {rest : List Char} (ends : EndsNumber rest) :
    scanScalar (integerText value ++ rest) = (.number (.integer value), some rest) := by
  obtain ⟨first, chars, written, starts⟩ := integerText_eq_cons value
  have begins : (decide (first = '-') || isDigit first) = true := by
    rcases starts with sign | digit
    · rw [decide_eq_true sign, Bool.true_or]
    · rw [digit, Bool.or_true]
  have number := scanNumber_integerText least greatest ends
  rw [written, List.cons_append] at number ⊢
  rw [scanScalar, if_pos begins, number]
  · exact starts.ne (by decide)
  · exact starts.ne (by decide)
  · exact starts.ne (by decide)
  · exact starts.ne (by decide)

theorem endsNumber_cons {c : Char} (ends : isDigit c = false ∧ c ≠ '.' ∧ c ≠ 'e' ∧ c ≠ 'E')
    (rest : List Char) : EndsNumber (c :: rest) := by
  intro first same
  rw [← Option.some.inj same]
  exact ends

theorem endsNumber_gap_append {gap : List Char} (allGap : ∀ c ∈ gap, isGap c = true)
    {rest : List Char} (ends : EndsNumber rest) : EndsNumber (gap ++ rest) := by
  cases gap with
  | nil => exact ends
  | cons c gap =>
      have first := allGap c List.mem_cons_self
      refine endsNumber_cons ?_ _
      unfold isGap at first
      simp only [Bool.or_eq_true, decide_eq_true_eq] at first
      rcases first with ((rfl | rfl) | rfl) | rfl <;> decide

/-! ### Scanning what is written -/

variable {layout}

/-- Whether the text of a value, behind white space and in front of anything that does not go on
with a number, is scanned as the value. -/
def ScansBack (layout : Layout) (level : Nat) (value : Json) : Prop :=
  ∀ (fuel : Nat) (gap rest : List Char), (∀ c ∈ gap, isGap c = true) → EndsNumber rest →
    3 * (gap ++ write layout level value rest).length < fuel →
      scanValue fuel level (gap ++ write layout level value rest) = (Tree.ofValue value, some rest)

def ItemsScanBack (layout : Layout) (level : Nat) (items : List Json) : Prop :=
  items ≠ [] → ∀ (fuel : Nat) (gap rest : List Char), (∀ c ∈ gap, isGap c = true) →
    3 * (itemsText layout level items (gap ++ ']' :: rest)).length + 1 < fuel →
      scanItem fuel level (itemsText layout level items (gap ++ ']' :: rest)) =
        (Tree.ofItems items, .closed, some rest)

def MembersScanBack (layout : Layout) (level : Nat) (members : List (String × Json)) : Prop :=
  members ≠ [] → ∀ (fuel : Nat) (gap rest : List Char), (∀ c ∈ gap, isGap c = true) →
    3 * (membersText layout level members (gap ++ '\x7d' :: rest)).length + 1 < fuel →
      scanMember fuel level (membersText layout level members (gap ++ '\x7d' :: rest)) =
        (Tree.ofMembers members, .closed, some rest)

variable {level : Nat}

theorem scansBack_of_scalar {value : Json} (bounded : value.IsBounded level)
    (scalar : ∀ rest, EndsNumber rest → ∃ c tail, write layout level value rest = c :: tail ∧
      c ≠ '[' ∧ c ≠ '\x7b' ∧ scanScalar (c :: tail) = (Tree.ofValue value, some rest)) :
    ScansBack layout level value := by
  intro fuel gap rest allGap ends enough
  obtain ⟨c, tail, written, notList, notObject, scanned⟩ := scalar rest ends
  have starts := skipGap_write layout bounded allGap rest
  cases fuel with
  | zero => omega
  | succ fuel =>
      rw [written] at starts ⊢
      rw [scanValue_scalar starts notList notObject, scanned]

theorem scansBack_integer {value : Int} (least : leastInteger ≤ value)
    (greatest : value ≤ greatestInteger) : ScansBack layout level (.number (.integer value)) := by
  refine scansBack_of_scalar ⟨least, greatest⟩ fun rest ends => ?_
  obtain ⟨first, chars, written, starts⟩ := integerText_eq_cons value
  have scanned := scanScalar_integerText least greatest ends
  rw [written, List.cons_append] at scanned
  refine ⟨first, chars ++ rest, ?_, starts.ne (by decide), starts.ne (by decide), scanned⟩
  rw [write, numberText, written, List.cons_append]

theorem scansBack_text (value : String) : ScansBack layout level (.text value) := by
  refine scansBack_of_scalar trivial fun rest _ => ?_
  refine ⟨'"', _, by rw [write, quote], by decide, by decide, ?_⟩
  rw [scanScalar, scanQuoted_append]
  simp only [String.ofList_toList]
  rfl

theorem scansBack_empty_list (bounded : (Json.list []).IsBounded level) :
    ScansBack layout level (.list []) := by
  intro fuel gap rest allGap _ enough
  have starts := skipGap_write layout bounded allGap rest
  rw [write] at starts enough ⊢
  simp only [List.length_append, List.length_cons] at enough
  obtain ⟨fuel, rfl⟩ : ∃ fewer, fuel = fewer + 2 := ⟨fuel - 2, by omega⟩
  rw [scanValue_list starts (scanItems_nil (skipGap_cons rfl rest) fuel _),
    decide_eq_false (Nat.not_le.mpr bounded.1)]
  rfl

theorem scansBack_empty_object (bounded : (Json.object []).IsBounded level) :
    ScansBack layout level (.object []) := by
  intro fuel gap rest allGap _ enough
  have starts := skipGap_write layout bounded allGap rest
  rw [write] at starts enough ⊢
  simp only [List.length_append, List.length_cons] at enough
  obtain ⟨fuel, rfl⟩ : ∃ fewer, fuel = fewer + 2 := ⟨fuel - 2, by omega⟩
  rw [scanValue_object starts (scanMembers_nil (skipGap_cons rfl rest) fuel _),
    decide_eq_false (Nat.not_le.mpr bounded.1)]
  rfl

theorem scansBack_list (blank : layout.IsBlank) {item : Json} {items : List Json}
    (bounded : (Json.list (item :: items)).IsBounded level)
    (back : ItemsScanBack layout (level + 1) (item :: items)) :
    ScansBack layout level (.list (item :: items)) := by
  intro fuel gap rest allGap _ enough
  have starts := skipGap_write layout bounded allGap rest
  rw [write] at starts enough ⊢
  simp only [List.length_append, List.length_cons] at enough
  -- one call for the value and one for its items, before the first item is met
  obtain ⟨fuel, rfl⟩ : ∃ fewer, fuel = fewer + 2 := ⟨fuel - 2, by omega⟩
  have here := back (List.cons_ne_nil _ _) fuel (layout.pad level) rest (blank.pad level) (by
    rw [itemsText]
    omega)
  rw [itemsText] at here
  have first := skipGap_write layout bounded.2.1 (blank.pad (level + 1))
    (writeItems layout (level + 1) items (layout.pad level ++ ']' :: rest))
  obtain ⟨c, tail, written, _, notEnd⟩ := write_eq_cons layout bounded.2.1
    (writeItems layout (level + 1) items (layout.pad level ++ ']' :: rest))
  rw [written] at starts first here ⊢
  rw [scanValue_list starts ((scanItems_cons first notEnd fuel _).trans here),
    decide_eq_false (Nat.not_le.mpr bounded.1)]
  rfl

theorem scansBack_object (blank : layout.IsBlank) {name : String} {value : Json}
    {members : List (String × Json)}
    (bounded : (Json.object ((name, value) :: members)).IsBounded level)
    (back : MembersScanBack layout (level + 1) ((name, value) :: members)) :
    ScansBack layout level (.object ((name, value) :: members)) := by
  intro fuel gap rest allGap _ enough
  have starts := skipGap_write layout bounded allGap rest
  rw [write, quote] at starts enough ⊢
  simp only [List.length_append, List.length_cons] at enough
  obtain ⟨fuel, rfl⟩ : ∃ fewer, fuel = fewer + 2 := ⟨fuel - 2, by omega⟩
  have here := back (List.cons_ne_nil _ _) fuel (layout.pad level) rest (blank.pad level) (by
    simp only [membersText, List.length_append, List.length_cons]
    omega)
  rw [membersText] at here
  have first (chars : List Char) : skipGap (layout.pad (level + 1) ++ '"' :: chars) =
      '"' :: chars := (skipGap_append (blank.pad (level + 1)) _).trans (skipGap_cons rfl chars)
  rw [scanValue_object starts ((scanMembers_cons (first _) fuel _).trans here),
    decide_eq_false (Nat.not_le.mpr bounded.1)]
  rfl

theorem itemsScanBack_last {item : Json} (back : ScansBack layout level item) :
    ItemsScanBack layout level [item] := by
  intro _ fuel gap rest allGap enough
  cases fuel with
  | zero => omega
  | succ fuel =>
      have ends : EndsNumber (gap ++ ']' :: rest) :=
        endsNumber_gap_append allGap (endsNumber_cons (by decide) rest)
      have here := back fuel [] (gap ++ ']' :: rest) (fun _ none => absurd none List.not_mem_nil)
        ends (by
          simp only [itemsText, writeItems] at enough
          exact Nat.lt_of_succ_lt_succ enough)
      exact scanItem_last here ((skipGap_append allGap _).trans (skipGap_cons rfl rest))

theorem itemsScanBack_cons (blank : layout.IsBlank) {item next : Json} {items : List Json}
    (back : ScansBack layout level item) (bounded : next.IsBounded level)
    (others : ItemsScanBack layout level (next :: items)) :
    ItemsScanBack layout level (item :: next :: items) := by
  intro _ fuel gap rest allGap enough
  cases fuel with
  | zero => omega
  | succ fuel =>
      have longer := length_le_write layout level item
        (writeItems layout level (next :: items) (gap ++ ']' :: rest))
      have here := back fuel [] (writeItems layout level (next :: items) (gap ++ ']' :: rest))
        (fun _ none => absurd none List.not_mem_nil) (endsNumber_cons (by decide) _)
        (Nat.lt_of_succ_lt_succ enough)
      have after := others (List.cons_ne_nil _ _) fuel gap rest allGap (by
        simp only [itemsText, writeItems, List.length_append, List.length_cons] at enough longer ⊢
        omega)
      have first := skipGap_write layout bounded (blank.pad level)
        (writeItems layout level items (gap ++ ']' :: rest))
      obtain ⟨c, tail, written, _, notEnd⟩ := write_eq_cons layout bounded
        (writeItems layout level items (gap ++ ']' :: rest))
      rw [itemsText, written] at after
      rw [written] at first
      rw [writeItems, written] at here
      rw [itemsText, writeItems, written]
      exact scanItem_next here (skipGap_cons rfl _) first notEnd after

theorem membersScanBack_last (blank : layout.IsBlank) {name : String} {value : Json}
    (back : ScansBack layout level value) : MembersScanBack layout level [(name, value)] := by
  intro _ fuel gap rest allGap enough
  cases fuel with
  | zero => omega
  | succ fuel =>
      have ends : EndsNumber (gap ++ '\x7d' :: rest) :=
        endsNumber_gap_append allGap (endsNumber_cons (by decide) rest)
      have here := back fuel layout.gap (gap ++ '\x7d' :: rest) blank.gap ends (by
        simp only [membersText, writeMembers, List.length_append, List.length_cons] at enough ⊢
        omega)
      have last := scanMember_last (scanQuoted_append name.toList _) here
        ((skipGap_append allGap _).trans (skipGap_cons rfl rest))
      rw [String.ofList_toList] at last
      exact last

theorem membersScanBack_cons (blank : layout.IsBlank) {name next : String} {value other : Json}
    {members : List (String × Json)} (back : ScansBack layout level value)
    (others : MembersScanBack layout level ((next, other) :: members)) :
    MembersScanBack layout level ((name, value) :: (next, other) :: members) := by
  intro _ fuel gap rest allGap enough
  cases fuel with
  | zero => omega
  | succ fuel =>
      have longer := length_le_write layout level value
        (writeMembers layout level ((next, other) :: members) (gap ++ '\x7d' :: rest))
      rw [membersText] at enough
      simp only [List.length_append, List.length_cons] at enough
      have here := back fuel layout.gap
        (writeMembers layout level ((next, other) :: members) (gap ++ '\x7d' :: rest)) blank.gap
        (endsNumber_cons (by decide) _) (by
          simp only [List.length_append]
          omega)
      have after := others (List.cons_ne_nil _ _) fuel gap rest allGap (by
        simp only [membersText, writeMembers, quote, List.length_append, List.length_cons]
          at enough longer ⊢
        omega)
      have first (chars : List Char) : skipGap (layout.pad level ++ '"' :: chars) = '"' :: chars :=
        (skipGap_append (blank.pad level) _).trans (skipGap_cons rfl chars)
      have cons := scanMember_next (scanQuoted_append name.toList _) here (skipGap_cons rfl _)
        (first _) after
      rw [String.ofList_toList] at cons
      exact cons

mutual

theorem scansBack_of_bounded (blank : layout.IsBlank) : (value : Json) → (level : Nat) →
    value.IsBounded level → ScansBack layout level value
  | .null, _, _ => scansBack_of_scalar trivial fun rest _ =>
      ⟨'n', _, by rw [write], by decide, by decide, rfl⟩
  | .boolean true, _, _ => scansBack_of_scalar trivial fun rest _ =>
      ⟨'t', _, by rw [write], by decide, by decide, rfl⟩
  | .boolean false, _, _ => scansBack_of_scalar trivial fun rest _ =>
      ⟨'f', _, by rw [write], by decide, by decide, rfl⟩
  | .number (.integer _), _, bounded => scansBack_integer bounded.1 bounded.2
  | .number (.binary _), _, bounded => bounded.elim
  | .text value, _, _ => scansBack_text value
  | .list [], _, bounded => scansBack_empty_list bounded
  | .list (item :: items), level, bounded =>
      scansBack_list blank bounded
        (itemsScanBack_of_bounded blank (item :: items) (level + 1) bounded.2)
  | .object [], _, bounded => scansBack_empty_object bounded
  | .object ((name, value) :: members), level, bounded =>
      scansBack_object blank bounded
        (membersScanBack_of_bounded blank ((name, value) :: members) (level + 1) bounded.2)

theorem itemsScanBack_of_bounded (blank : layout.IsBlank) : (items : List Json) → (level : Nat) →
    AreBounded level items → ItemsScanBack layout level items
  | [], _, _ => fun nonempty => absurd rfl nonempty
  | [item], level, bounded => itemsScanBack_last (scansBack_of_bounded blank item level bounded.1)
  | item :: next :: items, level, bounded =>
      itemsScanBack_cons blank (scansBack_of_bounded blank item level bounded.1) bounded.2.1
        (itemsScanBack_of_bounded blank (next :: items) level bounded.2)

theorem membersScanBack_of_bounded (blank : layout.IsBlank) : (members : List (String × Json)) →
    (level : Nat) → MembersAreBounded level members → MembersScanBack layout level members
  | [], _, _ => fun nonempty => absurd rfl nonempty
  | [(_, value)], level, bounded =>
      membersScanBack_last blank (scansBack_of_bounded blank value level bounded.1)
  | (_, value) :: (next, other) :: members, level, bounded =>
      membersScanBack_cons blank (scansBack_of_bounded blank value level bounded.1)
        (membersScanBack_of_bounded blank ((next, other) :: members) level bounded.2)

end

mutual

theorem write_append (level : Nat) (rest more : List Char) : (value : Json) →
    write layout level value (rest ++ more) = write layout level value rest ++ more
  | .null => rfl
  | .boolean true => rfl
  | .boolean false => rfl
  | .number value => by rw [write, write, List.append_assoc]
  | .text value => by simp only [write, quote, List.append_assoc, List.cons_append]
  | .list [] => rfl
  | .list (item :: items) => by
      have inside := writeItems_append (level + 1) (layout.pad level ++ ']' :: rest) more items
      have whole := write_append (level + 1)
        (writeItems layout (level + 1) items (layout.pad level ++ ']' :: rest)) more item
      simp only [List.append_assoc, List.cons_append] at inside
      rw [write, write, inside, whole]
      simp only [List.append_assoc, List.cons_append]
  | .object [] => rfl
  | .object ((name, value) :: members) => by
      have inside :=
        writeMembers_append (level + 1) (layout.pad level ++ '\x7d' :: rest) more members
      have whole := write_append (level + 1)
        (writeMembers layout (level + 1) members (layout.pad level ++ '\x7d' :: rest)) more value
      simp only [List.append_assoc, List.cons_append] at inside
      rw [write, write, inside, whole]
      simp only [quote, List.append_assoc, List.cons_append]

theorem writeItems_append (level : Nat) (rest more : List Char) : (items : List Json) →
    writeItems layout level items (rest ++ more) = writeItems layout level items rest ++ more
  | [] => rfl
  | item :: items => by
      rw [writeItems, writeItems, writeItems_append level rest more items,
        write_append level (writeItems layout level items rest) more item]
      simp only [List.append_assoc, List.cons_append]

theorem writeMembers_append (level : Nat) (rest more : List Char) :
    (members : List (String × Json)) →
      writeMembers layout level members (rest ++ more) =
        writeMembers layout level members rest ++ more
  | [] => rfl
  | (name, value) :: members => by
      rw [writeMembers, writeMembers, writeMembers_append level rest more members,
        write_append level (writeMembers layout level members rest) more value]
      simp only [quote, List.append_assoc, List.cons_append]

end

/-- A printed value is read as the value, also in front of white space. -/
theorem readPage_print (blank : layout.IsBlank) {value : Json} (bounded : value.IsBounded 0)
    {ending : String} (allGap : ∀ c ∈ ending.toList, isGap c = true) :
    readPage (value.print layout ++ ending) = ⟨Tree.ofValue value, false⟩ := by
  have chars : (value.print layout ++ ending).toList = write layout 0 value ending.toList := by
    rw [String.toList_append, print, String.toList_ofList, ← write_append, List.nil_append]
  have ends : EndsNumber ending.toList := by
    have before : EndsNumber ([] : List Char) := fun c none => nomatch none
    simpa using endsNumber_gap_append allGap before
  have scanned := scansBack_of_bounded blank value 0 bounded
    (3 * (write layout 0 value ending.toList).length + 3) [] ending.toList
    (fun _ none => absurd none List.not_mem_nil) ends (by simp)
  have nothingLeft : skipGap ending.toList = [] := by
    have skipped := skipGap_append allGap []
    rwa [List.append_nil] at skipped
  rw [List.nil_append] at scanned
  rw [readPage, chars]
  simp only [scanned, nothingLeft]
  rfl

end Written

end AudienceScope.Json
