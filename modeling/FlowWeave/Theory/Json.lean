/-
# Theory.Json — JSON documents and their indented text

A document is a tree. The fields of an object stand in the order they are written:
declaration order for a serialized record, key order for a map. Two maps with the
same entries are then the same document.

`pretty` is the text with one value to a line and two blanks to a level, as a
serializer with an indented mode writes it, and `compact` the text with no blanks.
The size of a text is a sum over its values (`pretty_arr_size`, `pretty_obj_size`,
`compact_arr_size`, `compact_obj_size`), and no other document has the same indented
text (`pretty_injective`).
-/
import Mathlib.Algebra.Order.BigOperators.Group.List
import Mathlib.Algebra.Ring.Nat
import Mathlib.Data.String.Basic

namespace FlowWeave.Theory

open List

set_option autoImplicit false

inductive Json where
  | null
  | bool (value : Bool)
  | num (value : Nat)
  | str (value : String)
  | arr (values : List Json)
  | obj (fields : List (String × Json))

namespace Json

/-! ## Equality -/

mutual

def same : Json → Json → Bool
  | .null, .null => true
  | .bool first, .bool second => first == second
  | .num first, .num second => first == second
  | .str first, .str second => first == second
  | .arr first, .arr second => sameValues first second
  | .obj first, .obj second => sameFields first second
  | _, _ => false

def sameValues : List Json → List Json → Bool
  | [], [] => true
  | first :: firsts, second :: seconds => same first second && sameValues firsts seconds
  | _, _ => false

def sameFields : List (String × Json) → List (String × Json) → Bool
  | [], [] => true
  | (key, first) :: firsts, (key', second) :: seconds =>
    key == key' && same first second && sameFields firsts seconds
  | _, _ => false

end

mutual

theorem same_iff (first second : Json) : same first second = true ↔ first = second := by
  cases first <;> cases second <;> simp [same]
  · exact sameValues_iff _ _
  · exact sameFields_iff _ _

theorem sameValues_iff (firsts seconds : List Json) :
    sameValues firsts seconds = true ↔ firsts = seconds := by
  cases firsts <;> cases seconds <;> simp [sameValues]
  rw [same_iff, sameValues_iff]

theorem sameFields_iff (firsts seconds : List (String × Json)) :
    sameFields firsts seconds = true ↔ firsts = seconds := by
  rcases firsts with _ | ⟨⟨key, first⟩, firsts⟩ <;>
    rcases seconds with _ | ⟨⟨key', second⟩, seconds⟩ <;> simp [sameFields]
  rw [same_iff, sameFields_iff]

end

instance : DecidableEq Json := fun first second => decidable_of_iff _ (same_iff first second)

/-! ## Looking inside -/

def asStr? : Json → Option String
  | .str value => some value
  | _ => none

def asBool? : Json → Option Bool
  | .bool value => some value
  | _ => none

/-- A number that fits a 64-bit word. -/
def asU64? : Json → Option Nat
  | .num value => if value < 2 ^ 64 then some value else none
  | _ => none

def asObject? : Json → Option (List (String × Json))
  | .obj fields => some fields
  | _ => none

/-! ## Indented text -/

/-- How a character stands inside quotes: the quote, the backslash and the control
characters are escaped. -/
def escapeChar (char : Char) : List Char :=
  if char = '"' then ['\\', '"']
  else if char = '\\' then ['\\', '\\']
  else if char = '\x08' then ['\\', 'b']
  else if char = '\t' then ['\\', 't']
  else if char = '\n' then ['\\', 'n']
  else if char = '\x0c' then ['\\', 'f']
  else if char = '\r' then ['\\', 'r']
  else if char.toNat < 0x20 then
    ['\\', 'u', '0', '0', Nat.digitChar (char.toNat / 16), Nat.digitChar (char.toNat % 16)]
  else [char]

def quote (text : String) : String :=
  "\"" ++ String.ofList (text.toList.flatMap escapeChar) ++ "\""

def indent (level : Nat) : String := String.ofList (replicate (2 * level) ' ')

def joined (separator : String) : List String → String
  | [] => ""
  | [text] => text
  | text :: texts => text ++ separator ++ joined separator texts

/-- Lines between brackets. -/
def block (level : Nat) (opening closing : Char) : List String → String
  | [] => String.ofList [opening, closing]
  | lines => String.ofList [opening, '\n'] ++ joined ",\n" lines ++ "\n" ++ indent level ++
      closing.toString

mutual

/-- The text of a value that stands at a level, its first line not indented. -/
def pretty (level : Nat) : Json → String
  | .null => "null"
  | .bool value => if value then "true" else "false"
  | .num value => value.repr
  | .str value => quote value
  | .arr values => block level '[' ']' (prettyValues level values)
  | .obj fields => block level '\x7b' '\x7d' (prettyFields level fields)

def prettyValues (level : Nat) : List Json → List String
  | [] => []
  | value :: values => (indent (level + 1) ++ pretty (level + 1) value) :: prettyValues level values

def prettyFields (level : Nat) : List (String × Json) → List String
  | [] => []
  | (key, value) :: fields =>
    (indent (level + 1) ++ quote key ++ ": " ++ pretty (level + 1) value) ::
      prettyFields level fields

end

mutual

/-- The text of a value without blanks. -/
def compact : Json → String
  | .null => "null"
  | .bool value => if value then "true" else "false"
  | .num value => value.repr
  | .str value => quote value
  | .arr values => "[" ++ joined "," (compactValues values) ++ "]"
  | .obj fields => "\x7b" ++ joined "," (compactFields fields) ++ "\x7d"

def compactValues : List Json → List String
  | [] => []
  | value :: values => compact value :: compactValues values

def compactFields : List (String × Json) → List String
  | [] => []
  | (key, value) :: fields => (quote key ++ ":" ++ compact value) :: compactFields fields

end

theorem prettyValues_eq (level : Nat) (values : List Json) : prettyValues level values =
    values.map fun value => indent (level + 1) ++ pretty (level + 1) value := by
  induction values with
  | nil => rfl
  | cons value values ih => rw [prettyValues, ih, map_cons]

theorem prettyFields_eq (level : Nat) (fields : List (String × Json)) : prettyFields level fields =
    fields.map fun field =>
      indent (level + 1) ++ quote field.1 ++ ": " ++ pretty (level + 1) field.2 := by
  induction fields with
  | nil => rfl
  | cons field fields ih => rw [prettyFields, ih, map_cons]

theorem compactValues_eq (values : List Json) : compactValues values = values.map compact := by
  induction values with
  | nil => rfl
  | cons value values ih => rw [compactValues, ih, map_cons]

theorem compactFields_eq (fields : List (String × Json)) :
    compactFields fields = fields.map fun field => quote field.1 ++ ":" ++ compact field.2 := by
  induction fields with
  | nil => rfl
  | cons field fields ih => rw [compactFields, ih, map_cons]

/-! ## The size of the text -/

/-- Text that stands inside quotes as it is. -/
def Plain (text : String) : Prop := ∀ char ∈ text.toList, escapeChar char = [char]

variable {text : String}

theorem Plain.of_all (plain : text.toList.all fun char => escapeChar char = [char]) :
    Plain text := by
  simpa only [Plain, all_eq_true, decide_eq_true_eq] using plain

theorem Plain.append {first second : String} (plain : Plain first) (other : Plain second) :
    Plain (first ++ second) := by
  intro char member
  rw [String.toList_append, mem_append] at member
  exact member.elim (plain char) (other char)

theorem flatMap_escape_of_plain (plain : Plain text) :
    text.toList.flatMap escapeChar = text.toList := by
  rw [flatMap_congr plain, flatMap_singleton']

theorem quote_size_of_plain (plain : Plain text) :
    (quote text).utf8ByteSize = text.utf8ByteSize + 2 := by
  rw [quote, flatMap_escape_of_plain plain, String.ofList_toList, String.utf8ByteSize_append,
    String.utf8ByteSize_append, show "\"".utf8ByteSize = 1 by decide]
  omega

theorem indent_size (level : Nat) : (indent level).utf8ByteSize = 2 * level := by
  rw [indent, String.utf8ByteSize_ofList]
  induction 2 * level with
  | zero => rfl
  | succ count ih => rw [replicate_succ, String.utf8Len_cons, ih]; rfl

theorem utf8Len_le (chars : List Char) : String.utf8Len chars ≤ 4 * chars.length := by
  induction chars with
  | nil => simp
  | cons char chars ih =>
    have := Char.utf8Size_le_four char
    rw [String.utf8Len_cons, length_cons]
    omega

/-! ### Exact sizes -/

/-- Every text costs itself and a separator that the last one does not have. -/
theorem joined_size {α : Type} (separator : String) (text : α → String) (item : α)
    (items : List α) :
    (joined separator ((item :: items).map text)).utf8ByteSize + separator.utf8ByteSize =
      ((item :: items).map fun item =>
        (text item).utf8ByteSize + separator.utf8ByteSize).sum := by
  induction items generalizing item with
  | nil => simp [joined]
  | cons second items ih =>
    have rest := ih second
    simp only [map_cons, sum_cons, joined, String.utf8ByteSize_append] at rest ⊢
    omega

/-- The bytes of the keys of an object, each in quotes and with what stands around it. -/
def keyBytes (around : Nat) (keys : List String) : Nat :=
  (keys.map fun key => (quote key).utf8ByteSize + around).sum

theorem fields_size (around : Nat) (size : Json → Nat) (fields : List (String × Json)) :
    (fields.map fun field => (quote field.1).utf8ByteSize + around + size field.2).sum =
      keyBytes around (fields.map Prod.fst) + (fields.map fun field => size field.2).sum := by
  rw [keyBytes, map_map, ← sum_map_add]
  rfl

theorem block_size {α : Type} (level : Nat) {opening closing : Char} (text : α → String) (item : α)
    (items : List α) (small : opening.utf8Size = 1 ∧ closing.utf8Size = 1) :
    (block level opening closing ((item :: items).map text)).utf8ByteSize =
      ((item :: items).map fun item => (text item).utf8ByteSize + 2).sum + 2 * level + 2 := by
  have marks : ",\n".utf8ByteSize = 2 ∧ "\n".utf8ByteSize = 1 ∧ '\n'.utf8Size = 1 := by decide
  have lines := joined_size ",\n" text item items
  simp only [marks] at lines
  simp only [block, map_cons, String.utf8ByteSize_append, String.utf8ByteSize_ofList,
    String.utf8Len_cons, String.utf8Len_nil, Char.toString, String.utf8ByteSize_singleton,
    indent_size, marks, small] at lines ⊢
  omega

theorem pretty_arr_size (level : Nat) (value : Json) (values : List Json) :
    (pretty level (.arr (value :: values))).utf8ByteSize =
      ((value :: values).map fun value =>
        (pretty (level + 1) value).utf8ByteSize + 2 * level + 4).sum + 2 * level + 2 := by
  rw [pretty, prettyValues_eq, block_size level _ _ _ (by decide)]
  congr 4
  funext value
  rw [String.utf8ByteSize_append, indent_size]
  omega

theorem pretty_obj_size (level : Nat) (field : String × Json) (fields : List (String × Json)) :
    (pretty level (.obj (field :: fields))).utf8ByteSize =
      keyBytes (2 * level + 6) ((field :: fields).map Prod.fst) +
        ((field :: fields).map fun field => (pretty (level + 1) field.2).utf8ByteSize).sum +
        2 * level + 2 := by
  have mark : ": ".utf8ByteSize = 2 := by decide
  rw [pretty, prettyFields_eq, block_size level _ _ _ (by decide),
    ← fields_size (2 * level + 6) fun value => (pretty (level + 1) value).utf8ByteSize]
  congr 4
  funext field
  simp only [String.utf8ByteSize_append, indent_size, mark]
  omega

theorem compact_arr_size (value : Json) (values : List Json) :
    (compact (.arr (value :: values))).utf8ByteSize =
      ((value :: values).map fun value => (compact value).utf8ByteSize + 1).sum + 1 := by
  have marks : ",".utf8ByteSize = 1 ∧ "[".utf8ByteSize = 1 ∧ "]".utf8ByteSize = 1 := by decide
  have texts := joined_size "," compact value values
  simp only [← compactValues_eq, marks] at texts
  simp only [compact, String.utf8ByteSize_append, marks]
  omega

theorem compact_arr_size_le {bound : Nat} {values : List Json}
    (each : ∀ value ∈ values, (compact value).utf8ByteSize ≤ bound) :
    (compact (.arr values)).utf8ByteSize ≤ (bound + 1) * values.length + 2 := by
  cases values with
  | nil => exact (by decide : (compact (.arr [])).utf8ByteSize ≤ 2).trans (Nat.le_add_left _ _)
  | cons value values =>
    have sum : _ ≤ _ * (bound + 1) := sum_le_card_nsmul
      ((value :: values).map fun value => (compact value).utf8ByteSize + 1) (bound + 1) (by
        intro size member
        obtain ⟨value, listed, rfl⟩ := mem_map.mp member
        exact Nat.succ_le_succ (each value listed))
    rw [length_map, Nat.mul_comm] at sum
    rw [compact_arr_size]
    omega

theorem compact_obj_size (field : String × Json) (fields : List (String × Json)) :
    (compact (.obj (field :: fields))).utf8ByteSize =
      keyBytes 2 ((field :: fields).map Prod.fst) +
        ((field :: fields).map fun field => (compact field.2).utf8ByteSize).sum + 1 := by
  have marks : ":".utf8ByteSize = 1 ∧ ",".utf8ByteSize = 1 ∧ "\x7b".utf8ByteSize = 1 ∧
      "\x7d".utf8ByteSize = 1 := by decide
  have texts := joined_size "," (fun field : String × Json =>
    quote field.1 ++ ":" ++ compact field.2) field fields
  have text (field : String × Json) : (quote field.1).utf8ByteSize + 1 +
      (compact field.2).utf8ByteSize + 1 =
        (quote field.1).utf8ByteSize + 2 + (compact field.2).utf8ByteSize := by omega
  simp only [← compactFields_eq, String.utf8ByteSize_append, marks, text] at texts
  rw [fields_size 2 fun value => (compact value).utf8ByteSize] at texts
  simp only [compact, String.utf8ByteSize_append, marks]
  omega

/-! ## Reading back -/

/-- What stands in a text behind a value. -/
def Follows (rest : List Char) : Prop := rest.head?.any Char.isDigit = false

variable {after rest : List Char}

theorem repr_unique {value other : Nat} (ends : Follows rest) (endsAfter : Follows after)
    (same : value.repr.toList ++ rest = other.repr.toList ++ after) :
    value = other ∧ rest = after := by
  have digits (value : Nat) {rest : List Char} (ends : Follows rest) :
      (Nat.toDigits 10 value ++ rest).takeWhile Char.isDigit = Nat.toDigits 10 value := by
    have stops : rest.takeWhile Char.isDigit = [] := by
      cases rest with
      | nil => rfl
      | cons char rest => exact takeWhile_cons_of_neg (Bool.eq_false_iff.mp ends)
    rw [takeWhile_append_of_pos, stops, append_nil]
    exact fun char => Nat.isDigit_of_mem_toDigits (by decide) (by decide)
  rw [Nat.repr_eq_ofList_toDigits, Nat.repr_eq_ofList_toDigits, String.toList_ofList,
    String.toList_ofList] at same
  have texts := congrArg (takeWhile Char.isDigit) same
  rw [digits value ends, digits other endsAfter] at texts
  have numbers := congrArg (fun digits => Nat.ofDigitChars 10 digits 0) texts
  rw [Nat.ofDigitChars_toDigits (by decide) (by decide),
    Nat.ofDigitChars_toDigits (by decide) (by decide)] at numbers
  rw [texts] at same
  exact ⟨numbers, append_cancel_left same⟩

def hexValue (digit : Char) : Nat :=
  if digit.isDigit then digit.toNat - '0'.toNat else digit.toNat - 'a'.toNat + 10

/-- The first character of a text inside quotes, and the rest of it. -/
def unescape : List Char → Option (Char × List Char)
  | '"' :: _ => none
  | '\\' :: 'u' :: _ :: _ :: high :: low :: rest =>
    some (Char.ofNat (16 * hexValue high + hexValue low), rest)
  | '\\' :: 'b' :: rest => some ('\x08', rest)
  | '\\' :: 't' :: rest => some ('\t', rest)
  | '\\' :: 'n' :: rest => some ('\n', rest)
  | '\\' :: 'f' :: rest => some ('\x0c', rest)
  | '\\' :: 'r' :: rest => some ('\r', rest)
  | '\\' :: char :: rest => some (char, rest)
  | char :: rest => some (char, rest)
  | [] => none

theorem unescape_escapeChar (char : Char) (rest : List Char) :
    unescape (escapeChar char ++ rest) = some (char, rest) := by
  unfold escapeChar
  split_ifs with quote slash
  all_goals try subst char; rfl
  · rename_i control
    have digits : ∀ code < 0x20,
        16 * hexValue (Nat.digitChar (code / 16)) +
          hexValue (Nat.digitChar (code % 16)) = code := by
      decide
    simp [unescape, digits _ control]
  · unfold unescape
    split <;> simp_all

theorem escape_unique {text other : List Char}
    (same : text.flatMap escapeChar ++ '"' :: rest = other.flatMap escapeChar ++ '"' :: after) :
    text = other ∧ rest = after := by
  induction text generalizing other with
  | nil =>
    cases other with
    | nil => exact ⟨rfl, tail_eq_of_cons_eq same⟩
    | cons char other =>
      have first := congrArg unescape same
      rw [flatMap_cons, append_assoc, unescape_escapeChar] at first
      cases first
  | cons char text ih =>
    have first := congrArg unescape same
    rw [flatMap_cons, append_assoc, unescape_escapeChar] at first
    cases other with
    | nil => cases first
    | cons second other =>
      rw [flatMap_cons, append_assoc, unescape_escapeChar] at first
      obtain ⟨rfl, others⟩ := Prod.mk.inj (Option.some.inj first)
      obtain ⟨rfl, rests⟩ := ih others
      exact ⟨rfl, rests⟩

theorem quote_unique {other : String}
    (same : (quote text).toList ++ rest = (quote other).toList ++ after) :
    text = other ∧ rest = after := by
  simp only [quote, String.toList_append, String.toList_ofList, append_assoc] at same
  obtain ⟨texts, rests⟩ := escape_unique (append_cancel_left same)
  exact ⟨String.toList_inj.mp texts, rests⟩

/-- The first character of the text of a value that is not a number. -/
def mark : Json → Option Char
  | .null => some 'n'
  | .bool value => some (if value then 't' else 'f')
  | .num _ => none
  | .str _ => some '"'
  | .arr _ => some '['
  | .obj _ => some '\x7b'

theorem head?_pretty (level : Nat) (value : Json) (rest : List Char) :
    ((pretty level value).toList ++ rest).head?.filter (fun char => !char.isDigit) =
      value.mark := by
  cases value with
  | null => simp [pretty, mark]
  | bool value => cases value <;> simp [pretty, mark]
  | num value =>
    obtain ⟨digit, digits, split⟩ := exists_cons_of_ne_nil (@Nat.toDigits_ne_nil value 10)
    have isDigit := @Nat.isDigit_of_mem_toDigits 10 value digit (by decide) (by decide)
      (by rw [split]; exact .head _)
    rw [pretty, Nat.repr_eq_ofList_toDigits, String.toList_ofList, split]
    simp [isDigit, mark]
  | str value => simp [pretty, quote, mark]
  | arr values => cases values <;> simp [pretty, prettyValues, block, mark]
  | obj fields => cases fields <;> simp [pretty, prettyFields, block, mark]

/-- A text starts with that of this item in one way only. -/
def Unique {α : Type} (text : α → String) (item : α) : Prop :=
  ∀ {other : α} {rest after : List Char},
    (text item).toList ++ rest = (text other).toList ++ after → Follows rest → Follows after →
    item = other ∧ rest = after

theorem joined_unique {α : Type} {text : α → String} {item other : α} {items others : List α}
    (each : ∀ listed ∈ item :: items, Unique text listed)
    (same : (joined ",\n" ((item :: items).map text)).toList ++ '\n' :: rest =
      (joined ",\n" ((other :: others).map text)).toList ++ '\n' :: after) :
    item :: items = other :: others ∧ rest = after := by
  induction items generalizing item other others with
  | nil =>
    cases others with
    | nil =>
      obtain ⟨rfl, tails⟩ := each item (.head _) same rfl rfl
      exact ⟨rfl, tail_eq_of_cons_eq tails⟩
    | cons third others =>
      simp only [map_cons, joined, String.toList_append, append_assoc] at same
      cases (each item (.head _) same rfl rfl).2
  | cons second items ih =>
    cases others with
    | nil =>
      simp only [map_cons, joined, String.toList_append, append_assoc] at same
      cases (each item (.head _) same rfl rfl).2
    | cons third others =>
      simp only [map_cons, joined, String.toList_append, append_assoc] at same
      obtain ⟨rfl, tails⟩ := each item (.head _) same rfl rfl
      obtain ⟨texts, tails⟩ := ih (fun listed member => each listed (.tail _ member))
        (append_cancel_left tails)
      exact ⟨congrArg _ texts, tails⟩

theorem block_unique {α : Type} {text : α → String} {level : Nat} {opening closing : Char}
    (mark : closing ≠ '\n') {items others : List α} (each : ∀ item ∈ items, Unique text item)
    (same : (block level opening closing (items.map text)).toList ++ rest =
      (block level opening closing (others.map text)).toList ++ after) :
    items = others ∧ rest = after := by
  cases items <;> cases others <;>
    simp only [map_nil, map_cons, block, String.toList_append, String.toList_ofList, append_assoc,
      cons_append, nil_append, cons.injEq, true_and] at same
  · exact ⟨rfl, same⟩
  · exact absurd same.1 mark
  · exact absurd same.1.symm mark
  · obtain ⟨texts, tails⟩ := joined_unique each same
    exact ⟨texts, append_cancel_left (append_cancel_left tails)⟩

/-- Values with one text, in front of what follows them, are of one kind. -/
theorem mark_eq {level : Nat} {value other : Json}
    (same : (pretty level value).toList ++ rest = (pretty level other).toList ++ after) :
    value.mark = other.mark := by
  rw [← head?_pretty level value rest, same, head?_pretty]

theorem unique_bool (level : Nat) (value : Bool) : Unique (pretty level) (.bool value) := by
  intro other rest after same _ _
  have marks := mark_eq same
  cases value <;> rcases other with _ | (_ | _) | _ | _ | _ | _ <;> cases marks <;>
    exact ⟨rfl, append_cancel_left same⟩

theorem unique_arr {values : List Json}
    (each : ∀ value ∈ values, ∀ level, Unique (pretty level) value) (level : Nat) :
    Unique (pretty level) (.arr values) := by
  intro other rest after same _ _
  have marks := mark_eq same
  rcases other with _ | (_ | _) | _ | _ | others | _ <;> cases marks
  rw [pretty, pretty, prettyValues_eq, prettyValues_eq] at same
  obtain ⟨rfl, tails⟩ := block_unique (by decide) (by
    intro value member other rest after same
    simp only [String.toList_append, append_assoc] at same
    exact each value member (level + 1) (append_cancel_left same)) same
  exact ⟨rfl, tails⟩

theorem unique_obj {fields : List (String × Json)}
    (each : ∀ field ∈ fields, ∀ level, Unique (pretty level) field.2) (level : Nat) :
    Unique (pretty level) (.obj fields) := by
  intro other rest after same _ _
  have marks := mark_eq same
  rcases other with _ | (_ | _) | _ | _ | _ | others <;> cases marks
  rw [pretty, pretty, prettyFields_eq, prettyFields_eq] at same
  obtain ⟨rfl, tails⟩ := block_unique (by decide) (by
    intro field member other rest after same ends endsAfter
    simp only [String.toList_append, append_assoc] at same
    obtain ⟨keys, values⟩ := quote_unique (append_cancel_left same)
    obtain ⟨values, tails⟩ := each field member (level + 1) (append_cancel_left values) ends
      endsAfter
    exact ⟨Prod.ext keys values, tails⟩) same
  exact ⟨rfl, tails⟩

mutual

theorem unique (value : Json) (level : Nat) : Unique (pretty level) value := by
  intro other rest after same ends endsAfter
  have marks := mark_eq same
  cases value with
  | null =>
    rcases other with _ | (_ | _) | _ | _ | _ | _ <;> cases marks
    exact ⟨rfl, append_cancel_left same⟩
  | bool value => exact unique_bool level value same ends endsAfter
  | num value =>
    rcases other with _ | (_ | _) | other | _ | _ | _ <;> cases marks
    obtain ⟨rfl, tails⟩ := repr_unique ends endsAfter same
    exact ⟨rfl, tails⟩
  | str value =>
    rcases other with _ | (_ | _) | _ | other | _ | _ <;> cases marks
    obtain ⟨rfl, tails⟩ := quote_unique same
    exact ⟨rfl, tails⟩
  | arr values => exact unique_arr (uniqueValues values) level same ends endsAfter
  | obj fields => exact unique_obj (uniqueFields fields) level same ends endsAfter

theorem uniqueValues (values : List Json) :
    ∀ value ∈ values, ∀ level, Unique (pretty level) value := by
  cases values with
  | nil => nofun
  | cons value values =>
    exact forall_mem_cons.mpr ⟨unique value, uniqueValues values⟩

theorem uniqueFields (fields : List (String × Json)) :
    ∀ field ∈ fields, ∀ level, Unique (pretty level) field.2 := by
  rcases fields with _ | ⟨⟨key, value⟩, fields⟩
  · nofun
  · exact forall_mem_cons.mpr ⟨unique value, uniqueFields fields⟩

end

theorem pretty_injective (level : Nat) : Function.Injective (pretty level) := by
  intro value other same
  have read : value = other ∧ ([] : List Char) = [] :=
    unique value level (by rw [same]) rfl rfl
  exact read.1

end Json

end FlowWeave.Theory
