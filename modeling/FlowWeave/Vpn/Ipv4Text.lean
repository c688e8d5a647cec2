/-
# Vpn.Ipv4Text — the text of an IPv4 address (`std::net`)

An address is written as its four octets in decimal with dots between them, and read back
from four numbers of at most three digits without leading zeros. Reading inverts writing
(`Ipv4Addr.parse_text`).
-/
import FlowWeave.Vpn.ProductConfig

namespace FlowWeave.Vpn

open Theory

set_option autoImplicit false

def decimalDigits (octet : UInt8) : List Char :=
  let value := octet.toNat
  if value < 10 then [Nat.digitChar value]
  else if value < 100 then [Nat.digitChar (value / 10), Nat.digitChar (value % 10)]
  else [Nat.digitChar (value / 100), Nat.digitChar (value / 10 % 10), Nat.digitChar (value % 10)]

def joinOctets : List UInt8 → List Char
  | [] => []
  | [octet] => decimalDigits octet
  | octet :: octets => decimalDigits octet ++ '.' :: joinOctets octets

/-- `to_string`. -/
def Ipv4Addr.text (address : Ipv4Addr) : String := String.ofList (joinOctets address.octets)

def parseOctet (digits : List Char) : Option UInt8 :=
  if digits = [] ∨ digits.length > 3 ∨ digits.any (fun digit => digit < '0' || '9' < digit) ∨
      (digits.length > 1 ∧ digits.head? = some '0') then none
  else
    let value := digits.foldl (fun value digit => value * 10 + (digit.toNat - '0'.toNat)) 0
    if value ≤ 255 then some (UInt8.ofNat value) else none

/-- The numbers around so many dots. -/
def parseOctets : Nat → List Char → Option (List UInt8)
  | 0, text => (parseOctet text).map fun octet => [octet]
  | dots + 1, text => do
    let (front, rest) ← splitOnce '.' text
    let octet ← parseOctet front
    let octets ← parseOctets dots rest
    some (octet :: octets)

/-- `parse::<Ipv4Addr>`. -/
def Ipv4Addr.parse (text : String) : Option Ipv4Addr :=
  (parseOctets 3 text.toList).map Ipv4Addr.ofOctets

/-- What a character of an address is not. -/
def TextChar (char : Char) : Prop :=
  Json.escapeChar char = [char] ∧ char ≠ '/' ∧ char ≠ ':'

instance : DecidablePred TextChar := fun _ => inferInstanceAs (Decidable (_ ∧ _))

/-- The digits of an octet: they are read back, none is a dot or to be escaped, and there are at
most three. -/
theorem decimalDigits_spec (octet : UInt8) :
    parseOctet (decimalDigits octet) = some octet ∧ '.' ∉ decimalDigits octet ∧
      (∀ char ∈ decimalDigits octet, TextChar char) ∧
      String.utf8Len (decimalDigits octet) = (decimalDigits octet).length ∧
      (decimalDigits octet).length ≤ 3 := by
  have all : ∀ value < 256,
      parseOctet (decimalDigits (UInt8.ofNat value)) = some (UInt8.ofNat value) ∧
        '.' ∉ decimalDigits (UInt8.ofNat value) ∧
        ((decimalDigits (UInt8.ofNat value)).all fun char => TextChar char) ∧
        String.utf8Len (decimalDigits (UInt8.ofNat value)) =
          (decimalDigits (UInt8.ofNat value)).length ∧
        (decimalDigits (UInt8.ofNat value)).length ≤ 3 := by
    decide +kernel
  have own := all octet.toNat octet.toNat_lt
  simpa only [UInt8.ofNat_toNat, List.all_eq_true, decide_eq_true_eq] using own

theorem splitOnce_append {separator : Char} {front : List Char} (rest : List Char)
    (absent : separator ∉ front) :
    splitOnce separator (front ++ separator :: rest) = some (front, rest) := by
  have front_eq : (front ++ separator :: rest).takeWhile (· ≠ separator) = front := by
    rw [List.takeWhile_append_of_pos]
    · simp
    · intro char member
      simpa using fun same : char = separator => absent (same ▸ member)
  rw [splitOnce, if_pos (by simp)]
  simp only [front_eq]
  rw [← List.drop_drop, List.drop_left]
  rfl

theorem parseOctets_joinOctets (octet : UInt8) (octets : List UInt8) :
    parseOctets octets.length (joinOctets (octet :: octets)) = some (octet :: octets) := by
  induction octets generalizing octet with
  | nil =>
    rw [List.length_nil, parseOctets, joinOctets, (decimalDigits_spec octet).1]
    rfl
  | cons second octets ih =>
    rw [List.length_cons, parseOctets, joinOctets,
      splitOnce_append _ (decimalDigits_spec octet).2.1]
    · simp [(decimalDigits_spec octet).1, ih second]
    · exact List.cons_ne_nil _ _

theorem joinOctets_chars (octets : List UInt8) : ∀ char ∈ joinOctets octets, TextChar char := by
  induction octets with
  | nil => nofun
  | cons octet octets ih =>
    have own := (decimalDigits_spec octet).2.2.1
    cases octets with
    | nil => exact own
    | cons second octets =>
      intro char member
      rw [joinOctets, List.mem_append, List.mem_cons] at member
      · rcases member with digit | rfl | later
        · exact own char digit
        · decide
        · exact ih char later
      · exact List.cons_ne_nil _ _

theorem joinOctets_utf8Len (octet : UInt8) (octets : List UInt8) :
    String.utf8Len (joinOctets (octet :: octets)) =
      ((octet :: octets).map fun octet => (decimalDigits octet).length).sum + octets.length := by
  induction octets generalizing octet with
  | nil => simp [joinOctets, (decimalDigits_spec octet).2.2.2.1]
  | cons second octets ih =>
    have dot : '.'.utf8Size = 1 := by decide
    rw [joinOctets, String.utf8Len_append, String.utf8Len_cons, ih second, dot,
      (decimalDigits_spec octet).2.2.2.1]
    · simp only [List.map_cons, List.sum_cons, List.length_cons]
      omega
    · exact List.cons_ne_nil _ _

namespace Ipv4Addr

theorem parse_eq_none {text : String} (absent : '.' ∉ text.toList) : parse text = none := by
  rw [parse, parseOctets, splitOnce, if_neg absent]
  rfl

variable (address : Ipv4Addr)

theorem octets_cons : ∃ first rest, address.octets = first :: rest ∧ rest.length = 3 := by
  obtain ⟨first, rest, split⟩ := List.exists_cons_of_length_pos
    (show 0 < address.octets.length by rw [octets_length]; decide)
  have width := address.octets_length
  rw [split, List.length_cons] at width
  exact ⟨first, rest, split, Nat.succ.inj width⟩

/-- Reading inverts writing. -/
theorem parse_text : parse address.text = some address := by
  obtain ⟨first, rest, split, three⟩ := address.octets_cons
  rw [parse, text, String.toList_ofList, split, ← three, parseOctets_joinOctets, Option.map_some,
    ← split, ofOctets_octets]

theorem text_chars : ∀ char ∈ address.text.toList, TextChar char := by
  rw [text, String.toList_ofList]
  exact joinOctets_chars _

theorem text_plain : Json.Plain address.text :=
  fun char member => (address.text_chars char member).1

/-- Three dots and the digits of the octets. -/
theorem text_size :
    address.text.utf8ByteSize =
      (address.octets.map fun octet => (decimalDigits octet).length).sum + 3 := by
  obtain ⟨first, rest, split, three⟩ := address.octets_cons
  rw [text, String.utf8ByteSize_ofList, split, joinOctets_utf8Len, three]

theorem text_size_le : address.text.utf8ByteSize ≤ 15 := by
  have digits : (address.octets.map fun octet => (decimalDigits octet).length).sum ≤
      (address.octets.map fun octet => (decimalDigits octet).length).length • 3 :=
    List.sum_le_card_nsmul _ _
      (List.forall_mem_map.mpr fun octet _ => (decimalDigits_spec octet).2.2.2.2)
  rw [List.length_map, octets_length] at digits
  rw [text_size]
  exact Nat.add_le_add_right digits 3

end Ipv4Addr

end FlowWeave.Vpn
