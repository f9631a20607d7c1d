import ThreatWatch.Proofs.Epochs
import ThreatWatch.Proofs.Stars

/-! Criteria for networks. An address has one text, and it is read from that text alone. A block
holds the addresses that share its leading bits, however many of these count and whatever the
other bits of its own address are. What is no text of an address is in no block, and a block that
cannot be read holds nothing. -/

namespace ThreatWatch

namespace Network

namespace Ipv4

open Numeral (isPlainDigit)

/-! ## Addresses and their texts -/

theorem readOctet?_toDigits : ∀ octet < 256,
    readOctet? (Nat.toDigits 10 octet) = some octet := by
  decide +kernel

theorem readOctet?_eq_some_iff {digits : List Char} {octet : Nat} :
    readOctet? digits = some octet ↔ octet < 256 ∧ digits = Nat.toDigits 10 octet := by
  constructor
  · intro read
    unfold readOctet? at read
    split at read
    · cases read
    · next usable =>
        split at read
        · cases read
        · split at read
          · cases read
          · next noZero =>
              dsimp only at read
              split at read
              · cases read
              · next small =>
                  cases read
                  refine ⟨by omega, ?_⟩
                  cases digits with
                  | nil => simp at usable
                  | cons first rest =>
                      by_cases zero : first = '0'
                      · obtain rfl : rest = [] := by simpa [zero] using noZero
                        subst zero
                        rfl
                      · exact (Numeral.toDigits_ofDigits (by simpa using usable) zero).symm
  · rintro ⟨small, rfl⟩
    exact readOctet?_toDigits octet small

theorem octet_lt (address : Ipv4) (position : Nat) : address.octet position < 256 :=
  Nat.mod_lt _ (by decide)

theorem octet_ofOctets {first second third fourth : Nat} (firstSmall : first < 256)
    (secondSmall : second < 256) (thirdSmall : third < 256) (fourthSmall : fourth < 256) :
    (ofOctets first second third fourth).octet 0 = first ∧
      (ofOctets first second third fourth).octet 1 = second ∧
      (ofOctets first second third fourth).octet 2 = third ∧
      (ofOctets first second third fourth).octet 3 = fourth := by
  simp only [octet, ofOctets, BitVec.toNat_ushiftRight, BitVec.toNat_ofNat,
    Nat.shiftRight_eq_div_pow]
  omega

theorem ofOctets_octet (address : Ipv4) :
    ofOctets (address.octet 0) (address.octet 1) (address.octet 2) (address.octet 3) = address := by
  have bound := address.bits.isLt
  refine congrArg Ipv4.mk (BitVec.eq_of_toNat_eq ?_)
  simp only [octet, BitVec.toNat_ushiftRight, BitVec.toNat_ofNat, Nat.shiftRight_eq_div_pow]
  omega

theorem toList_written (address : Ipv4) :
    address.written.toList = ['.'].intercalate
      ([0, 1, 2, 3].map fun position => Nat.toDigits 10 (address.octet position)) := by
  rw [written, Text.join, String.toList_intercalate, List.map_map]
  refine congrArg _ (List.map_congr_left fun position _ => ?_)
  exact String.toList_ofList

theorem forall_written (address : Ipv4) (property : Char → Prop) (point : property '.')
    (digits : ∀ value < 10, property (Nat.digitChar value)) :
    ∀ character ∈ address.written.toList, property character := by
  have each (position : Nat) : ∀ digit ∈ Nat.toDigits 10 (address.octet position),
      property digit :=
    Numeral.forall_of_plain (Numeral.plain_toDigits _) digits
  rw [toList_written]
  intro character member
  simp only [List.map_cons, List.map_nil, List.intercalate_cons_cons, List.intercalate_singleton,
    List.mem_append, List.mem_singleton] at member
  rcases member with (digit | rfl) | (digit | rfl) | (digit | rfl) | digit
  all_goals first | exact point | exact each _ _ digit

theorem readCharacters?_eq_some_iff {characters : List Char} {address : Ipv4} :
    readCharacters? characters = some address ↔ characters = address.written.toList := by
  rw [toList_written]
  constructor
  · intro read
    have parted := Text.intercalate_pieces '.' characters
    unfold readCharacters? at read
    split at read
    · next first second third fourth found =>
        simp only [Option.bind_eq_bind, Option.bind_eq_some_iff, Option.pure_def,
          Option.some.injEq, readOctet?_eq_some_iff] at read
        obtain ⟨a, ⟨firstSmall, rfl⟩, b, ⟨secondSmall, rfl⟩, c, ⟨thirdSmall, rfl⟩, d,
          ⟨fourthSmall, rfl⟩, rfl⟩ := read
        obtain ⟨zero, one, two, three⟩ :=
          octet_ofOctets firstSmall secondSmall thirdSmall fourthSmall
        simp only [List.map_cons, List.map_nil, zero, one, two, three]
        rw [← parted, found]
    · cases read
  · rintro rfl
    have noPoint (position : Nat) : '.' ∉ Nat.toDigits 10 (address.octet position) := by
      intro member
      have isDigit := List.all_eq_true.mp (Numeral.plain_toDigits _) '.' member
      cases isDigit
    have read (position : Nat) :=
      readOctet?_toDigits (address.octet position) (address.octet_lt position)
    unfold readCharacters?
    rw [Text.pieces_intercalate (by simp) (by simp [noPoint])]
    simp [read, ofOctets_octet]

theorem read?_eq_some_iff {text : String} {address : Ipv4} :
    read? text = some address ↔ Text.trim text = address.written := by
  rw [read?, readCharacters?_eq_some_iff, Text.trim]
  constructor
  · intro same
    rw [same, String.ofList_toList]
  · intro same
    rw [← same, String.toList_ofList]

end Ipv4

namespace Ipv4Block

/-! ## Blocks and their texts -/

def textOf (net : Ipv4) (length : Nat) : String :=
  net.written ++ "/" ++ toString length

theorem readLength?_toDigits : ∀ length ≤ 32,
    readLength? (Nat.toDigits 10 length) = some length := by
  decide +kernel

theorem read?_textOf (net : Ipv4) {length : Nat} (within : length ≤ 32) :
    read? (textOf net length) = some (ofAddress net length) := by
  have written : (textOf net length).toList =
      net.written.toList ++ '/' :: Nat.toDigits 10 length := by
    rw [textOf, String.toList_append, String.toList_append, List.append_assoc]
    exact congrArg _ (congrArg _ String.toList_ofList)
  have noSlash : '/' ∉ net.written.toList := fun member =>
    net.forall_written (· ≠ '/') (by decide) (by decide) _ member rfl
  have noSlashAfter : '/' ∉ Nat.toDigits 10 length := by
    intro member
    have isDigit := List.all_eq_true.mp (Numeral.plain_toDigits length) '/' member
    cases isDigit
  have solid : ∀ character ∈ (textOf net length).toList, Text.isBlank character = false := by
    rw [written]
    refine List.forall_mem_append.mpr ⟨net.forall_written _ (by decide) (by decide), ?_⟩
    exact List.forall_mem_cons.mpr
      ⟨by decide, Numeral.forall_of_plain (Numeral.plain_toDigits length) (by decide)⟩
  rw [read?, Text.trimCharacters_of_solid solid, written, Text.pieces_append noSlash,
    Text.pieces_of_not_mem noSlashAfter]
  simp [Ipv4.readCharacters?_eq_some_iff.mpr rfl, readLength?_toDigits length within]

theorem getMsbD_eq_getLsbD_leading (address : Ipv4) {length position : Nat} (within : length ≤ 32)
    (inside : position < length) :
    address.bits.getMsbD position = (address.leading length).getLsbD (length - 1 - position) := by
  have place : 32 - length + (length - 1 - position) = 32 - 1 - position := by omega
  rw [BitVec.getMsbD_eq_getLsbD, Ipv4.leading, BitVec.getLsbD_ushiftRight, place,
    decide_eq_true (by omega), Bool.true_and]

theorem leading_base_ofAddress (net : Ipv4) (length : Nat) :
    (ofAddress net length).base.leading length = net.leading length := by
  refine BitVec.eq_of_getLsbD_eq fun position inside => ?_
  simp only [ofAddress, Ipv4.leading, BitVec.getLsbD_ushiftRight, BitVec.getLsbD_shiftLeft]
  by_cases outside : 32 ≤ 32 - length + position
  · rw [BitVec.getLsbD_of_ge _ _ outside, decide_eq_false (by omega)]
    rfl
  · rw [decide_eq_true (by omega), decide_eq_false (by omega), Nat.add_sub_cancel_left]
    rfl

theorem contains_ofAddress_iff {net address : Ipv4} {length : Nat} (within : length ≤ 32) :
    (ofAddress net length).contains address = true ↔
      ∀ position < length, address.bits.getMsbD position = net.bits.getMsbD position := by
  rw [contains, beq_iff_eq, show (ofAddress net length).length = length from rfl,
    leading_base_ofAddress]
  constructor
  · intro same position inside
    rw [getMsbD_eq_getLsbD_leading address within inside, same,
      ← getMsbD_eq_getLsbD_leading net within inside]
  · intro same
    refine BitVec.eq_of_getLsbD_eq fun place _ => ?_
    by_cases inside : place < length
    · have shared := same (length - 1 - place) (by omega)
      rw [getMsbD_eq_getLsbD_leading address within (by omega),
        getMsbD_eq_getLsbD_leading net within (by omega)] at shared
      rwa [show length - 1 - (length - 1 - place) = place by omega] at shared
    · rw [Ipv4.leading, Ipv4.leading, BitVec.getLsbD_ushiftRight, BitVec.getLsbD_ushiftRight,
        BitVec.getLsbD_of_ge _ _ (by omega), BitVec.getLsbD_of_ge _ _ (by omega)]

end Ipv4Block

end Network

/-! ## Criteria -/

namespace Criterion

open Network (Ipv4 Ipv4Block)
open Network.Ipv4Block (textOf)

def blockOf? (expected : Value) : Option Ipv4Block :=
  expected.operandText.toOption.bind Ipv4Block.read?

theorem blockOf?_text (text : String) : blockOf? (.text text) = Ipv4Block.read? text := rfl

def isInBlock (block : Option Ipv4Block) (actual : Value) : Bool :=
  block.any fun block => (actual.text?.bind Ipv4.read?).any block.contains

theorem passes_network (block : Option Ipv4Block) (actual : Value) :
    (ValueTest.network block).passes actual = .ok (isInBlock block actual) := by
  cases block with
  | none => cases actual <;> rfl
  | some block =>
      cases actual with
      | text content =>
          rw [ValueTest.passes]
          cases read : Ipv4.read? content <;> simp [isInBlock, Value.text?, read]
      | _ => rfl

theorem isInBlock_eq_true_iff {block : Ipv4Block} {actual : Value} :
    isInBlock (some block) actual = true ↔
      ∃ content address, actual = .text content ∧ Text.trim content = address.written ∧
        block.contains address = true := by
  simp only [isInBlock, Option.any_some, Option.any_eq_true, Option.bind_eq_some_iff,
    Ipv4.read?_eq_some_iff]
  constructor
  · rintro ⟨address, ⟨content, told, written⟩, inside⟩
    cases actual <;> cases told
    exact ⟨content, address, rfl, written, inside⟩
  · rintro ⟨content, address, rfl, written, inside⟩
    exact ⟨address, ⟨content, rfl, written⟩, inside⟩

theorem isInBlock_of_no_text {actual : Value} (noText : ∀ content, actual ≠ .text content)
    (block : Option Ipv4Block) : isInBlock block actual = false := by
  have missing : actual.text? = none := by
    cases actual with
    | text content => exact absurd rfl (noText content)
    | _ => rfl
  cases block <;> simp [isInBlock, missing]

/-- An entry can be prepared, and the criterion made of it comes to an answer for a value. -/
def Decides (rawKey value actual : Value) (answer : Bool) : Prop :=
  ∃ criterion, compile rawKey value = .ok criterion ∧ criterion.passes actual = .ok answer

theorem Decides.unique {rawKey value actual : Value} {answer other : Bool}
    (decides : Decides rawKey value actual answer) (again : Decides rawKey value actual other) :
    answer = other := by
  obtain ⟨criterion, compiled, passes⟩ := decides
  obtain ⟨same, compiledAgain, passesAgain⟩ := again
  cases compiled.symm.trans compiledAgain
  exact Except.ok.inj (passes.symm.trans passesAgain)

section

variable {field : String} {requireAll : Bool} {rawKey value : Value}

theorem verdict_eq_true_iff {answers : List Bool} :
    verdict requireAll answers = true ↔
      if requireAll then answers ≠ [] ∧ ∀ answer ∈ answers, answer = true
      else ∃ answer ∈ answers, answer = true := by
  cases requireAll <;> simp [verdict]

theorem verdict_map_false {α : Type} (items : List α) :
    verdict requireAll (items.map fun _ => false) = false := by
  cases requireAll <;> cases items <;> simp [verdict]

theorem decides_network (key : IsKeyOf field .network requireAll rawKey)
    (written : AreWritten (expectedValues value)) (actual : Value) :
    Decides rawKey value actual (verdict requireAll
      ((expectedValues value).map fun expected => isInBlock (blockOf? expected) actual)) := by
  have prepared : ∀ expected ∈ expectedValues value, ∀ shownKey,
      prepare .network shownKey expected = .ok (.network (blockOf? expected)) := by
    intro expected member shownKey
    obtain ⟨text, told⟩ := written expected member
    refine bind_eq_ok_iff.mpr ⟨text, told, ?_⟩
    rw [blockOf?, told]
    rfl
  obtain ⟨criterion, compiled, _, rfl, made⟩ := exists_compile_of_tests key prepared
  refine ⟨criterion, compiled, ?_⟩
  cases present : actual.isNull with
  | false =>
      refine passes_of_outcomes present ?_
      rw [outcomes, made, List.map_map, List.map_map]
      exact List.map_congr_left fun expected _ => passes_network _ actual
  | true =>
      have noText : ∀ content, actual ≠ .text content := by
        rintro content rfl
        cases present
      simp only [isInBlock_of_no_text noText]
      rw [verdict_map_false, passes, present]
      rfl

theorem decides_list {blocks : List Value} (key : IsKeyOf field .network requireAll rawKey)
    (written : AreWritten blocks) (actual : Value) :
    Decides rawKey (.list blocks) actual
      (verdict requireAll (blocks.map fun block => isInBlock (blockOf? block) actual)) :=
  have areWritten : AreWritten (expectedValues (.list blocks)) := written
  decides_network key areWritten actual

theorem decides_single_iff (key : IsKeyOf field .network requireAll rawKey) {block actual : Value}
    (single : expectedValues value = [block]) (written : ∃ text, block.operandText = .ok text)
    {answer : Bool} :
    Decides rawKey value actual answer ↔ isInBlock (blockOf? block) actual = answer := by
  have areWritten : AreWritten (expectedValues value) := by
    rw [single]
    exact List.forall_mem_singleton.mpr written
  have decides := decides_network key areWritten actual
  have own : verdict requireAll ((expectedValues value).map fun expected =>
      isInBlock (blockOf? expected) actual) = isInBlock (blockOf? block) actual := by
    rw [single]
    cases requireAll <;> simp [verdict]
  rw [own] at decides
  exact ⟨decides.unique, fun same => same ▸ decides⟩

theorem decides_textOf_iff (key : IsKeyOf field .network requireAll rawKey) (net : Ipv4)
    {length : Nat} (within : length ≤ 32) {actual : Value} {answer : Bool} :
    Decides rawKey (.text (textOf net length)) actual answer ↔
      isInBlock (some (Ipv4Block.ofAddress net length)) actual = answer := by
  have single : expectedValues (.text (textOf net length)) = [.text (textOf net length)] := rfl
  rw [decides_single_iff key single ⟨textOf net length, rfl⟩, blockOf?_text,
    Ipv4Block.read?_textOf net within]

/-- What a key that asks for networks makes of blocks. -/
structure ComparesLeadingBits (rawKey : Value) (requireAll : Bool) : Prop where
  /-- The text of an address, between blanks, is in a block where it has the leading bits of the
  block. -/
  shares : ∀ (net : Ipv4) (length : Nat), length ≤ 32 → ∀ actual, ∃ answer,
    Decides rawKey (.text (textOf net length)) actual answer ∧
      (answer = true ↔ ∃ (content : String) (address : Ipv4), actual = .text content ∧
        Text.trim content = address.written ∧
        ∀ position < length, address.bits.getMsbD position = net.bits.getMsbD position)
  /-- With fewer leading bits a block holds at least what it holds with more. -/
  widens : ∀ (net : Ipv4) (shorter longer : Nat), shorter ≤ longer → longer ≤ 32 → ∀ actual,
    Decides rawKey (.text (textOf net longer)) actual true →
      Decides rawKey (.text (textOf net shorter)) actual true
  /-- What is no text is in no block. -/
  onlyTexts : ∀ value, AreWritten (expectedValues value) → ∀ actual : Value,
    (∀ content, actual ≠ .text content) → Decides rawKey value actual false
  /-- Of several blocks one has to hold a value, or each where that is required. -/
  joins : ∀ value, AreWritten (expectedValues value) → ∀ actual, ∃ answer,
    Decides rawKey value actual answer ∧
      (answer = true ↔
        if requireAll then expectedValues value ≠ [] ∧
          ∀ block ∈ expectedValues value, Decides rawKey (.list [block]) actual true
        else ∃ block ∈ expectedValues value, Decides rawKey (.list [block]) actual true)
  /-- A block that cannot be read makes no difference to the others, except that not all of them
  hold a value with it among them. -/
  passesOver : ∀ (before : List Value) (malformed : Value) (after : List Value),
    AreWritten (before ++ malformed :: after) → blockOf? malformed = none → ∀ actual answer,
      (Decides rawKey (.list (before ++ malformed :: after)) actual answer ↔
        if requireAll then answer = false
        else Decides rawKey (.list (before ++ after)) actual answer)

/-- A criterion for networks compares leading bits, and fails for all that is no address or no
block. -/
theorem networks_share_leading_bits (key : IsKeyOf field .network requireAll rawKey) :
    ComparesLeadingBits rawKey requireAll where
  shares net length within actual := by
    refine ⟨_, (decides_textOf_iff key net within).mpr rfl, ?_⟩
    simp only [isInBlock_eq_true_iff, Ipv4Block.contains_ofAddress_iff within]
  widens net shorter longer ordered within actual inside := by
    rw [decides_textOf_iff key net within, isInBlock_eq_true_iff] at inside
    rw [decides_textOf_iff key net (ordered.trans within), isInBlock_eq_true_iff]
    obtain ⟨content, address, told, written, shared⟩ := inside
    refine ⟨content, address, told, written, ?_⟩
    rw [Ipv4Block.contains_ofAddress_iff within] at shared
    rw [Ipv4Block.contains_ofAddress_iff (ordered.trans within)]
    exact fun position inside => shared position (inside.trans_le ordered)
  onlyTexts value written actual noText := by
    have decides := decides_network key written actual
    simp only [isInBlock_of_no_text noText] at decides
    rwa [verdict_map_false] at decides
  joins value written actual := by
    have single : ∀ block ∈ expectedValues value, (Decides rawKey (.list [block]) actual true ↔
        isInBlock (blockOf? block) actual = true) :=
      fun block member => decides_single_iff key rfl (written block member)
    refine ⟨_, decides_network key written actual, ?_⟩
    rw [verdict_eq_true_iff, ne_eq, List.map_eq_nil_iff, List.forall_mem_map]
    simp only [List.mem_map, exists_exists_and_eq_and]
    split
    · exact and_congr_right fun _ => forall₂_congr fun block member => (single block member).symm
    · exact exists_congr fun block => and_congr_right fun member => (single block member).symm
  passesOver before malformed after written unread actual answer := by
    have others : AreWritten (before ++ after) := fun block member =>
      written block (by simp only [List.mem_append, List.mem_cons] at member ⊢; tauto)
    have outside : isInBlock (blockOf? malformed) actual = false := by rw [unread]; rfl
    have here := decides_list key written actual
    have there := decides_list key others actual
    rw [List.map_append, List.map_cons, outside] at here
    rw [List.map_append] at there
    cases requireAll with
    | true =>
        simp only [verdict, if_true, List.all_append, List.all_cons, id, Bool.false_and,
          Bool.and_false] at here
        exact ⟨fun decides => decides.unique here, fun same => same ▸ here⟩
    | false =>
        simp only [verdict, Bool.false_eq_true, if_false, List.any_append, List.any_cons, id,
          Bool.false_or] at here there
        exact ⟨fun decides => decides.unique here ▸ there, fun decides => decides.unique there ▸ here⟩

end

def hostOfTen : Ipv4 :=
  Ipv4.ofOctets 10 1 2 3

theorem textOf_hostOfTen : textOf hostOfTen 8 = "10.1.2.3/8" := by
  decide +kernel

/-- An address is in the network of a host whatever its own last octets are, also where a block
before it allows for more bits than there are. -/
theorem host_is_in_network_of_ten :
    IsKeyOf "ip" .network false (.text "ip|cidr") ∧
      Decides (.text "ip|cidr") (.text "10.1.2.3/8") (.text " 10.200.0.1\n") true ∧
      Decides (.text "ip|cidr") (.list [.text "10.0.0.0/33", .text "10.1.2.3/8"])
        (.text " 10.200.0.1\n") true ∧
      Decides (.text "ip|cidr") (.text "10.1.2.3/8") (.int 10) false := by
  have key : IsKeyOf "ip" .network false (.text "ip|cidr") :=
    ⟨"ip|cidr", _, rfl, rfl, by decide +kernel, by decide +kernel⟩
  have compares := networks_share_leading_bits key
  have written : ∀ texts : List String, AreWritten (texts.map .text) := fun texts =>
    List.forall_mem_map.mpr fun text _ => ⟨text, rfl⟩
  obtain ⟨answer, decides, inside⟩ :=
    compares.shares hostOfTen 8 (by decide) (.text " 10.200.0.1\n")
  obtain rfl : answer = true := by
    refine inside.mpr ⟨_, Ipv4.ofOctets 10 200 0 1, rfl, by decide +kernel, by decide +kernel⟩
  rw [textOf_hostOfTen] at decides
  have listed : Decides (.text "ip|cidr") (.list [.text "10.1.2.3/8"]) (.text " 10.200.0.1\n")
      true := by
    rw [decides_single_iff key rfl ⟨_, rfl⟩] at decides ⊢
    exact decides
  have malformed : blockOf? (.text "10.0.0.0/33") = none := by decide +kernel
  have among := compares.passesOver [] (.text "10.0.0.0/33") [.text "10.1.2.3/8"]
    (written ["10.0.0.0/33", "10.1.2.3/8"]) malformed (.text " 10.200.0.1\n") true
  refine ⟨key, decides, among.mpr listed, ?_⟩
  exact compares.onlyTexts (.text "10.1.2.3/8") (written ["10.1.2.3/8"]) _ (by simp)

end Criterion

end ThreatWatch
