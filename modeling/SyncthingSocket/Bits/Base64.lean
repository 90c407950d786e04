import Mathlib.Data.List.Induction
import Mathlib.Tactic.Positivity
import SyncthingSocket.Bits.Octets

/-!
Base64 (RFC 4648, section 4): the bits of the data, regrouped by six and written with an
alphabet of 64 characters, and filled up to whole quanta of four.
-/

namespace Base64

open Framing Bits

def value (bits : List Bool) : Nat := bits.foldl (fun n bit => 2 * n + bit.toNat) 0

def alphabet : List Char :=
  "ABCDEFGHIJKLMNOPQRSTUVWXYZabcdefghijklmnopqrstuvwxyz0123456789+/".toList

def sextets : List Bool → List (List Bool)
  | a :: b :: c :: d :: e :: f :: rest => [a, b, c, d, e, f] :: sextets rest
  | [] => []
  | short => [short ++ List.replicate (6 - short.length) false]

def character (n : Nat) : Char := alphabet.getD n '='

def digit (sextet : List Bool) : Char := character (value sextet)

def padding (digits : Nat) : List Char := List.replicate ((4 - digits % 4) % 4) '='

def encode (data : Bytes) : List Char :=
  let digits := (sextets (ofOctets data)).map digit
  digits ++ padding digits.length

def digitBits (c : Char) : Option (List Bool) :=
  (alphabet.idxOf? c).map fun n => (List.range 6).map fun i => n.testBit (5 - i)

def octets : List Bool → Bytes
  | a :: b :: c :: d :: e :: f :: g :: h :: rest =>
      UInt8.ofNat (value [a, b, c, d, e, f, g, h]) :: octets rest
  | _ => []

def decode (encoded : List Char) : Option Bytes :=
  let digits := encoded.takeWhile (· ≠ '=')
  if encoded = digits ++ padding digits.length then (digits.mapM digitBits).map fun sextets =>
    octets sextets.flatten
  else none

/-! The number that bits denote. -/

theorem value_append (bits more : List Bool) :
    value (bits ++ more) = value bits * 2 ^ more.length + value more := by
  have general : ∀ (more : List Bool) (start : Nat),
      more.foldl (fun n bit => 2 * n + bit.toNat) start = start * 2 ^ more.length + value more := by
    intro more
    induction more with
    | nil =>
        intro start
        simp [value]
    | cons bit more ih =>
        intro start
        rw [value, List.foldl_cons, List.foldl_cons, ih, ih (2 * 0 + bit.toNat),
          List.length_cons, Nat.pow_succ, Nat.add_mul, Nat.add_mul, ← Nat.add_assoc,
          Nat.mul_comm 2 start, Nat.mul_assoc, Nat.mul_comm 2 (2 ^ _)]
        omega
  rw [value, List.foldl_append, general, ← value]

theorem value_lt (bits : List Bool) : value bits < 2 ^ bits.length := by
  induction bits using List.reverseRecOn with
  | nil => simp [value]
  | append_singleton bits bit ih =>
      have last : value [bit] ≤ 1 := by cases bit <;> decide
      rw [value_append, List.length_append, List.length_singleton, Nat.pow_succ]
      omega

theorem value_ofOctet (octet : UInt8) : value (ofOctet octet) = octet.toNat := by
  have every : ∀ n : Fin 256, value (ofOctet (UInt8.ofNat n.val)) = (UInt8.ofNat n.val).toNat := by
    decide +kernel
  have this := every ⟨octet.toNat, octet.toNat_lt⟩
  rwa [UInt8.ofNat_toNat] at this

theorem value_parts (octet : UInt8) (count : Nat) :
    value ((ofOctet octet).take count) = octet.toNat / 2 ^ (8 - count) ∧
    value ((ofOctet octet).drop count) = octet.toNat % 2 ^ (8 - count) := by
  have whole := value_ofOctet octet
  have low := value_lt ((ofOctet octet).drop count)
  rw [← List.take_append_drop count (ofOctet octet), value_append] at whole
  rw [List.length_drop, ofOctet_length] at whole low
  rw [← whole]
  refine ⟨?_, ?_⟩
  · rw [Nat.mul_comm, Nat.mul_add_div (by positivity), Nat.div_eq_of_lt low, Nat.add_zero]
  · rw [Nat.mul_comm, Nat.mul_add_mod, Nat.mod_eq_of_lt low]

/-! Regrouping loses nothing. -/

theorem sextets_short {bits : List Bool} (nonempty : bits ≠ []) (short : bits.length < 6) :
    sextets bits = [bits ++ List.replicate (6 - bits.length) false] := by
  rw [sextets]
  · rintro a b c d e f rest rfl
    simp only [List.length_cons] at short
    omega
  · exact nonempty

theorem length_lt_six {bits : List Bool}
    (few : ∀ a b c d e f rest, bits = a :: b :: c :: d :: e :: f :: rest → False) :
    bits.length < 6 :=
  match bits with
  | [] | [_] | [_, _] | [_, _, _] | [_, _, _, _] | [_, _, _, _, _] => by simp
  | a :: b :: c :: d :: e :: f :: rest => (few a b c d e f rest rfl).elim

theorem sextets_flatten (bits : List Bool) :
    ∃ fill, (sextets bits).flatten = bits ++ List.replicate fill false ∧ fill < 6 := by
  induction bits using sextets.induct with
  | case1 a b c d e f rest ih =>
      obtain ⟨fill, flat, short⟩ := ih
      refine ⟨fill, ?_, short⟩
      rw [sextets, List.flatten_cons, flat]
      rfl
  | case2 => exact ⟨0, rfl, by decide⟩
  | case3 short few nonempty =>
      have positive : 0 < short.length := List.length_pos_of_ne_nil nonempty
      refine ⟨6 - short.length, ?_, by omega⟩
      rw [sextets_short nonempty (length_lt_six few), List.flatten_singleton]

theorem sextets_length (bits : List Bool) : ∀ sextet ∈ sextets bits, sextet.length = 6 := by
  induction bits using sextets.induct with
  | case1 a b c d e f rest ih =>
      intro sextet member
      rw [sextets, List.mem_cons] at member
      rcases member with rfl | later
      · rfl
      · exact ih sextet later
  | case2 => simp [sextets]
  | case3 short few nonempty =>
      have bound := length_lt_six few
      rw [sextets_short nonempty bound]
      intro sextet member
      rw [List.mem_singleton.mp member, List.length_append, List.length_replicate]
      omega

theorem octets_ofOctet (octet : UInt8) (rest : List Bool) :
    octets (ofOctet octet ++ rest) = octet :: octets rest := by
  have first : ∀ bits : List Bool, bits.length = 8 →
      octets (bits ++ rest) = UInt8.ofNat (value bits) :: octets rest := by
    intro bits size
    match bits, size with
    | [_, _, _, _, _, _, _, _], _ => rfl
  rw [first _ (ofOctet_length octet), value_ofOctet, UInt8.ofNat_toNat]

theorem octets_ofOctets (data : Bytes) (rest : List Bool) (short : rest.length < 8) :
    octets (ofOctets data ++ rest) = data := by
  induction data with
  | nil =>
      rw [ofOctets, List.flatMap_nil, List.nil_append, octets]
      rintro a b c d e f g h rest rfl
      simp only [List.length_cons] at short
      omega
  | cons octet data ih => rw [ofOctets_cons, List.append_assoc, octets_ofOctet, ih]

/-! The alphabet. -/

theorem digitBits_digit {sextet : List Bool} (size : sextet.length = 6) :
    digitBits (digit sextet) = some sextet := by
  have every : ∀ a b c d e f : Bool, digitBits (digit [a, b, c, d, e, f]) = some [a, b, c, d, e, f] := by
    decide +kernel
  match sextet, size with
  | [a, b, c, d, e, f], _ => exact every a b c d e f

theorem alphabet_plain : '=' ∉ alphabet := by decide +kernel

theorem digit_mem {sextet : List Bool} (size : sextet.length = 6) : digit sextet ∈ alphabet := by
  have bits := digitBits_digit size
  obtain ⟨n, found, _⟩ := Option.map_eq_some_iff.mp bits
  exact List.isSome_idxOf?.mp (by rw [found]; rfl)

theorem digits_mapM {groups : List (List Bool)} (sizes : ∀ sextet ∈ groups, sextet.length = 6) :
    (groups.map digit).mapM digitBits = some groups := by
  induction groups with
  | nil => rfl
  | cons sextet groups ih =>
      rw [List.map_cons, List.mapM_cons, digitBits_digit (sizes sextet (by simp)),
        ih fun other member => sizes other (List.mem_cons_of_mem _ member)]
      rfl

theorem decode_encode (data : Bytes) : decode (encode data) = some data := by
  have sizes := sextets_length (ofOctets data)
  obtain ⟨fill, flat, short⟩ := sextets_flatten (ofOctets data)
  have plain : ∀ c ∈ (sextets (ofOctets data)).map digit, decide (c ≠ '=') = true := by
    intro c member
    obtain ⟨sextet, inside, rfl⟩ := List.mem_map.mp member
    have known := digit_mem (sizes sextet inside)
    rw [decide_eq_true_eq]
    intro same
    exact alphabet_plain (same ▸ known)
  have digits : (encode data).takeWhile (· ≠ '=') = (sextets (ofOctets data)).map digit := by
    rw [encode, List.takeWhile_append_of_pos plain]
    have filled : ∀ count : Nat, (List.replicate count '=').takeWhile (· ≠ '=') = [] := by
      intro count
      cases count <;> simp
    rw [padding, filled, List.append_nil]
  have whole : encode data =
      (sextets (ofOctets data)).map digit ++ padding ((sextets (ofOctets data)).map digit).length :=
    rfl
  rw [decode]
  simp only [digits]
  rw [if_pos whole, digits_mapM sizes, Option.map_some, flat,
    octets_ofOctets _ _ (by rw [List.length_replicate]; omega)]

theorem encode_chars (data : Bytes) : ∀ c ∈ encode data, c ∈ alphabet ∨ c = '=' := by
  intro c member
  rw [encode, List.mem_append] at member
  rcases member with digit | filler
  · obtain ⟨sextet, inside, rfl⟩ := List.mem_map.mp digit
    exact Or.inl (digit_mem (sextets_length _ sextet inside))
  · exact Or.inr (List.eq_of_mem_replicate filler)

/-! The same by quanta: three octets make four digits. -/

theorem sextets_three {a b c : List Bool} (sizeA : a.length = 8) (sizeB : b.length = 8)
    (sizeC : c.length = 8) (rest : List Bool) :
    sextets (a ++ (b ++ (c ++ rest))) =
      [a.take 6, a.drop 6 ++ b.take 4, b.drop 4 ++ c.take 2, c.drop 2] ++ sextets rest := by
  match a, sizeA, b, sizeB, c, sizeC with
  | [_, _, _, _, _, _, _, _], _, [_, _, _, _, _, _, _, _], _, [_, _, _, _, _, _, _, _], _ => rfl

theorem sextets_two {a b : List Bool} (sizeA : a.length = 8) (sizeB : b.length = 8) :
    sextets (a ++ b) = [a.take 6, a.drop 6 ++ b.take 4, b.drop 4 ++ [false, false]] := by
  match a, sizeA, b, sizeB with
  | [_, _, _, _, _, _, _, _], _, [_, _, _, _, _, _, _, _], _ => rfl

theorem sextets_one {a : List Bool} (sizeA : a.length = 8) :
    sextets a = [a.take 6, a.drop 6 ++ [false, false, false, false]] := by
  match a, sizeA with
  | [_, _, _, _, _, _, _, _], _ => rfl

theorem encode_three (a b c : UInt8) (rest : Bytes) :
    encode (a :: b :: c :: rest) =
      [character (a.toNat / 4), character (a.toNat % 4 * 16 + b.toNat / 16),
        character (b.toNat % 16 * 4 + c.toNat / 64), character (c.toNat % 64)] ++ encode rest := by
  have four : ∀ digits : List Char, padding (4 + digits.length) = padding digits.length := by
    intro digits
    rw [padding, padding, Nat.add_mod_left]
  have groups := sextets_three (ofOctet_length a) (ofOctet_length b) (ofOctet_length c) (ofOctets rest)
  have middle : ((ofOctet b).take 4).length = 4 := by simp
  have low : ((ofOctet c).take 2).length = 2 := by simp
  rw [encode, ofOctets_cons, ofOctets_cons, ofOctets_cons, groups, encode]
  simp only [List.map_append, List.length_append, List.map_cons, List.map_nil, List.length_cons,
    List.length_nil, digit, value_append, middle, low]
  rw [(value_parts a 6).1, (value_parts a 6).2, (value_parts b 4).1, (value_parts b 4).2,
    (value_parts c 2).1, (value_parts c 2).2, show 0 + 1 + 1 + 1 + 1 = 4 from rfl, four,
    List.append_assoc]
  rfl

theorem encode_two (a b : UInt8) :
    encode [a, b] = [character (a.toNat / 4), character (a.toNat % 4 * 16 + b.toNat / 16),
      character (b.toNat % 16 * 4), '='] := by
  have middle : ((ofOctet b).take 4).length = 4 := by simp
  have empty : ofOctets [] = [] := rfl
  rw [encode, ofOctets_cons, ofOctets_cons, empty, List.append_nil,
    sextets_two (ofOctet_length a) (ofOctet_length b)]
  simp only [List.map_cons, List.map_nil, List.length_cons, List.length_nil, digit, value_append, middle]
  rw [(value_parts a 6).1, (value_parts a 6).2, (value_parts b 4).1, (value_parts b 4).2]
  rfl

theorem encode_one (a : UInt8) :
    encode [a] = [character (a.toNat / 4), character (a.toNat % 4 * 16), '=', '='] := by
  have empty : ofOctets [] = [] := rfl
  rw [encode, ofOctets_cons, empty, List.append_nil, sextets_one (ofOctet_length a)]
  simp only [List.map_cons, List.map_nil, List.length_cons, List.length_nil, digit, value_append]
  rw [(value_parts a 6).1, (value_parts a 6).2]
  rfl

theorem character_mem {n : Nat} (small : n < 64) : character n ∈ alphabet := by
  have size : n < alphabet.length := small
  rw [character, List.getD_eq_getElem?_getD, List.getElem?_eq_getElem size]
  exact List.getElem_mem size

theorem encode_unpadded {quanta : Nat} {data : Bytes} (whole : data.length = 3 * quanta) :
    (encode data).length = 4 * quanta ∧ '=' ∉ encode data := by
  induction quanta generalizing data with
  | zero =>
      rw [List.eq_nil_of_length_eq_zero whole]
      decide
  | succ quanta ih =>
      match data, whole with
      | a :: b :: c :: rest, whole =>
          have shorter : rest.length = 3 * quanta := by
            simp only [List.length_cons] at whole
            omega
          obtain ⟨length, unpadded⟩ := ih shorter
          have small := a.toNat_lt
          have next := b.toNat_lt
          have last := c.toNat_lt
          have plain : ∀ n < 64, '=' ≠ character n :=
            fun n small same => alphabet_plain (same ▸ character_mem small)
          rw [encode_three]
          refine ⟨?_, ?_⟩
          · rw [List.length_append, length]
            simp only [List.length_cons, List.length_nil]
            omega
          · simp only [List.mem_append, List.mem_cons, List.not_mem_nil, or_false, not_or]
            exact ⟨⟨plain _ (by omega), plain _ (by omega), plain _ (by omega),
              plain _ (by omega)⟩, unpadded⟩

end Base64
