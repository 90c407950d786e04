import SyncthingSocket.Effect.Framing

/-!
Octet strings as bits, the most significant bit of each octet first.
-/

namespace Bits

open Framing

def ofOctet (octet : UInt8) : List Bool := (List.range 8).map fun i => octet.toNat.testBit (7 - i)

def ofOctets (octets : Bytes) : List Bool := octets.flatMap ofOctet

def xorOctets (left right : Bytes) : Bytes := List.zipWith (· ^^^ ·) left right

@[simp] theorem ofOctet_length (octet : UInt8) : (ofOctet octet).length = 8 := by simp [ofOctet]

theorem ofOctets_cons (octet : UInt8) (octets : Bytes) :
    ofOctets (octet :: octets) = ofOctet octet ++ ofOctets octets :=
  List.flatMap_cons

@[simp] theorem ofOctets_length (octets : Bytes) :
    (ofOctets octets).length = 8 * octets.length := by
  induction octets with
  | nil => rfl
  | cons octet octets ih =>
      rw [ofOctets_cons, List.length_append, ofOctet_length, List.length_cons, ih]
      omega

theorem ofOctet_xor (left right : UInt8) :
    ofOctet (left ^^^ right) = List.zipWith Bool.xor (ofOctet left) (ofOctet right) := by
  refine List.ext_getElem (by simp) fun i bound _ => ?_
  simp [ofOctet, UInt8.toNat_xor, Nat.testBit_xor]

theorem ofOctets_xor {left right : Bytes} (same : left.length = right.length) :
    ofOctets (xorOctets left right) = List.zipWith Bool.xor (ofOctets left) (ofOctets right) := by
  induction left generalizing right with
  | nil => rfl
  | cons octet left ih =>
      cases right with
      | nil => simp at same
      | cons other right =>
          rw [xorOctets, List.zipWith_cons_cons, ofOctets_cons, ofOctets_cons, ofOctets_cons, ofOctet_xor,
            ← xorOctets, ih (Nat.succ.inj same), List.zipWith_append (by simp)]

end Bits
