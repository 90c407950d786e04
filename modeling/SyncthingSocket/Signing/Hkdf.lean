import SyncthingSocket.Effect.Framing

/-!
HKDF (RFC 5869) over any keyed hash, as a reader: blocks are hashed one after another,
each over the one before it, and what a read leaves of its last block is kept for the next.
-/

namespace Hkdf

open Framing

structure Mac where
  sum : Bytes → Bytes → Bytes
  size : Nat
  sum_length : ∀ key message, (sum key message).length = size
  size_pos : 0 < size

structure Reader where
  key : Bytes
  info : Bytes
  counter : UInt8
  prev : Bytes
  buf : Bytes
  deriving DecidableEq, Repr

variable (mac : Mac)

def extract (secret salt : Bytes) : Bytes := mac.sum salt secret

def newReader (secret salt info : Bytes) : Reader :=
  { key := extract mac secret salt, info := info, counter := 1, prev := [], buf := [] }

def Reader.block (reader : Reader) : Bytes :=
  mac.sum reader.key (reader.prev ++ reader.info ++ [reader.counter])

/-- The loop of `Read`: `need` bytes of the blocks that follow. -/
def Reader.fill : Nat → Reader → Nat → Bytes × Reader
  | 0, reader, _ => ([], reader)
  | fuel + 1, reader, need =>
      if need = 0 then ([], reader)
      else
        let block := reader.block mac
        let after := { reader with prev := block, counter := reader.counter + 1, buf := block.drop need }
        let rest := Reader.fill fuel after (need - block.length)
        (block.take need ++ rest.1, rest.2)

/-- `none` when the limit of 255 blocks is passed. -/
def Reader.read (reader : Reader) (need : Nat) : Option (Bytes × Reader) :=
  let remains := reader.buf.length + (255 - reader.counter + 1).toNat * mac.size
  if remains < need then none
  else
    let kept := reader.buf.take need
    let rest := Reader.fill mac need { reader with buf := reader.buf.drop need } (need - kept.length)
    some (kept ++ rest.1, rest.2)

theorem read_first (secret salt info : Bytes) {need : Nat} (short : need ≤ mac.size) :
    ((newReader mac secret salt info).read mac need).map Prod.fst =
      some ((mac.sum (extract mac secret salt) (info ++ [1])).take need) := by
  have room : ¬ (newReader mac secret salt info).buf.length +
      (255 - (newReader mac secret salt info).counter + 1).toNat * mac.size < need := by
    have blocks : (255 - (newReader mac secret salt info).counter + 1).toNat = 255 := by
      change (255 - 1 + 1 : UInt8).toNat = 255
      decide
    rw [blocks]
    have grows : mac.size ≤ 255 * mac.size := Nat.le_mul_of_pos_left _ (by decide)
    omega
  rw [Reader.read, if_neg room]
  cases need with
  | zero => rfl
  | succ need =>
      have exhausted : need + 1 - (mac.sum (extract mac secret salt) (info ++ [1])).length = 0 := by
        rw [mac.sum_length]
        omega
      have ended : ∀ (reader : Reader), Reader.fill mac need reader 0 = ([], reader) := by
        intro reader
        cases need <;> simp [Reader.fill]
      simp only [newReader, Reader.fill, Reader.block, List.take_nil, List.length_nil, Nat.sub_zero,
        List.nil_append, Option.map_some, Nat.add_eq_zero_iff, Nat.one_ne_zero, and_false, if_false,
        exhausted, ended, List.append_nil]

end Hkdf
