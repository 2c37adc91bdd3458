/-
Binary data interleaved with a stream of text: a dollar sign, a channel number,
the length as a big-endian number of two bytes, and the data.  The decoder reads
a whole stream of such frames; it fails on anything else, also on a frame that
is cut short.
-/

import Mathlib.Algebra.Group.Nat.Defs
import Mathlib.Data.List.Basic

namespace Ffvms

structure InterleavedFrame where
  channel : UInt8
  data : List UInt8
  deriving DecidableEq, Repr

namespace InterleavedFrame

def marker : UInt8 := 0x24

def encode (frame : InterleavedFrame) : List UInt8 :=
  [marker, frame.channel, UInt8.ofNat (frame.data.length >>> 8),
    UInt8.ofNat (frame.data.length &&& 0xff)] ++ frame.data

def decode : List UInt8 → Option (List InterleavedFrame)
  | [] => some []
  | first :: channel :: high :: low :: rest =>
      let length := high.toNat * 256 + low.toNat
      if first = marker ∧ length ≤ rest.length then
        (decode (rest.drop length)).map (⟨channel, rest.take length⟩ :: ·)
      else none
  | [_] | [_, _] | [_, _, _] => none
termination_by bytes => bytes.length
decreasing_by
  rw [List.length_drop, List.length_cons, List.length_cons, List.length_cons, List.length_cons]
  omega

theorem length_of_bytes {length : Nat} (fits : length < 2 ^ 16) :
    (UInt8.ofNat (length >>> 8)).toNat * 256 + (UInt8.ofNat (length &&& 0xff)).toNat = length := by
  have low : length &&& 0xff = length % 256 := Nat.and_two_pow_sub_one_eq_mod length 8
  rw [low, Nat.shiftRight_eq_div_pow, UInt8.toNat_ofNat', UInt8.toNat_ofNat']
  omega

theorem decode_encode_append {frame : InterleavedFrame} (fits : frame.data.length < 2 ^ 16)
    (rest : List UInt8) :
    decode (frame.encode ++ rest) = (decode rest).map (frame :: ·) := by
  unfold encode
  rw [List.append_assoc]
  simp only [List.cons_append, List.nil_append]
  rw [decode, length_of_bytes fits]
  rw [if_pos ⟨rfl, by rw [List.length_append]; omega⟩, List.drop_left, List.take_left]

/-- Any sequence of frames is read back from its concatenation. -/
theorem decode_flatMap_encode {frames : List InterleavedFrame}
    (fit : ∀ frame ∈ frames, frame.data.length < 2 ^ 16) :
    decode (frames.flatMap encode) = some frames := by
  induction frames with
  | nil => rw [List.flatMap_nil, decode]
  | cons frame rest ih =>
      have here := fit frame List.mem_cons_self
      have later := ih (fun other member => fit other (List.mem_cons_of_mem frame member))
      rw [List.flatMap_cons, decode_encode_append here, later]
      rfl

end InterleavedFrame

end Ffvms
