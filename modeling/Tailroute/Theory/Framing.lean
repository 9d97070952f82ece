/-
# Theory.Framing — payloads behind a two-byte length

A stream of frames: each payload follows its length in two bytes, the high byte first.
Writing payloads of at most 65535 bytes and reading them back gives the same payloads;
a longer one would be announced with its length modulo 65536.
-/
import Mathlib.Data.List.Flatten

namespace Tailroute.Theory

set_option autoImplicit false

/-- The number two bytes stand for, the high byte first. -/
def fromBeBytes (hi lo : UInt8) : Nat := hi.toNat * 256 + lo.toNat

/-- The low sixteen bits of a length as two bytes. -/
def toBeBytes (n : Nat) : List UInt8 := [UInt8.ofNat (n / 256), UInt8.ofNat n]

theorem fromBeBytes_toBeBytes {n : Nat} (short : n < 65536) :
    fromBeBytes (UInt8.ofNat (n / 256)) (UInt8.ofNat n) = n := by
  simp only [fromBeBytes, UInt8.toNat_ofNat']
  omega

theorem toBeBytes_fromBeBytes (hi lo : UInt8) : toBeBytes (fromBeBytes hi lo) = [hi, lo] := by
  have low := lo.toNat_lt
  have high : (hi.toNat * 256 + lo.toNat) / 256 = hi.toNat := by omega
  rw [toBeBytes, fromBeBytes, high, UInt8.ofNat_toNat]
  congr 2
  apply UInt8.toNat_inj.mp
  rw [UInt8.toNat_ofNat']
  omega

/-- A payload behind its length. -/
def frame (payload : List UInt8) : List UInt8 := toBeBytes payload.length ++ payload

/-- The complete frames of a stream, and the bytes after the last of them. -/
def deframe : List UInt8 → List (List UInt8) × List UInt8
  | hi :: lo :: rest =>
      if fromBeBytes hi lo ≤ rest.length then
        let (payloads, left) := deframe (rest.drop (fromBeBytes hi lo))
        (rest.take (fromBeBytes hi lo) :: payloads, left)
      else ([], hi :: lo :: rest)
  | stream => ([], stream)
termination_by stream => stream.length
decreasing_by
  simp only [List.length_drop, List.length_cons]
  omega

theorem deframe_cons {hi lo : UInt8} {rest : List UInt8} (whole : fromBeBytes hi lo ≤ rest.length) :
    deframe (hi :: lo :: rest) =
      (rest.take (fromBeBytes hi lo) :: (deframe (rest.drop (fromBeBytes hi lo))).1,
        (deframe (rest.drop (fromBeBytes hi lo))).2) := by
  rw [deframe, if_pos whole]

theorem deframe_cut {hi lo : UInt8} {rest : List UInt8} (cut : rest.length < fromBeBytes hi lo) :
    deframe (hi :: lo :: rest) = ([], hi :: lo :: rest) := by
  rw [deframe, if_neg (by omega)]

theorem deframe_of_length {stream : List UInt8} (short : stream.length < 2) :
    deframe stream = ([], stream) := by
  match stream, short with
  | [], _ => rw [deframe]; simp
  | [_], _ => rw [deframe]; simp

theorem deframe_frame_append {payload : List UInt8} (short : payload.length < 65536)
    (more : List UInt8) :
    deframe (frame payload ++ more) = (payload :: (deframe more).1, (deframe more).2) := by
  have length := fromBeBytes_toBeBytes short
  have whole : fromBeBytes (UInt8.ofNat (payload.length / 256)) (UInt8.ofNat payload.length) ≤
      (payload ++ more).length := by
    rw [length, List.length_append]
    omega
  show deframe (_ :: _ :: (payload ++ more)) = _
  rw [deframe_cons whole, length, List.take_left, List.drop_left]

/-- Every stream is its complete frames and what is left of it. -/
theorem flatMap_frame_deframe (stream : List UInt8) :
    (deframe stream).1.flatMap frame ++ (deframe stream).2 = stream := by
  fun_induction deframe stream with
  | case1 hi lo rest whole payloads left split ih =>
      rw [split] at ih
      have length : (rest.take (fromBeBytes hi lo)).length = fromBeBytes hi lo :=
        List.length_take_of_le whole
      rw [List.flatMap_cons, List.append_assoc, ih, frame, length, toBeBytes_fromBeBytes,
        List.append_assoc, List.take_append_drop]
      rfl
  | case2 hi lo rest cut => rfl
  | case3 stream short => rfl

/-- No frame is left in what is left. -/
theorem deframe_left (stream : List UInt8) :
    deframe (deframe stream).2 = ([], (deframe stream).2) := by
  fun_induction deframe stream with
  | case1 hi lo rest whole payloads left split ih =>
      rw [split] at ih
      exact ih
  | case2 hi lo rest cut => exact deframe_cut (by omega)
  | case3 stream short => exact deframe.eq_2 stream short

/-- What was framed is read back. -/
theorem deframe_flatMap_frame {payloads : List (List UInt8)}
    (short : ∀ payload ∈ payloads, payload.length < 65536) :
    deframe (payloads.flatMap frame) = (payloads, []) := by
  induction payloads with
  | nil => exact deframe_of_length (by decide)
  | cons payload rest ih =>
      rw [List.flatMap_cons, deframe_frame_append (short payload List.mem_cons_self),
        ih fun other listed => short other (List.mem_cons_of_mem payload listed)]

end Tailroute.Theory
