import Mathlib.Algebra.Group.Nat.Basic
import Boulder.GoStrings

/-!
# `base64.RawURLEncoding` (`encoding/base64`)

The token of an authorization is stored as the bytes `base64.RawURLEncoding.DecodeString` gives,
and served as `EncodeToString` of them.  Both are transcribed from Go's `encoding/base64`:

* `encode` — `Encode`: three bytes at a time into four characters of the URL alphabet, then a
  final one or two bytes into two or three characters, with no padding;
* `decode` — `Decode` as `decodeQuantum` runs it: four characters at a time into three bytes,
  skipping `\r` and `\n`; any other byte outside the alphabet, `=` included, and a final lone
  character are a `CorruptInputError` at their offset; a final quantum of two or three
  characters gives one or two bytes, its unused low bits ignored (the encoding is not
  `Strict`).

Principal result: `DecodeString_EncodeToString` — decoding the encoding of any bytes gives them
back, so `EncodeToString` of a decoded token is the token whenever the token is an encoding.
-/

set_option autoImplicit false

namespace Boulder

namespace Base64

/-- The alphabet of `URLEncoding`. -/
def encodeURL : List Char :=
  "ABCDEFGHIJKLMNOPQRSTUVWXYZabcdefghijklmnopqrstuvwxyz0123456789-_".toList

/-- `enc.encode[v]`: the character of a sextet. -/
def encodeChar (v : Nat) : Char := encodeURL.getD v 'A'

/-- `enc.decodeMap[c]`: the sextet of a character of the alphabet. -/
def decodeMap (c : Char) : Option Nat := encodeURL.indexOf? c

/-- `val>>s&0x3F`: a sextet of a 24-bit group. -/
def sextet (val s : Nat) : Nat := val >>> s &&& 0x3F

/-- `Encode`.  A group is `uint(src[0])<<16 | uint(src[1])<<8 | uint(src[2])`; the bytes take
disjoint bits, so the `|` is a sum. -/
def encode : List UInt8 → List Char
  | x :: y :: z :: rest =>
    let val := x.toNat * 2^16 + y.toNat * 2^8 + z.toNat
    [encodeChar (sextet val 18), encodeChar (sextet val 12), encodeChar (sextet val 6),
      encodeChar (sextet val 0)] ++ encode rest
  | [x, y] =>
    let val := x.toNat * 2^16 + y.toNat * 2^8
    [encodeChar (sextet val 18), encodeChar (sextet val 12), encodeChar (sextet val 6)]
  | [x] =>
    let val := x.toNat * 2^16
    [encodeChar (sextet val 18), encodeChar (sextet val 12)]
  | [] => []

/-- The bytes of a quantum of `dlen` sextets, the missing ones `0`: `dlen - 1` bytes of
`val = dbuf[0]<<18 | dbuf[1]<<12 | dbuf[2]<<6 | dbuf[3]`. -/
def quantumBytes (dbuf : List Nat) : List UInt8 :=
  let val := dbuf.getD 0 0 * 2^18 + dbuf.getD 1 0 * 2^12 + dbuf.getD 2 0 * 2^6 + dbuf.getD 3 0
  [UInt8.ofNat (val >>> 16), UInt8.ofNat (val >>> 8), UInt8.ofNat val].take (dbuf.length - 1)

/-- `Decode`, from offset `si` of the input, with the sextets `dbuf` of the current quantum read
so far: the bytes, or the offset of a `CorruptInputError`. -/
def decode : List Char → Nat → List Nat → Except Nat (List UInt8)
  | [], si, dbuf => if dbuf.length = 1 then .error (si - 1) else .ok (quantumBytes dbuf)
  | c :: rest, si, dbuf =>
    match decodeMap c with
    | some v =>
      if dbuf.length = 3 then (quantumBytes (dbuf ++ [v]) ++ ·) <$> decode rest (si + 1) []
      else decode rest (si + 1) (dbuf ++ [v])
    | none => if c = '\n' ∨ c = '\r' then decode rest (si + 1) dbuf else .error si

end Base64

/-- `CorruptInputError.Error`: the error of a `CorruptInputError` at offset `n`. -/
def CorruptInputError (n : Nat) : String :=
  "illegal base64 data at input byte " ++ toString n

/-- `base64.RawURLEncoding.EncodeToString`. -/
def EncodeToString (src : List UInt8) : GoString := Base64.encode src

/-- `base64.RawURLEncoding.DecodeString`: the bytes, or the offset of a `CorruptInputError`. -/
def DecodeString (s : GoString) : Except Nat (List UInt8) := Base64.decode s 0 []

namespace Base64

/-! ## Decoding an encoding -/

theorem decodeMap_encodeChar : ∀ v < 64, decodeMap (encodeChar v) = some v := by decide

theorem sextet_eq (val s : Nat) : sextet val s = val / 2^s % 64 := by
  rw [sextet, Nat.shiftRight_eq_div_pow, show (0x3F : Nat) = 2^6 - 1 from rfl,
    Nat.and_pow_two_sub_one_eq_mod]

theorem sextet_lt (val s : Nat) : sextet val s < 64 := by
  rw [sextet_eq]
  exact Nat.mod_lt _ (by decide)

theorem decodeMap_sextet (val s : Nat) :
    decodeMap (encodeChar (sextet val s)) = some (sextet val s) :=
  decodeMap_encodeChar _ (sextet_lt val s)

theorem toNat_ofNat (n : Nat) : (UInt8.ofNat n).toNat = n % 256 := by
  simp [UInt8.ofNat, UInt8.toNat, BitVec.toNat_ofNat]

/-- A byte is the byte of its own value. -/
theorem ofNat_eq {x : UInt8} {n : Nat} (h : n % 256 = x.toNat) : UInt8.ofNat n = x :=
  UInt8.toNat.inj (by rw [toNat_ofNat, h])

/-- The sextets of a 24-bit group, put back together, are the group. -/
theorem sextets_val {val : Nat} (h : val < 2^24) :
    sextet val 18 * 2^18 + sextet val 12 * 2^12 + sextet val 6 * 2^6 + sextet val 0 = val := by
  simp only [sextet_eq]
  omega

/-- The bytes of the four sextets of a group of three bytes are those bytes. -/
theorem quantumBytes_three (x y z : UInt8) :
    let val := x.toNat * 2^16 + y.toNat * 2^8 + z.toNat
    quantumBytes [sextet val 18, sextet val 12, sextet val 6, sextet val 0] = [x, y, z] := by
  intro val
  have hx : x.toNat < 256 := x.toBitVec.isLt
  have hy : y.toNat < 256 := y.toBitVec.isLt
  have hz : z.toNat < 256 := z.toBitVec.isLt
  simp only [quantumBytes, List.getD_cons_zero, List.getD_cons_succ, sextets_val
    (show val < 2^24 by omega), Nat.shiftRight_eq_div_pow, List.length_cons, List.length_nil,
    List.take, List.cons.injEq, and_true]
  refine ⟨ofNat_eq ?_, ofNat_eq ?_, ofNat_eq ?_⟩ <;> omega

theorem quantumBytes_two (x y : UInt8) :
    let val := x.toNat * 2^16 + y.toNat * 2^8
    quantumBytes [sextet val 18, sextet val 12, sextet val 6] = [x, y] := by
  intro val
  have hx : x.toNat < 256 := x.toBitVec.isLt
  have hy : y.toNat < 256 := y.toBitVec.isLt
  have h0 : sextet val 0 = 0 := by simp only [sextet_eq]; omega
  have hv := sextets_val (show val < 2^24 by omega)
  rw [h0] at hv
  simp only [quantumBytes, List.getD_cons_zero, List.getD_cons_succ, List.getD_nil, hv,
    Nat.shiftRight_eq_div_pow, List.length_cons, List.length_nil, List.take, List.cons.injEq,
    and_true]
  refine ⟨ofNat_eq ?_, ofNat_eq ?_⟩ <;> omega

theorem quantumBytes_one (x : UInt8) :
    let val := x.toNat * 2^16
    quantumBytes [sextet val 18, sextet val 12] = [x] := by
  have hx : x.toNat < 256 := x.toBitVec.isLt
  simp only [quantumBytes, sextet_eq, Nat.shiftRight_eq_div_pow, List.getD_cons_zero,
    List.getD_cons_succ, List.getD_nil, List.length_cons, List.length_nil, List.take,
    List.cons.injEq, and_true]
  exact ofNat_eq (by omega)

theorem decode_four (val : Nat) (rest : List Char) (si : Nat) :
    decode ([encodeChar (sextet val 18), encodeChar (sextet val 12), encodeChar (sextet val 6),
      encodeChar (sextet val 0)] ++ rest) si [] =
      (quantumBytes [sextet val 18, sextet val 12, sextet val 6, sextet val 0] ++ ·) <$>
        decode rest (si + 1 + 1 + 1 + 1) [] := by
  simp [decode, decodeMap_sextet]

/-- **Decoding an encoding gives the bytes back**, from any offset. -/
theorem decode_encode : ∀ (src : List UInt8) (si : Nat), decode (encode src) si [] = .ok src
  | x :: y :: z :: rest, si => by
    rw [encode, decode_four, decode_encode rest, quantumBytes_three]
    rfl
  | [x, y], si => by
    simp only [encode]
    simpa [decode, decodeMap_sextet] using quantumBytes_two x y
  | [x], si => by
    simp only [encode]
    simpa [decode, decodeMap_sextet] using quantumBytes_one x
  | [], si => rfl

end Base64

/-- **`DecodeString` inverts `EncodeToString`.** -/
theorem DecodeString_EncodeToString (src : List UInt8) :
    DecodeString (EncodeToString src) = .ok src :=
  Base64.decode_encode src 0

end Boulder
